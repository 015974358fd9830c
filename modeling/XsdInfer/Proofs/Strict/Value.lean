import XsdInfer.Proofs.FirstSeen
import XsdInfer.Proofs.Sample.Reference
import XsdInfer.Strict.Reference

/-!
# Values read strictly

Main statement: an escaped value is read back as it counts (`resolve_escape`). Only line ends and tabs
count as something else than themselves (`normalText_of_plain`), and what counts as a text without spaces is
that text (`eq_of_normalText`).
-/

namespace XsdInfer.Strict

/-- None of the characters that are escaped takes part in a line end. -/
lemma normalChars_append {c : Char} (h : normalChar c = c) (line : c ≠ '\n') (plain s : List Char) :
    normalChars (plain ++ c :: s) = normalChars plain ++ c :: normalChars s := by
  have front (s : List Char) : normalChars (c :: s) = c :: normalChars s := by
    have carriage : c ≠ '\r' := by
      rintro rfl
      exact absurd h (by decide)
    rw [normalChars.eq_def]
    split
    next same => exact absurd (List.cons.inj same).1 carriage
    next same => cases same; rw [h]
    next same => cases same
  fun_induction normalChars plain with
  | case1 plain ih => rw [List.cons_append, List.cons_append, normalChars, ih, List.cons_append]
  | case2 a plain other ih =>
    rw [List.cons_append, normalChars, ih, List.cons_append]
    rintro t rfl same
    cases plain with
    | nil => exact line (List.cons.inj same).1
    | cons b plain =>
      obtain ⟨rfl, _⟩ := List.cons.inj same
      exact other plain rfl rfl
  | case3 => exact front s

/-- Text without line ends and tabs is not changed by reading. -/
lemma normalChars_of_plain {s : List Char} (h : ∀ c ∈ s, c ∉ ['\n', '\r', '\t']) :
    normalChars s = s := by
  fun_induction normalChars s with
  | case1 s ih => exact absurd (by simp) (h '\n' (by simp))
  | case2 c s other ih =>
    have plain := h c (.head _)
    simp only [List.mem_cons, List.not_mem_nil, or_false, not_or] at plain
    rw [ih fun c mem => h c (.tail _ mem), normalChar, if_neg (by simp [plain])]
  | case3 => rfl

/-- A text without spaces is read from nothing but itself. -/
lemma eq_of_normalChars {s t : List Char} (h : normalChars s = t) (space : ' ' ∉ t) : s = t := by
  subst h
  fun_induction normalChars s with
  | case1 s ih => exact absurd (.head _) space
  | case2 c s other ih =>
    obtain ⟨first, rest⟩ := List.ne_and_not_mem_of_not_mem_cons space
    have same : normalChar c = c := by
      unfold normalChar at first ⊢
      split at first
      next => exact absurd rfl first
      next plain => rw [if_neg plain]
    rw [same, ← ih rest]
  | case3 => rfl

/-- A value as it counts. -/
def normalText (s : String) : String :=
  String.ofList (normalChars s.toList)

/-- A value without line ends and tabs is not changed by reading. -/
lemma normalText_of_plain {s : String} (h : ∀ c ∈ s.toList, c ∉ ['\n', '\r', '\t']) :
    normalText s = s := by
  rw [normalText, normalChars_of_plain h, String.ofList_toList]

/-- A value without spaces is read from nothing but itself. -/
lemma eq_of_normalText {s t : String} (h : normalText s = t) (space : ' ' ∉ t.toList) : s = t := by
  subst h
  rw [normalText, String.toList_ofList] at space
  rw [normalText, ← eq_of_normalChars rfl space, String.ofList_toList]

/-- A name that is known stands for its character. -/
lemma Referent.ofName?_predefined {name : List Char} {c : Char}
    (known : Text.predefined.lookup (String.ofList name) = some c) :
    ofName? name = some (.char c) := by
  have all : ∀ e ∈ Text.predefined, ofName? e.1.toList = some (.char e.2) := by decide
  have := all _ (Table.mem_of_lookup known)
  rwa [String.toList_ofList] at this

/-- The characters with known names are not changed by reading. -/
lemma normal_of_known {name : List Char} {c : Char}
    (known : Text.predefined.lookup (String.ofList name) = some c) :
    normalChar c = c ∧ c ≠ '\n' := by
  have all : ∀ e ∈ Text.predefined, normalChar e.2 = e.2 ∧ e.2 ≠ '\n' := by decide
  exact all _ (Table.mem_of_lookup known)

/-- A text without references counts as it stands. -/
lemma resolveFrom_plain (done : List Char) (place : Place) {plain : List Char} (h : '&' ∉ plain) :
    resolveFrom done place plain = .ok (done.reverse ++ normalChars plain) := by
  rw [resolveFrom]
  split
  next => rfl
  next cut => rw [Text.cutAt_eq_none h] at cut; cases cut

/-- A reference behind plain text is resolved, and what stands behind it is resolved next. -/
lemma resolveFrom_reference (done : List Char) (place : Place) {plain name : List Char} {c : Char}
    (h : '&' ∉ plain) (plain_name : ';' ∉ name)
    (known : Text.predefined.lookup (String.ofList name) = some c) (t : List Char) :
    ∃ place', resolveFrom done place (plain ++ '&' :: (name ++ ';' :: t)) =
      resolveFrom (c :: ((normalChars plain).reverse ++ done)) place' t := by
  rw [resolveFrom]
  split
  next none => rw [Text.cutAt_append h] at none; cases none
  next cut =>
    rw [Text.cutAt_append h] at cut
    cases cut
    split
    next none => rw [Text.cutAt_append plain_name] at none; cases none
    next stop =>
      rw [Text.cutAt_append plain_name] at stop
      cases stop
      rw [Referent.ofName?_predefined known]
      exact ⟨_, rfl⟩

/-- References are resolved one by one, behind plain text. -/
lemma resolveFrom_escape (done plain s : List Char) (place : Place) (h : '&' ∉ plain) :
    resolveFrom done place (plain ++ Text.escape s) =
      .ok (done.reverse ++ normalChars (plain ++ s)) := by
  induction s generalizing done plain place with
  | nil => rw [Text.escape_nil, List.append_nil, resolveFrom_plain done place h]
  | cons c s ih =>
    obtain ⟨same, other⟩ | ⟨name, ref, plain_name, known⟩ := Text.escapeChar_cases c
    · have longer : '&' ∉ plain ++ [c] := by simp [h, other.symm]
      have text : plain ++ Text.escape (c :: s) = plain ++ [c] ++ Text.escape s := by
        simp [Text.escape_cons, same]
      rw [text, ih done (plain ++ [c]) place longer]
      simp
    · have text : plain ++ Text.escape (c :: s) =
          plain ++ '&' :: (name ++ ';' :: Text.escape s) := by
        simp [Text.escape_cons, ref]
      obtain ⟨place', step⟩ := resolveFrom_reference done place h
        (fun mem => (plain_name ';' mem).2.1 rfl) known (Text.escape s)
      have rest := ih (c :: ((normalChars plain).reverse ++ done)) [] place' List.not_mem_nil
      rw [List.nil_append] at rest
      obtain ⟨fixed, line⟩ := normal_of_known known
      rw [text, step, rest, normalChars_append fixed line]
      simp

/-- An escaped value is read back as it counts. -/
theorem resolve_escape (place : Place) (s : List Char) :
    resolve place (Text.escape s) = .ok (normalChars s) := by
  have := resolveFrom_escape [] [] s place (by simp)
  simpa [resolve] using this

end XsdInfer.Strict
