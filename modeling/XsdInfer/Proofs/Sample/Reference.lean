import XsdInfer.Proofs.Text.Cut
import XsdInfer.Proofs.Text.Trim
import XsdInfer.Sample.Reference

/-!
# What texts with references say

The characters of a text stand for themselves, and its references for one character each
(`Reference.Decodes`). Main statement: resolving the references gives just what a text says
(`decode_eq_ok_iff`), so that texts may be taken apart between characters and references. What is
escaped is read back (`decode_escape`), and trimming an escaped text is escaping the trimmed one,
because no reference begins or ends with space.
-/

namespace XsdInfer

namespace Text

/-- A character without a meaning in markup is written as it is. -/
lemma escapeChar_of_plain {c : Char}
    (h : c ≠ '<' ∧ c ≠ '>' ∧ c ≠ '&' ∧ c ≠ '\'' ∧ c ≠ '"') : escapeChar c = [c] := by
  simp [escapeChar, h]

/-- A character is written as it is, or as a reference by a name that is known. -/
lemma escapeChar_cases (c : Char) :
    (escapeChar c = [c] ∧ c ≠ '&') ∨
      ∃ name, escapeChar c = '&' :: name ++ [';'] ∧
        (∀ a ∈ name, a ≠ '&' ∧ a ≠ ';' ∧ a ≠ '#') ∧
        predefined.lookup (String.ofList name) = some c := by
  unfold escapeChar
  by_cases lt : c = '<'
  · exact .inr ⟨"lt".toList, by simp [lt], by decide, by subst lt; decide⟩
  by_cases gt : c = '>'
  · exact .inr ⟨"gt".toList, by simp [gt], by decide, by subst gt; decide⟩
  by_cases amp : c = '&'
  · exact .inr ⟨"amp".toList, by simp [amp], by decide, by subst amp; decide⟩
  by_cases apos : c = '\''
  · exact .inr ⟨"apos".toList, by simp [apos], by decide, by subst apos; decide⟩
  by_cases quot : c = '"'
  · exact .inr ⟨"quot".toList, by simp [quot], by decide, by subst quot; decide⟩
  · exact .inl ⟨by simp [*], amp⟩

/-- Texts in a row are escaped one after another. -/
lemma escape_append (s t : List Char) : escape (s ++ t) = escape s ++ escape t := by
  simp [escape]

/-- A blank is written as it is. -/
lemma escapeChar_of_isBlank {c : Char} (h : isBlank c = true) : escapeChar c = [c] := by
  refine escapeChar_of_plain ⟨?_, ?_, ?_, ?_, ?_⟩ <;> rintro rfl <;> exact absurd h (by decide)

/-- Blanks are written as they are. -/
lemma escape_of_blank {s : List Char} (h : ∀ c ∈ s, isBlank c = true) : escape s = s := by
  induction s with
  | nil => rfl
  | cons c s ih =>
    rw [escape_cons, escapeChar_of_isBlank (h c (.head _)), ih fun c mem => h c (.tail _ mem)]
    rfl

/-- The space in front of a text stays in front of the escaped text. -/
lemma escape_eq_append (s : List Char) :
    escape s = s.takeWhile isSpace ++ escape (s.dropWhile isSpace) := by
  have blank : ∀ c ∈ s.takeWhile isSpace, isBlank c = true := fun c mem =>
    isBlank_of_isSpace (List.all_eq_true.mp List.all_takeWhile c mem)
  calc
    escape s
    _ = escape (s.takeWhile isSpace) ++ escape (s.dropWhile isSpace) := by
      rw [← escape_append, List.takeWhile_append_dropWhile]
    _ = _ := by rw [escape_of_blank blank]

/-- A reference does not begin with space. -/
lemma exists_escapeChar_eq_cons {c : Char} (h : isSpace c = false) :
    ∃ a s, escapeChar c = a :: s ∧ isSpace a = false := by
  obtain ⟨same, _⟩ | ⟨name, ref, _⟩ := escapeChar_cases c
  · exact ⟨c, [], same, h⟩
  · exact ⟨'&', name ++ [';'], ref, by decide⟩

/-- A reference does not end with space. -/
lemma exists_escapeChar_eq_concat {c : Char} (h : isSpace c = false) :
    ∃ s a, escapeChar c = s ++ [a] ∧ isSpace a = false := by
  obtain ⟨same, _⟩ | ⟨name, ref, _⟩ := escapeChar_cases c
  · exact ⟨[], c, same, h⟩
  · exact ⟨'&' :: name, ';', ref, by decide⟩

/-- It makes no difference whether space at the end is dropped before or after escaping. -/
lemma dropTrailing_isSpace_escape (s : List Char) :
    dropTrailing isSpace (escape s) = escape (dropTrailing isSpace s) := by
  induction s using List.reverseRecOn with
  | nil => rfl
  | append_singleton s c ih =>
    rw [escape_append]
    by_cases space : isSpace c = true
    · have written : escape [c] = [c] := by
        simp [escape_cons, escapeChar_of_isBlank (isBlank_of_isSpace space)]
      rw [written, dropTrailing_concat_of_pos space, dropTrailing_concat_of_pos space, ih]
    · rw [Bool.not_eq_true] at space
      obtain ⟨first, b, ends, plain⟩ := exists_escapeChar_eq_concat space
      have written : escape [c] = first ++ [b] := by simp [escape_cons, ends]
      rw [written, ← List.append_assoc, dropTrailing_concat_of_neg plain,
        dropTrailing_concat_of_neg space, escape_append, written, List.append_assoc]

end Text

namespace Sample.Reference

open Text

/-- The name in a reference to a character. -/
structure Means (name : List Char) (c : Char) : Prop where
  plain : ∀ a ∈ name, a ≠ '&' ∧ a ≠ ';'
  resolved : resolve 0 0 name = .ok c

/-- What a text says: a character stands for itself, and a reference for the character it names. -/
inductive Decodes : List Char → List Char → Prop where
  | nil :
    Decodes [] []
  | char {c : Char} {s d : List Char} :
    c ≠ '&' →
    Decodes s d →
    Decodes (c :: s) (c :: d)
  | reference {name s d : List Char} {c : Char} :
    Means name c →
    Decodes s d →
    Decodes ('&' :: (name ++ ';' :: s)) (c :: d)

variable {name s t d e : List Char} {c : Char}

/-! ## Names of characters -/

/-- Positions do not matter to what a reference stands for. -/
lemma resolve_eq_ok_iff {start stop : Nat} :
    resolve start stop name = .ok c ↔ resolve 0 0 name = .ok c := by
  unfold resolve
  split
  next s =>
    cases code s with
    | error fault => exact iff_of_false nofun nofun
    | ok n =>
      simp only [bind, Except.bind]
      split
      next => exact iff_of_false nofun nofun
      next => exact .rfl
  next =>
    split
    next => exact .rfl
    next => exact iff_of_false nofun nofun

/-- A name that is known means its character. -/
lemma means_predefined (plain : ∀ a ∈ name, a ≠ '&' ∧ a ≠ ';' ∧ a ≠ '#')
    (known : predefined.lookup (String.ofList name) = some c) : Means name c := by
  refine ⟨fun a mem => ⟨(plain a mem).1, (plain a mem).2.1⟩, ?_⟩
  unfold resolve
  split
  next s => exact absurd rfl (plain '#' (.head _)).2.2
  next => rw [known]

/-! ## Resolving all references -/

namespace Decodes

/-- A text without references says itself. -/
lemma of_plain (h : '&' ∉ s) : Decodes s s := by
  induction s with
  | nil => exact .nil
  | cons c s ih =>
    obtain ⟨other, more⟩ := List.ne_and_not_mem_of_not_mem_cons h
    exact .char (Ne.symm other) (ih more)

/-- Texts in a row are decoded one after another. -/
lemma append (hs : Decodes s d) (ht : Decodes t e) : Decodes (s ++ t) (d ++ e) := by
  induction hs with
  | nil => exact ht
  | char plain _ ih => exact .char plain ih
  | @reference name s d c means _ ih =>
    rw [List.cons_append, List.append_assoc, List.cons_append]
    exact .reference means ih

/-- A text without references says nothing else. -/
lemma eq_of_plain (h : Decodes s d) (plain : '&' ∉ s) : d = s := by
  induction h with
  | nil => rfl
  | char _ _ ih => rw [ih fun mem => plain (.tail _ mem)]
  | reference => exact absurd (.head _) plain

/-- Plain text in front is no part of a reference. -/
lemma of_plain_append (plain : '&' ∉ s) (h : Decodes (s ++ t) e) :
    ∃ d, e = s ++ d ∧ Decodes t d := by
  induction s generalizing e with
  | nil => exact ⟨e, rfl, h⟩
  | cons c s ih =>
    obtain ⟨other, more⟩ := List.ne_and_not_mem_of_not_mem_cons plain
    rw [List.cons_append] at h
    generalize whole : s ++ t = u at h
    cases h with
    | char _ rest =>
      obtain ⟨d, rfl, decodes⟩ := ih more (whole ▸ rest)
      exact ⟨d, rfl, decodes⟩
    | reference => exact absurd rfl other

/-- Neither is plain text behind, if it holds no semicolon. -/
lemma of_append_plain (plain : '&' ∉ t ∧ ';' ∉ t) (h : Decodes (s ++ t) e) :
    ∃ d, e = d ++ t ∧ Decodes s d := by
  generalize whole : s ++ t = u at h
  -- A reference cannot reach into the text behind, which has no semicolon.
  induction h generalizing s with
  | nil =>
    obtain ⟨rfl, rfl⟩ := List.append_eq_nil_iff.mp whole
    exact ⟨[], rfl, .nil⟩
  | @char c u d other decodes ih =>
    cases s with
    | nil =>
      obtain rfl : t = c :: u := whole
      exact ⟨[], Decodes.eq_of_plain (.char other decodes) plain.1, .nil⟩
    | cons a s =>
      obtain ⟨rfl, rfl⟩ := List.cons.inj whole
      obtain ⟨d, rfl, front⟩ := ih rfl
      exact ⟨a :: d, rfl, .char other front⟩
  | @reference name u d c means decodes ih =>
    cases s with
    | nil =>
      obtain rfl : t = _ := whole
      exact absurd (.head _) plain.1
    | cons a s =>
      obtain ⟨rfl, split⟩ := List.cons.inj whole
      obtain ⟨x, -, behind⟩ | ⟨x, rfl, behind⟩ := List.append_eq_append_iff.mp split
      · exact absurd (by simp [behind]) plain.2
      · cases x with
        | nil =>
          obtain rfl : ';' :: u = t := behind
          exact absurd (.head _) plain.2
        | cons b x =>
          obtain ⟨rfl, rfl⟩ := List.cons.inj behind
          obtain ⟨d, rfl, front⟩ := ih rfl
          exact ⟨c :: d, rfl, .reference means front⟩

end Decodes

/-- A text without references is left as it is. -/
lemma resolveAll_plain (total : Nat) (done : List Char) (position : Nat) {plain : List Char}
    (h : '&' ∉ plain) : resolveAll total done position plain = .ok (done.reverse ++ plain) := by
  rw [resolveAll]
  split
  next => rfl
  next cut => rw [cutAt_eq_none h] at cut; cases cut

/-- A reference behind plain text is resolved, and what stands behind it is resolved next. -/
lemma resolveAll_reference (total : Nat) (done : List Char) (position : Nat) {plain : List Char}
    (h : '&' ∉ plain) (means : Means name c) (t : List Char) :
    ∃ position', resolveAll total done position (plain ++ '&' :: (name ++ ';' :: t)) =
      resolveAll total (c :: (plain.reverse ++ done)) position' t := by
  have within : ∀ a ∈ name, (a != '&' && a != ';') = true := by
    intro a mem
    simp [(means.plain a mem).1, (means.plain a mem).2]
  have taken : (name ++ ';' :: t).takeWhile (fun c => c != '&' && c != ';') = name := by
    simp [List.takeWhile_append_of_pos within]
  have dropped : (name ++ ';' :: t).dropWhile (fun c => c != '&' && c != ';') = ';' :: t := by
    simp [List.dropWhile_append_of_pos within]
  rw [resolveAll]
  split
  next none => rw [cutAt_append h] at none; cases none
  next cut =>
    rw [cutAt_append h] at cut
    cases cut
    simp only [taken]
    split
    next behind =>
      rw [dropped] at behind
      cases behind
      simp only [resolve_eq_ok_iff.mpr means.resolved]
      exact ⟨_, rfl⟩
    next other => exact absurd dropped (other t)

/-- What a text says is resolved behind any text without references. -/
lemma resolveAll_of_decodes (h : Decodes s d) (total : Nat) (done plain : List Char) (position : Nat)
    (none : '&' ∉ plain) :
    resolveAll total done position (plain ++ s) = .ok (done.reverse ++ plain ++ d) := by
  -- A character that stands for itself joins the plain text, any other one ends it.
  induction h generalizing done plain position with
  | nil => rw [List.append_nil, resolveAll_plain total done position none, List.append_nil]
  | @char c s d other _ ih =>
    have longer : '&' ∉ plain ++ [c] := by simp [none, other.symm]
    have rest := ih done (plain ++ [c]) position longer
    rw [List.append_assoc, List.singleton_append] at rest
    rw [rest]
    simp
  | @reference name s d c means _ ih =>
    obtain ⟨position', step⟩ := resolveAll_reference total done position none means s
    have rest := ih (c :: (plain.reverse ++ done)) [] position' List.not_mem_nil
    rw [List.nil_append] at rest
    rw [step, rest]
    simp

/-- What is resolved is what a text says. -/
lemma exists_decodes_of_resolveAll {total position : Nat} {done r : List Char}
    (h : resolveAll total done position s = .ok r) : ∃ d, r = done.reverse ++ d ∧ Decodes s d := by
  fun_induction resolveAll total done position s with
  | case1 done position s none =>
    cases h
    exact ⟨s, rfl, .of_plain (not_mem_of_cutAt none)⟩
  | case2 done position s plain t cut start name rest behind stop c resolved ih =>
    obtain ⟨d, rfl, decodes⟩ := ih h
    obtain ⟨rfl, none⟩ := eq_of_cutAt cut
    have text : t = name ++ ';' :: rest := by
      rw [← behind]
      exact List.takeWhile_append_dropWhile.symm
    have means : Means name c := by
      refine ⟨fun a mem => ?_, resolve_eq_ok_iff.mp resolved⟩
      simpa using List.all_eq_true.mp List.all_takeWhile a mem
    refine ⟨plain ++ c :: d, by simp, ?_⟩
    rw [text]
    exact (Decodes.of_plain none).append (.reference means decodes)
  | case3 => cases h
  | case4 => cases h

/-- Resolving the references of a text gives what it says. -/
theorem decode_eq_ok_iff : decode s = .ok d ↔ Decodes s d := by
  constructor
  · intro h
    obtain ⟨d', rfl, decodes⟩ := exists_decodes_of_resolveAll h
    exact decodes
  · intro h
    simpa [decode] using resolveAll_of_decodes h (width s) [] [] 0 List.not_mem_nil

/-- A text is decoded in one way. -/
lemma Decodes.unique (h : Decodes s d) (h' : Decodes s e) : d = e :=
  Except.ok.inj ((decode_eq_ok_iff.mpr h).symm.trans (decode_eq_ok_iff.mpr h'))

/-! ## Escaped texts -/

/-- An escaped text is decoded to what it was. -/
lemma decodes_escape (s : List Char) : Decodes (escape s) s := by
  induction s with
  | nil => exact .nil
  | cons c s ih =>
    rw [escape_cons]
    obtain ⟨same, other⟩ | ⟨name, ref, plain, known⟩ := escapeChar_cases c
    · rw [same]
      exact .char other ih
    · rw [ref, List.cons_append, List.cons_append, List.append_assoc, List.singleton_append]
      exact .reference (means_predefined plain known) ih

/-- What is escaped is read back. -/
theorem decode_escape (s : List Char) : decode (escape s) = .ok s :=
  decode_eq_ok_iff.mpr (decodes_escape s)

end Sample.Reference

end XsdInfer
