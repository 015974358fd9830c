import Mathlib.Data.List.TakeWhile
import Mathlib.Tactic.Lemma
import XsdInfer.Text.Cut

/-!
# Texts with a mark

A text without a mark, the mark, and any rest are cut apart where they meet. Readers that do not stop
at every mark cut a text at the first one that stands behind a complete part (`Cut`). What is said of
all characters of a text is decided along the text.
-/

namespace XsdInfer.Text

-- There are finitely many characters, but they are too many to look at each of them.
instance (priority := 2000) decidableForallMem {p : Char → Prop} [DecidablePred p] (s : List Char) :
    Decidable (∀ c ∈ s, p c) :=
  List.decidableBAll p s

/-- What holds of the first 128 characters holds of each of them. -/
lemma of_ascii {p : Char → Prop} (all : ∀ n < 0x80, p (Char.ofNat n)) {c : Char}
    (ascii : c.toNat < 0x80) : p c := by
  have own := all c.toNat ascii
  rwa [Char.ofNat_toNat] at own

/-- A run in front of something else is all taken. -/
lemma takeWhile_append {p : Char → Bool} {s rest : List Char} (all : ∀ c ∈ s, p c = true)
    (stop : ∀ c ∈ rest.head?, p c = false) : (s ++ rest).takeWhile p = s := by
  have ends : rest.takeWhile p = [] := by
    cases rest with
    | nil => rfl
    | cons a t => simp [stop a rfl]
  rw [List.takeWhile_append_of_pos all, ends, List.append_nil]

/-- A run in front of something else is all dropped. -/
lemma dropWhile_append {p : Char → Bool} {s rest : List Char} (all : ∀ c ∈ s, p c = true)
    (stop : ∀ c ∈ rest.head?, p c = false) : (s ++ rest).dropWhile p = rest := by
  rw [List.dropWhile_append_of_pos all]
  cases rest with
  | nil => rfl
  | cons a t => exact List.dropWhile_cons_of_neg (by simp [stop a rfl])

/-- What is dropped from the front of a text stops at a character outside of the class. -/
lemma dropWhile_append_cons {p : Char → Bool} {c : Char} (stop : p c = false) (s t : List Char) :
    (s ++ c :: t).dropWhile p = s.dropWhile p ++ c :: t := by
  induction s with
  | nil => simp [stop]
  | cons a s ih =>
    rw [List.cons_append, List.dropWhile_cons, List.dropWhile_cons, ih]
    split <;> rfl

variable {mark : Char} {s : List Char}

/-- The characters of a text without a mark are other ones. -/
lemma bne_of_not_mem (h : mark ∉ s) : ∀ c ∈ s, (c != mark) = true := by
  intro c mem
  rw [bne_iff_ne]
  rintro rfl
  exact h mem

/-- A text is cut at the first mark. -/
lemma cutAt_append (h : mark ∉ s) (rest : List Char) :
    cutAt mark (s ++ mark :: rest) = some (s, rest) := by
  have inside := bne_of_not_mem h
  simp [cutAt, List.takeWhile_append_of_pos inside, List.dropWhile_append_of_pos inside]

/-- A text without a mark is not cut. -/
lemma cutAt_eq_none (h : mark ∉ s) : cutAt mark s = none := by
  have inside := bne_of_not_mem h
  rw [cutAt, ← List.append_nil s, List.dropWhile_append_of_pos inside]
  rfl

/-- A text that is not cut has no mark. -/
lemma not_mem_of_cutAt (h : cutAt mark s = none) : mark ∉ s := by
  unfold cutAt at h
  split at h
  next gone =>
    intro mem
    simpa using List.dropWhile_eq_nil_iff.mp gone mark mem
  next => cases h

/-- A text is taken up to the first mark, which is left out. -/
lemma upTo_append (h : mark ∉ s) (rest : List Char) : upTo mark (s ++ mark :: rest) = (s, rest) := by
  have inside := bne_of_not_mem h
  simp [upTo, List.takeWhile_append_of_pos inside, List.dropWhile_append_of_pos inside]

/-- Up to a mark that does not occur comes all of the text. -/
lemma upTo_of_not_mem (h : mark ∉ s) : upTo mark s = (s, []) := by
  have inside := bne_of_not_mem h
  rw [upTo, List.takeWhile_eq_self_iff.mpr inside, List.dropWhile_eq_nil_iff.mpr inside]
  rfl

/-- A text has no mark, or is split by its first one. -/
lemma upTo_cases (mark : Char) (s : List Char) :
    mark ∉ s ∨ ∃ a b, mark ∉ a ∧ s = a ++ mark :: b := by
  cases cut : cutAt mark s with
  | none => exact .inl (not_mem_of_cutAt cut)
  | some parts =>
    obtain ⟨rfl, none⟩ := eq_of_cutAt (a := parts.1) (b := parts.2) cut
    exact .inr ⟨parts.1, parts.2, none, rfl⟩

/-- A text is cut at the first mark that stands behind a complete part. -/
structure Cut (mark : Char) (complete : List Char → Prop) (s content rest : List Char) : Prop where
  whole : s = content ++ mark :: rest
  done : complete content
  first : ∀ a b, content = a ++ mark :: b → ¬ complete a

namespace Cut

variable {complete : List Char → Prop} {c : Char} {content rest : List Char}

/-- What stands behind the mark does not matter. -/
lemma with_rest (h : Cut mark complete s content rest) (rest' : List Char) :
    Cut mark complete (content ++ mark :: rest') content rest' :=
  ⟨rfl, h.done, h.first⟩

/-- There is one place for a cut. -/
lemma unique {content' rest' : List Char} (h : Cut mark complete s content rest)
    (h' : Cut mark complete s content' rest') : content = content' ∧ rest = rest' := by
  have longer {a b v : List Char} (ends : b = a ++ v) {x y : List Char} (whole : mark :: x = v ++ mark :: y)
      (done : complete a) (first : ∀ u w, b = u ++ mark :: w → ¬ complete u) : a = b ∧ x = y := by
    subst ends
    cases v with
    | nil => exact ⟨(List.append_nil a).symm, (List.cons.inj whole).2⟩
    | cons c v =>
      obtain ⟨rfl, -⟩ := List.cons.inj whole
      exact absurd done (first a v rfl)
  obtain ⟨v, ends, whole⟩ | ⟨v, ends, whole⟩ :=
    List.append_eq_append_iff.mp (h.whole.symm.trans h'.whole)
  · exact longer ends whole h.done h'.first
  · exact (longer ends whole h'.done h.first).imp Eq.symm Eq.symm

/-- Nothing can be cut from an empty text. -/
lemma not_nil : ¬ Cut mark complete [] content rest := fun h => by
  have := congrArg List.length h.whole
  simp at this

/-- A mark that completes the content ends it. -/
lemma cons_of_pos (h : c = mark ∧ complete []) :
    Cut mark complete (c :: s) content rest ↔ content = [] ∧ rest = s := by
  obtain ⟨rfl, done⟩ := h
  constructor
  · intro cut
    cases content with
    | nil => exact ⟨rfl, (List.cons.inj cut.whole).2.symm⟩
    | cons a t =>
      obtain ⟨rfl, -⟩ := List.cons.inj cut.whole
      exact absurd done (cut.first [] t rfl)
  · rintro ⟨rfl, rfl⟩
    exact ⟨rfl, done, fun a b eq => by simp at eq⟩

/-- Any other character belongs to the content. -/
lemma cons_of_neg (h : ¬ (c = mark ∧ complete [])) :
    Cut mark complete (c :: s) content rest ↔
      ∃ t, content = c :: t ∧ Cut mark (fun u => complete (c :: u)) s t rest := by
  constructor
  · rintro ⟨whole, done, first⟩
    cases content with
    | nil => exact absurd ⟨(List.cons.inj whole).1, done⟩ h
    | cons a t =>
      obtain ⟨rfl, rfl⟩ := List.cons.inj whole
      exact ⟨t, rfl, rfl, done, fun u v eq => first (c :: u) v (by rw [eq, List.cons_append])⟩
  · rintro ⟨t, rfl, rfl, done, first⟩
    refine ⟨rfl, done, fun a b eq => ?_⟩
    cases a with
    | nil =>
      obtain ⟨rfl, -⟩ := List.cons.inj eq
      exact fun empty => h ⟨rfl, empty⟩
    | cons a u =>
      obtain ⟨rfl, rfl⟩ := List.cons.inj eq
      exact first u b rfl

end Cut

/-- A mark is in a text, if it stands in front of a tail that does not hold it. -/
lemma exists_of_mark {body tail u b : List Char} (plain : mark ∉ tail)
    (h : body ++ tail = u ++ mark :: b) : ∃ w, body = u ++ mark :: w := by
  obtain ⟨w, -, behind⟩ | ⟨w, rfl, behind⟩ := List.append_eq_append_iff.mp h
  · exact absurd (by simp [behind]) plain
  · cases w with
    | nil =>
      rw [List.nil_append] at behind
      exact absurd (by simp [← behind]) plain
    | cons c w =>
      obtain ⟨rfl, rfl⟩ := List.cons.inj behind
      exact ⟨w, rfl⟩

/-- What stands behind a front is in the body, if it does not begin inside of a lead. -/
lemma exists_of_lead {lead body u t : List Char} (h : lead ++ body = u ++ t)
    (long : lead.length ≤ u.length) : ∃ v, body = v ++ t := by
  have dropped := congrArg (List.drop lead.length) h
  rw [List.drop_left, List.drop_append_of_le_length long] at dropped
  exact ⟨_, dropped⟩

/-- What starts with a mark does not occur in a text without the mark. -/
lemma occurs_eq_false {part : List Char} (h : mark ∉ s) : occurs (mark :: part) s = false := by
  induction s with
  | nil => rfl
  | cons c s ih =>
    obtain ⟨other, rest⟩ := List.ne_and_not_mem_of_not_mem_cons h
    have here : (mark :: part).isPrefixOf (c :: s) = false := by simp [List.isPrefixOf, other]
    rw [occurs, here, Bool.false_or]
    exact ih rest

/-- A part of a text occurs in it. -/
lemma occurs_append (part s t : List Char) : occurs part (s ++ (part ++ t)) = true := by
  induction s with
  | nil =>
    rw [List.nil_append]
    cases whole : part ++ t with
    | nil => simp [occurs, (List.append_eq_nil_iff.mp whole).1]
    | cons c u =>
      have front : part.isPrefixOf (c :: u) = true := by
        rw [← whole, List.isPrefixOf_iff_prefix]
        exact List.prefix_append _ _
      rw [occurs, front, Bool.true_or]
  | cons c s ih => rw [List.cons_append, occurs, ih, Bool.or_true]

end XsdInfer.Text
