import Mathlib.Data.List.Induction
import Mathlib.Data.List.TakeWhile
import XsdInfer.Proofs.Text.Cut
import XsdInfer.Text.Blank

/-!
# Trimmed text

What trimming does at the ends of a text. Blanks around a text do not matter to it (`trim_append`),
so a reader that drops the markup space in front of a text or behind it leaves its trimmed form alone
(`trim_dropWhile_isSpace`, `trim_dropTrailing_isSpace`).
-/

namespace XsdInfer.Text

/-- A last character of the kind that is dropped makes no difference. -/
lemma dropTrailing_concat_of_pos {p : Char → Bool} {c : Char} (h : p c = true) (s : List Char) :
    dropTrailing p (s ++ [c]) = dropTrailing p s := by
  simp [dropTrailing, h]

/-- A last character of another kind is kept with all before it. -/
lemma dropTrailing_concat_of_neg {p : Char → Bool} {c : Char} (h : p c = false) (s : List Char) :
    dropTrailing p (s ++ [c]) = s ++ [c] := by
  simp [dropTrailing, h]

/-- A run at the end of the kind that is dropped makes no difference. -/
lemma dropTrailing_append_of_pos {p : Char → Bool} {b : List Char} (h : ∀ c ∈ b, p c = true)
    (s : List Char) : dropTrailing p (s ++ b) = dropTrailing p s := by
  rw [dropTrailing, List.reverse_append, List.dropWhile_append_of_pos (by simpa using h),
    dropTrailing]

/-- Nothing is dropped before a character of another kind. -/
lemma dropTrailing_append_cons {p : Char → Bool} {c : Char} (stop : p c = false) (s t : List Char) :
    dropTrailing p (s ++ c :: t) = s ++ c :: dropTrailing p t := by
  rw [dropTrailing, List.reverse_append, List.reverse_cons, List.append_assoc, List.singleton_append,
    dropWhile_append_cons stop]
  simp [dropTrailing]

/-- What is left of a text is found from its front on, too. -/
lemma dropTrailing_cons (p : Char → Bool) (c : Char) (s : List Char) :
    dropTrailing p (c :: s) =
      if dropTrailing p s = [] ∧ p c = true then [] else c :: dropTrailing p s := by
  simp only [dropTrailing, List.reverse_cons, List.dropWhile_append, List.isEmpty_iff,
    List.reverse_eq_nil_iff]
  by_cases gone : s.reverse.dropWhile p = []
  · cases visible : p c <;> simp [gone, visible]
  · simp [gone]

/-- Nothing is left of a text when it is trimmed if it is blank. -/
lemma trim_eq_nil_iff {s : List Char} : trim s = [] ↔ ∀ c ∈ s, isBlank c = true := by
  constructor
  · intro gone c mem
    have trailing := dropTrailing_append isBlank (s.dropWhile isBlank)
    rw [show dropTrailing isBlank (s.dropWhile isBlank) = [] from gone, List.nil_append] at trailing
    have whole := List.takeWhile_append_dropWhile (p := isBlank) (l := s)
    rw [← whole, ← trailing, List.mem_append, List.mem_reverse] at mem
    cases mem with
    | inl lead => exact List.all_eq_true.mp List.all_takeWhile c lead
    | inr trail => exact List.all_eq_true.mp List.all_takeWhile c trail
  · intro blank
    rw [trim, dropLeading, List.dropWhile_eq_nil_iff.mpr blank]
    rfl

/-- Blanks around a text make no difference when it is trimmed. -/
lemma trim_append {a b : List Char} (ha : ∀ c ∈ a, isBlank c = true) (hb : ∀ c ∈ b, isBlank c = true)
    (s : List Char) : trim (a ++ s ++ b) = trim s := by
  have lead : trim (a ++ s ++ b) = trim (s ++ b) := by
    rw [List.append_assoc, trim, dropLeading, List.dropWhile_append_of_pos ha]
    rfl
  rw [lead]
  by_cases blank : ∀ c ∈ s, isBlank c = true
  · rw [trim_eq_nil_iff.mpr blank]
    apply trim_eq_nil_iff.mpr
    intro c mem
    exact (List.mem_append.mp mem).elim (blank c) (hb c)
  · have some : (s.dropWhile isBlank).isEmpty = false := by
      rw [List.isEmpty_eq_false_iff]
      intro none
      apply blank
      intro c mem
      rw [← List.takeWhile_append_dropWhile (p := isBlank) (l := s), none, List.append_nil] at mem
      exact List.all_eq_true.mp List.all_takeWhile c mem
    rw [trim, dropLeading, List.dropWhile_append, some, if_neg (by decide),
      dropTrailing_append_of_pos hb]
    rfl

/-- Trimming does not go over a character that is visible. -/
lemma trim_append_cons {c : Char} (visible : isBlank c = false) (s t : List Char) :
    trim (s ++ c :: t) = s.dropWhile isBlank ++ c :: dropTrailing isBlank t := by
  rw [trim, dropLeading, dropWhile_append_cons visible, dropTrailing_append_cons visible]

/-- Nor over what stands between two such characters. -/
lemma trim_between {c d : Char} (first : isBlank c = false) (last : isBlank d = false)
    (s m t : List Char) :
    trim (s ++ c :: (m ++ d :: t)) =
      s.dropWhile isBlank ++ c :: (m ++ d :: dropTrailing isBlank t) := by
  rw [trim_append_cons first, dropTrailing_append_cons last]

/-- A trimmed text begins with the character behind the blanks at its front. -/
lemma head?_trim {s : List Char} {c : Char} (visible : isBlank c = false)
    (blank : ∀ a ∈ s, isBlank a = true) (t : List Char) : (trim (s ++ c :: t)).head? = some c := by
  rw [trim_append_cons visible, List.dropWhile_eq_nil_iff.mpr blank]
  rfl

/-- A text that has lost spaces at its front is trimmed to the same. -/
lemma trim_dropWhile_isSpace (s : List Char) : trim (s.dropWhile isSpace) = trim s := by
  have lead : ∀ c ∈ s.takeWhile isSpace, isBlank c = true := fun c mem =>
    isBlank_of_isSpace (List.all_eq_true.mp List.all_takeWhile c mem)
  have whole := trim_append lead (fun c mem => absurd mem List.not_mem_nil) (s.dropWhile isSpace)
  rw [List.append_nil, List.takeWhile_append_dropWhile] at whole
  exact whole.symm

/-- A text that has lost spaces at its end is trimmed to the same. -/
lemma trim_dropTrailing_isSpace (s : List Char) : trim (dropTrailing isSpace s) = trim s := by
  have trail : ∀ c ∈ (s.reverse.takeWhile isSpace).reverse, isBlank c = true := fun c mem =>
    isBlank_of_isSpace (List.all_eq_true.mp List.all_takeWhile c (List.mem_reverse.mp mem))
  have whole := trim_append (fun c mem => absurd mem List.not_mem_nil) trail (dropTrailing isSpace s)
  rw [List.nil_append, dropTrailing_append] at whole
  exact whole.symm

end XsdInfer.Text
