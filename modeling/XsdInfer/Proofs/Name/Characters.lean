import Mathlib.Data.List.Basic
import XsdInfer.Name.Basic
import XsdInfer.Proofs.Text.Cut
import XsdInfer.Text.Blank

/-!
# Characters of names

What names are made of does not get in the way of markup: no name holds a bracket, a quote or space,
since letters and numbers keep to an area without them.
-/

namespace XsdInfer.Name

/-- The characters that delimit the parts of markup. -/
def delimiters : List Char :=
  "<>&\"'=/!? \t\n\r".toList

/-- The code points that letters and numbers keep to: the ASCII digits and letters, and what is
beyond ASCII and no surrogate or noncharacter. -/
def inLetterArea (n : Nat) : Bool :=
  (0x30 ≤ n && n ≤ 0x39) || (0x41 ≤ n && n ≤ 0x5A) || (0x61 ≤ n && n ≤ 0x7A)
    || (0xAA ≤ n && n ≤ 0xD7FF) || (0xF900 ≤ n && n ≤ 0xFFDC) || 0x10000 ≤ n

/-- Whether a range of code points keeps to one part of that area. -/
def rangeInLetterArea (r : Nat × Nat) : Bool :=
  (0x30 ≤ r.1 && r.2 ≤ 0x39) || (0x41 ≤ r.1 && r.2 ≤ 0x5A) || (0x61 ≤ r.1 && r.2 ≤ 0x7A)
    || (0xAA ≤ r.1 && r.2 ≤ 0xD7FF) || (0xF900 ≤ r.1 && r.2 ≤ 0xFFDC) || 0x10000 ≤ r.1

/-- The letters have their code points in the area for them. -/
lemma alphabetic_inLetterArea : Text.alphabetic.ranges.all rangeInLetterArea = true := by
  decide +kernel

/-- The digits have their code points in the area for letters. -/
lemma numeric_inLetterArea : Text.numeric.ranges.all rangeInLetterArea = true := by
  decide +kernel

/-- A character of a set in the area for letters has its code point there. -/
lemma inLetterArea_of_contains {s : Text.CodePoints} (area : s.ranges.all rangeInLetterArea = true)
    {c : Char} (h : s.contains c = true) : inLetterArea c.toNat = true := by
  obtain ⟨r, mem, low, high⟩ := Text.CodePoints.contains_iff.mp h
  have := List.all_eq_true.mp area r mem
  simp only [rangeInLetterArea, inLetterArea, Bool.or_eq_true, Bool.and_eq_true,
    decide_eq_true_eq] at this ⊢
  omega

/-- A character of a name is in the area of letters, or one of a few marks. -/
lemma inLetterArea_of_isFollow {c : Char} (h : isFollow c = true) :
    inLetterArea c.toNat = true ∨ c ∈ ['_', '-', '.', '\u00B7'] := by
  simp only [isFollow, Bool.or_eq_true, beq_iff_eq] at h
  obtain ((((letter | number) | rfl) | rfl) | rfl) | rfl := h
  · exact .inl (inLetterArea_of_contains alphabetic_inLetterArea letter)
  · exact .inl (inLetterArea_of_contains numeric_inLetterArea number)
  · simp
  · simp
  · simp
  · simp

/-- A character that may start a name may stand in it. -/
lemma isFollow_of_isStart {c : Char} (h : isStart c = true) : isFollow c = true := by
  simp only [isStart, isFollow, Bool.or_eq_true, beq_iff_eq] at h ⊢
  grind

/-- No character of a name delimits markup, nor the parts of a name. -/
lemma not_mem_delimiters_of_isFollow {c : Char} (h : isFollow c = true) :
    c ∉ delimiters ∧ c ≠ ':' := by
  cases inLetterArea_of_isFollow h with
  | inl letter =>
    have apart : ∀ d ∈ ':' :: delimiters, inLetterArea d.toNat = false := by decide
    have other (mem : c ∈ ':' :: delimiters) : False := by simp [apart c mem] at letter
    exact ⟨fun mem => other (.tail _ mem), fun same => other (same ▸ .head _)⟩
  | inr mark =>
    have apart : ∀ d ∈ ['_', '-', '.', '\u00B7'], d ∉ delimiters ∧ d ≠ ':' := by decide
    exact apart c mark

/-- All characters of a simple name may stand in one. -/
lemma all_isFollow_of_isSimple {s : List Char} (h : isSimple s = true) :
    ∀ c ∈ s, isFollow c = true := by
  cases s with
  | nil => cases h
  | cons a s =>
    simp only [isSimple, Bool.and_eq_true, List.all_eq_true] at h
    exact List.forall_mem_cons.mpr ⟨isFollow_of_isStart h.1, h.2⟩

/-- A simple name starts with a character that may start one. -/
lemma exists_cons_of_isSimple {s : List Char} (h : isSimple s = true) :
    ∃ a t, s = a :: t ∧ isStart a = true := by
  cases s with
  | nil => cases h
  | cons a s =>
    simp only [isSimple, Bool.and_eq_true] at h
    exact ⟨a, s, rfl, h.1⟩

/-- A qualified name is a simple one, or two of them with a colon between. -/
lemma isQualified_cases {name : String} (h : isQualified name = true) :
    (isSimple name.toList = true ∧ split name = (none, name)) ∨
      ∃ q r, isSimple q = true ∧ isSimple r = true ∧ name.toList = q ++ ':' :: r ∧
        split name = (some (String.ofList q), String.ofList r) := by
  unfold isQualified at h
  unfold split at h ⊢
  cases cut : Text.cutAt ':' name.toList with
  | none => exact .inl ⟨by simpa [cut] using h, rfl⟩
  | some parts =>
    obtain ⟨q, r⟩ := parts
    simp only [cut, String.toList_ofList, Bool.and_eq_true] at h
    exact .inr ⟨q, r, h.1, h.2, (Text.eq_of_cutAt cut).1, rfl⟩

/-- A name without a colon has no prefix. -/
lemma split_of_no_colon {name : String} (h : ':' ∉ name.toList) : split name = (none, name) := by
  rw [split, Text.cutAt_eq_none h]

/-- A name is split at its first colon. -/
lemma split_append {q : String} (h : ':' ∉ q.toList) (name : String) :
    split (q ++ ":" ++ name) = (some q, name) := by
  have text : (q ++ ":" ++ name).toList = q.toList ++ ':' :: name.toList := by simp
  simp only [split, text, Text.cutAt_append h, String.ofList_toList]

/-- A simple name has no prefix. -/
lemma split_of_isSimple {name : String} (h : isSimple name.toList = true) :
    split name = (none, name) :=
  split_of_no_colon fun mem =>
    (not_mem_delimiters_of_isFollow (all_isFollow_of_isSimple h ':' mem)).2 rfl

/-- A qualified name has no character that ends a name in a tag. -/
lemma not_mem_delimiters_of_isQualified {name : String} (h : isQualified name = true) :
    ∀ c ∈ name.toList, c ∉ delimiters := by
  intro c mem
  obtain ⟨simple, _⟩ | ⟨q, r, hq, hr, eq, _⟩ := isQualified_cases h
  · exact (not_mem_delimiters_of_isFollow (all_isFollow_of_isSimple simple c mem)).1
  · rw [eq, List.mem_append, List.mem_cons] at mem
    obtain left | rfl | right := mem
    · exact (not_mem_delimiters_of_isFollow (all_isFollow_of_isSimple hq c left)).1
    · decide
    · exact (not_mem_delimiters_of_isFollow (all_isFollow_of_isSimple hr c right)).1

/-- A qualified name is not empty. -/
lemma ne_nil_of_isQualified {name : String} (h : isQualified name = true) : name.toList ≠ [] := by
  obtain ⟨simple, _⟩ | ⟨q, r, _, _, eq, _⟩ := isQualified_cases h
  · obtain ⟨a, t, eq, _⟩ := exists_cons_of_isSimple simple
    simp [eq]
  · simp [eq]

end XsdInfer.Name
