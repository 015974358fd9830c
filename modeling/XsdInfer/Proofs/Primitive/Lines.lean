import Mathlib.Data.Option.Basic
import XsdInfer.Primitive.Lexical
import XsdInfer.Proofs.Text.Lines

/-!
# Types of values with the same lines

Main statement: values with the same lines have the same type (`infer_of_sameLines`). Most lexical forms
hold no space at all, so that such values are equal; a date or a time is recognised by a shape in front,
which holds no line end.
-/

namespace XsdInfer.Primitive

open Text (SameLines isSpace)

variable {s t : List Char} {c : Char}

/-! ## Forms without space -/

/-- A text without markup space. -/
def Solid (s : List Char) : Prop :=
  ∀ c ∈ s, isSpace c = false

/-- A digit is no space. -/
lemma isSpace_of_isDigit (h : c.isDigit = true) : isSpace c = false := by
  rw [Bool.eq_false_iff]
  intro space
  simp only [isSpace, Bool.or_eq_true, beq_iff_eq] at space
  obtain ((rfl | rfl) | rfl) | rfl := space <;> exact absurd h (by decide)

namespace Solid

/-- A solid text stays so with another character in front that is no space. -/
lemma cons (first : isSpace c = false) (rest : Solid s) : Solid (c :: s) :=
  List.forall_mem_cons.mpr ⟨first, rest⟩

/-- Two solid texts in a row are solid. -/
lemma append (front : Solid s) (behind : Solid t) : Solid (s ++ t) :=
  List.forall_mem_append.mpr ⟨front, behind⟩

/-- Digits are solid. -/
lemma of_digits (h : s.all Char.isDigit = true) : Solid s := fun c mem =>
  isSpace_of_isDigit (List.all_eq_true.mp h c mem)

/-- A text is solid if it is so without its sign. -/
lemma of_dropSign (h : Solid (dropSign s)) : Solid s := by
  unfold dropSign at h
  split at h
  next => exact h.cons (by decide)
  next => exact h.cons (by decide)
  next => exact h

/-- An integer is solid. -/
lemma of_isInteger (h : isInteger s = true) : Solid s := by
  rw [isInteger, isDigits, Bool.and_eq_true] at h
  exact of_dropSign (of_digits h.2)

/-- An exponent is solid. -/
lemma of_isExponent (h : isExponent s = true) : Solid s := by
  unfold isExponent at h
  split at h
  next => exact (of_isInteger h).cons (by decide)
  next => exact (of_isInteger h).cons (by decide)
  next => cases h

/-- A text is solid if what stands behind its leading digits is. -/
lemma of_dropWhile (h : Solid (s.dropWhile Char.isDigit)) : Solid s := by
  rw [← List.takeWhile_append_dropWhile (p := Char.isDigit) (l := s)]
  exact (of_digits List.all_takeWhile).append h

/-- A decimal is solid. -/
lemma of_isDecimal (h : isDecimal s = true) : Solid s := by
  unfold isDecimal at h
  simp only at h
  split at h
  next fraction point =>
    rw [Bool.and_eq_true] at h
    refine of_dropSign (of_dropWhile ?_)
    rw [point]
    exact (of_digits h.1).cons (by decide)
  next => cases h

/-- A double is solid. -/
lemma of_isDouble (h : isDouble s = true) : Solid s := by
  unfold isDouble at h
  simp only at h
  refine of_dropSign (of_dropWhile ?_)
  split at h
  next fraction point =>
    rw [Bool.and_eq_true] at h
    rw [point]
    exact (of_dropWhile (of_isExponent h.2)).cons (by decide)
  next =>
    rw [Bool.and_eq_true] at h
    exact of_isExponent h.2

/-- A truth value is solid. -/
lemma of_isBoolean (h : isBoolean s = true) : Solid s := by
  intro c mem
  rw [Bool.eq_false_iff]
  intro space
  have letter : foldLetter c ∈ "true".toList ∨ foldLetter c ∈ "false".toList := by
    rw [isBoolean, Bool.or_eq_true, beq_iff_eq, beq_iff_eq] at h
    have mapped := List.mem_map_of_mem (f := foldLetter) mem
    obtain whole | whole := h
    · exact .inl (whole ▸ mapped)
    · exact .inr (whole ▸ mapped)
  simp only [isSpace, Bool.or_eq_true, beq_iff_eq] at space
  obtain ((rfl | rfl) | rfl) | rfl := space <;> exact absurd letter (by decide)

end Solid

/-- Texts with the same lines have a form alike, if all texts of the form are solid. -/
lemma eq_of_solid {form : List Char → Bool} (solid : ∀ {s}, form s = true → Solid s)
    (h : SameLines s t) : form s = form t := by
  rw [Bool.eq_iff_iff]
  constructor
  · intro has
    have plain : '\n' ∉ s := fun mem => absurd (solid has _ mem) (by decide)
    rwa [h.eq_of_left plain]
  · intro has
    have plain : '\r' ∉ t := fun mem => absurd (solid has _ mem) (by decide)
    rwa [← h.eq_of_right plain]

/-! ## Shapes -/

/-- What follows a shape has the same lines, too. -/
lemma afterShape?_of_sameLines {shape : List Char} (inner : ∀ p ∈ shape, SameLines.Inner p)
    (h : SameLines s t) : Option.Rel SameLines (afterShape? shape s) (afterShape? shape t) := by
  induction shape generalizing s t with
  | nil => exact .some h
  | cons p shape ih =>
    obtain ⟨first, rest⟩ := List.forall_mem_cons.mp inner
    cases h with
    | nil => exact .none
    | @char c _ _ h =>
      rw [afterShape?, afterShape?]
      by_cases fits : (if p = '0' then c.isDigit else c = p) = true
      · rw [if_pos fits, if_pos fits]
        exact ih rest h
      · rw [if_neg fits, if_neg fits]
        exact .none
    | feed h =>
      have stopped (c : Char) (s : List Char) (digit : c.isDigit = false) (other : c ≠ p) :
          afterShape? (p :: shape) (c :: s) = none := by
        simp [afterShape?, digit, other]
      rw [stopped _ _ (by decide) first.1.symm, stopped _ _ (by decide) first.2.symm]
      exact .none

/-- Texts with the same lines begin with a shape alike, and are of that shape alike. -/
lemma shaped_of_sameLines {shape : List Char} (inner : ∀ p ∈ shape, SameLines.Inner p)
    (h : SameLines s t) :
    (afterShape? shape s).isSome = (afterShape? shape t).isSome ∧
      (afterShape? shape s == some []) = (afterShape? shape t == some []) := by
  have behind := afterShape?_of_sameLines inner h
  generalize afterShape? shape s = x at behind ⊢
  generalize afterShape? shape t = y at behind ⊢
  cases behind with
  | none => exact ⟨rfl, rfl⟩
  | some rest =>
    refine ⟨rfl, ?_⟩
    rw [Bool.eq_iff_iff, beq_iff_eq, beq_iff_eq, Option.some_inj, Option.some_inj, rest.eq_nil_iff]

/-- Values with the same lines have the same type. -/
theorem infer_of_sameLines {v w : String} (h : SameLines v.toList w.toList) : infer v = infer w := by
  have h := h.trim
  rw [infer, infer, ofTrimmed, ofTrimmed, eq_of_solid Solid.of_isBoolean h,
    eq_of_solid Solid.of_isInteger h, eq_of_solid Solid.of_isDecimal h,
    eq_of_solid Solid.of_isDouble h, isDate, isDate, (shaped_of_sameLines (by decide) h).2,
    isDateTime, isDateTime, (shaped_of_sameLines (by decide) h).1, isTime, isTime,
    (shaped_of_sameLines (by decide) h).1]

end XsdInfer.Primitive
