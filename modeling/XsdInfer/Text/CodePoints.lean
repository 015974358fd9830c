/-!
# Sets of code points

A set of characters is a table of ranges. Each property of the Unicode standard that the library
needs is one value of this type, in a module named for the property, which also says of what version
of the standard the property is.
-/

namespace XsdInfer.Text

/-- A set of characters, given by ranges of code points with both ends included. -/
structure CodePoints where
  ranges : List (Nat × Nat)

/-- Whether the code point of a character lies in one of the ranges. -/
def CodePoints.contains (s : CodePoints) (c : Char) : Bool :=
  s.ranges.any fun (lo, hi) => lo ≤ c.toNat && c.toNat ≤ hi

/-- A character is in the set iff some range spans its code point. -/
theorem CodePoints.contains_iff {s : CodePoints} {c : Char} :
    s.contains c = true ↔ ∃ r ∈ s.ranges, r.1 ≤ c.toNat ∧ c.toNat ≤ r.2 := by
  simp [contains, List.any_eq_true]

end XsdInfer.Text
