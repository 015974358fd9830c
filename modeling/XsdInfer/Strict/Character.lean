/-!
# Characters of XML

The characters that a document may hold, and those that a name may start and go on with, as the
standard lists them (fifth edition of XML 1.0).
-/

namespace XsdInfer.Strict

/-- Whether a document may hold the character. -/
def isXmlChar (c : Char) : Bool :=
  let n := c.toNat
  n = 0x9 || n = 0xA || n = 0xD || (0x20 ≤ n && n ≤ 0xD7FF) || (0xE000 ≤ n && n ≤ 0xFFFD)
    || 0x10000 ≤ n

/-- The ranges of the characters that a name may start with. -/
def nameStartRanges : List (Nat × Nat) := [
  (0x3A, 0x3A), (0x41, 0x5A), (0x5F, 0x5F), (0x61, 0x7A), (0xC0, 0xD6), (0xD8, 0xF6),
  (0xF8, 0x2FF), (0x370, 0x37D), (0x37F, 0x1FFF), (0x200C, 0x200D), (0x2070, 0x218F),
  (0x2C00, 0x2FEF), (0x3001, 0xD7FF), (0xF900, 0xFDCF), (0xFDF0, 0xFFFD), (0x10000, 0xEFFFF)]

/-- The ranges of the characters that a name may go on with but not start with. -/
def nameFollowRanges : List (Nat × Nat) := [
  (0x2D, 0x2E), (0x30, 0x39), (0xB7, 0xB7), (0x300, 0x36F), (0x203F, 0x2040)]

/-- Whether a name may start with the character; a colon counts as one. -/
def isNameStart (c : Char) : Bool :=
  nameStartRanges.any fun (lo, hi) => lo ≤ c.toNat && c.toNat ≤ hi

/-- Whether a name may go on with the character. -/
def isNameChar (c : Char) : Bool :=
  isNameStart c || nameFollowRanges.any fun (lo, hi) => lo ≤ c.toNat && c.toNat ≤ hi

end XsdInfer.Strict
