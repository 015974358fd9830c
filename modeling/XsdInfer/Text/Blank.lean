import XsdInfer.Text.CodePoints

/-!
# White space

Two notions of white space are in use. *Blank* characters are those with the Unicode property
`White_Space`; values and texts are trimmed of them. *Markup space* is the space, the tab and the
two line-end characters, which alone separate the parts of a tag.
-/

namespace XsdInfer.Text

/-- The code points with the property `White_Space`. -/
def whiteSpace : CodePoints := ⟨[
  (0x9, 0xD), (0x20, 0x20), (0x85, 0x85), (0xA0, 0xA0), (0x1680, 0x1680), (0x2000, 0x200A),
  (0x2028, 0x2029), (0x202F, 0x202F), (0x205F, 0x205F), (0x3000, 0x3000)]⟩

/-- Whether a character is white space of any script. -/
def isBlank (c : Char) : Bool :=
  whiteSpace.contains c

/-- Whether a character is white space of markup. -/
def isSpace (c : Char) : Bool :=
  c == ' ' || c == '\t' || c == '\n' || c == '\r'

/-- The text without the leading characters of a class. -/
def dropLeading (p : Char → Bool) (s : List Char) : List Char :=
  s.dropWhile p

/-- The text without the trailing characters of a class. -/
def dropTrailing (p : Char → Bool) (s : List Char) : List Char :=
  (s.reverse.dropWhile p).reverse

/-- The text without the blanks around it. -/
def trim (s : List Char) : List Char :=
  dropTrailing isBlank (dropLeading isBlank s)

/-- Markup space is blank. -/
theorem isBlank_of_isSpace {c : Char} (h : isSpace c = true) : isBlank c = true := by
  simp only [isSpace, Bool.or_eq_true, beq_iff_eq] at h
  rcases h with ((rfl | rfl) | rfl) | rfl <;> decide

/-- Every text is what trimming at the end leaves, and then characters of the class. -/
theorem dropTrailing_append (p : Char → Bool) (s : List Char) :
    dropTrailing p s ++ (s.reverse.takeWhile p).reverse = s := by
  rw [dropTrailing, ← List.reverse_append, List.takeWhile_append_dropWhile, List.reverse_reverse]

end XsdInfer.Text
