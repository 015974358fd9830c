/-!
# Places in a text

An offset counts the bytes of UTF-8 before a place. A location names the same place by line and
column, both counted from one; columns count bytes too.
-/

namespace XsdInfer.Text

/-- The number of bytes that a text takes in UTF-8. -/
def width (s : List Char) : Nat :=
  s.foldr (fun c n => c.utf8Size + n) 0

/-- A place in a text: a line, and a byte column on it. -/
structure Location where
  line : Nat
  column : Nat
deriving DecidableEq, Repr

/-- The location of the first byte of a text. -/
def Location.start : Location :=
  ⟨1, 1⟩

def Location.advance (l : Location) (c : Char) : Location :=
  if c = '\n' then ⟨l.line + 1, 1⟩ else ⟨l.line, l.column + c.utf8Size⟩

/-- The location `offset` bytes on from `l`, where the text `s` begins; the end of the text, if the
offset is beyond it. -/
def Location.walk (l : Location) : List Char → Nat → Location
  | [], _ => l
  | c :: s, offset =>
    if c.utf8Size ≤ offset then (l.advance c).walk s (offset - c.utf8Size)
    else ⟨l.line, l.column + offset⟩

/-- The location of a byte offset in a text. -/
def Location.ofOffset (s : List Char) (offset : Nat) : Location :=
  Location.start.walk s offset

/-- The way a location is written: line and column with a colon between them. -/
def Location.text (l : Location) : String :=
  toString l.line ++ ":" ++ toString l.column

/-- Nothing takes no bytes. -/
@[simp]
theorem width_nil : width [] = 0 := rfl

/-- The bytes of a text are those of its first character and of the rest. -/
@[simp]
theorem width_cons (c : Char) (s : List Char) : width (c :: s) = c.utf8Size + width s := rfl

/-- The bytes of two texts in a row are those of both. -/
@[simp]
theorem width_append (s t : List Char) : width (s ++ t) = width s + width t := by
  induction s with
  | nil => simp
  | cons c s ih => simp [ih, Nat.add_assoc]

end XsdInfer.Text
