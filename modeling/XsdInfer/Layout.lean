import XsdInfer.Text.Escape

/-!
# Written documents

A document is written with one tag on each line, indented by two spaces for each element around it.
An element is either a lone tag or a pair of tags with other elements between them; no text is
written.
-/

namespace XsdInfer

/-- An element to be written. -/
inductive Layout where
  /-- A lone tag. -/
  | leaf (name : String) (attributes : List (String × String))
  /-- A pair of tags. -/
  | block (name : String) (attributes : List (String × String)) (body : List Layout)

namespace Layout

/-- A line: how many elements are open around its tag, and the tag. -/
structure Line where
  depth : Nat
  tag : List Char
deriving DecidableEq, Repr

/-- An attribute as it is written in a tag, with the space before it. -/
def assignment (a : String × String) : List Char :=
  ' ' :: a.1.toList ++ '=' :: '"' :: Text.escape a.2.toList ++ ['"']

def inside (name : String) (attributes : List (String × String)) : List Char :=
  name.toList ++ attributes.flatMap assignment

mutual

def lines (depth : Nat) : Layout → List Line
  | leaf name attributes => [⟨depth, '<' :: inside name attributes ++ "/>".toList⟩]
  | block name attributes body =>
    ⟨depth, '<' :: inside name attributes ++ ['>']⟩ :: linesAll (depth + 1) body
      ++ [⟨depth, "</".toList ++ name.toList ++ ['>']⟩]

def linesAll (depth : Nat) : List Layout → List Line
  | [] => []
  | l :: ls => lines depth l ++ linesAll depth ls

end

/-- A line with its indentation and its end. -/
def Line.chars (l : Line) : List Char :=
  List.replicate (2 * l.depth) ' ' ++ l.tag ++ ['\n']

def declaration : Line :=
  ⟨0, "<?xml version=\"1.0\" encoding=\"UTF-8\"?>".toList⟩

/-- The text of a document with a given root. -/
def document (root : Layout) : String :=
  String.ofList ((declaration :: root.lines 0).flatMap Line.chars)

end Layout

end XsdInfer
