import Mathlib.Tactic.Lemma
import XsdInfer.Layout
import XsdInfer.Proofs.Text.Cut

/-!
# The text of written documents

The lines of an element are a text of its own (`text`) with an indentation before it and a line end
behind it (`lines_eq`). Between the tags of a pair stand the texts of the elements inside, each on a
line of its own (`inner`).
-/

namespace XsdInfer.Layout

/-- The characters before a tag. -/
def indent (depth : Nat) : List Char :=
  List.replicate (2 * depth) ' '

/-- What stands between the tags of a pair. -/
def inner (depth : Nat) (body : List Layout) : List Char :=
  '\n' :: (linesAll (depth + 1) body).flatMap Line.chars ++ indent depth

/-- An element from its first bracket to its last. -/
def text (depth : Nat) : Layout → List Char
  | .leaf name attributes => '<' :: inside name attributes ++ "/>".toList
  | .block name attributes body =>
    '<' :: inside name attributes ++ '>' :: inner depth body ++ "</".toList ++ name.toList ++ ['>']

/-- The lines of an element are its text, indented and ended. -/
lemma lines_eq (depth : Nat) (l : Layout) :
    (l.lines depth).flatMap Line.chars = indent depth ++ l.text depth ++ ['\n'] := by
  cases l with
  | leaf name attributes => simp [lines, Line.chars, indent, text]
  | block name attributes body => simp [lines, Line.chars, indent, text, inner]

/-- A new line with its indentation has nothing but line ends and spaces. -/
lemma mem_blanks_of_mem_indent {depth : Nat} {c : Char} (h : c ∈ '\n' :: indent depth) :
    c ∈ ['\n', ' '] := by
  obtain rfl | inside := List.mem_cons.mp h
  · exact .head _
  · rw [List.eq_of_mem_replicate inside]
    exact .tail _ (.head _)

/-- A new line with its indentation is blank. -/
lemma isBlank_of_mem_indent {depth : Nat} {c : Char} (h : c ∈ '\n' :: indent depth) :
    Text.isBlank c = true := by
  have all : ∀ c ∈ ['\n', ' '], Text.isBlank c = true := by decide
  exact all c (mem_blanks_of_mem_indent h)

/-- A layout starts with a bracket. -/
lemma exists_text_eq_cons (depth : Nat) (l : Layout) : ∃ s, l.text depth = '<' :: s := by
  cases l with
  | leaf name attributes => exact ⟨_, rfl⟩
  | block name attributes body => exact ⟨_, rfl⟩

/-- The body of a layout starts with a new line and its first part. -/
lemma inner_cons (depth : Nat) (l : Layout) (body : List Layout) :
    inner depth (l :: body) =
      '\n' :: indent (depth + 1) ++ (l.text (depth + 1) ++ inner depth body) := by
  simp [inner, linesAll, lines_eq]

/-- A document is the declaration and the layout, each on lines of its own. -/
lemma toList_document (l : Layout) :
    l.document.toList = declaration.tag ++ '\n' :: (l.text 0 ++ ['\n']) := by
  rw [document, String.toList_ofList, List.flatMap_cons, lines_eq]
  simp [Line.chars, declaration, indent]

end XsdInfer.Layout
