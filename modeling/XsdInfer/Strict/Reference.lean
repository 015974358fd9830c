import XsdInfer.Strict.Character
import XsdInfer.Strict.Fault
import XsdInfer.Text.Cut
import XsdInfer.Text.Digit
import XsdInfer.Text.Escape

/-!
# References of a document

In text and values, references stand for characters by name or number. The only names are the five
of the standard, because there are no document types to define others. In a value, line ends and
tabs count as spaces unless they are written as references.
-/

namespace XsdInfer.Strict

/-- What a reference refers to. -/
inductive Referent where
  | char (c : Char)
  | named (name : List Char)
deriving DecidableEq, Repr

namespace Referent

/-- The number of 32 bits that digits of a base write; there has to be a digit. -/
def number? (base : Nat) (digit? : Char → Option Nat) (s : List Char) : Option Nat := do
  let n ← s.foldlM (fun n c => (digit? c).map (base * n + ·)) 0
  if s.isEmpty ∨ UInt32.size ≤ n then none else some n

/-- The character with a number, which has to be one that a document may hold. A number that no
character has stands for the replacement character. -/
def ofNumber? (n : Nat) : Option Referent :=
  let c := if n.isValidChar then Char.ofNat n else '\uFFFD'
  if isXmlChar c then some (char c) else none

/-- What the name between the ampersand and the semicolon refers to. -/
def ofName? : List Char → Option Referent
  | '#' :: 'x' :: s => (number? 16 Text.hexDigit? s).bind ofNumber?
  | '#' :: s => (number? 10 Text.decDigit? s).bind ofNumber?
  | a :: s =>
    if isNameStart a && s.all isNameChar then
      match Text.predefined.lookup (String.ofList (a :: s)) with
      | some c => some (char c)
      | none => some (named (a :: s))
    else none
  | [] => none

end Referent

/-- A character of a value as it counts: line ends and tabs are spaces. -/
def normalChar (c : Char) : Char :=
  if c = '\n' ∨ c = '\r' ∨ c = '\t' then ' ' else c

/-- The characters of a value as they count: a line end of two characters is one space. -/
def normalChars : List Char → List Char
  | '\r' :: '\n' :: s => ' ' :: normalChars s
  | c :: s => normalChar c :: normalChars s
  | [] => []

/-- Resolves the references of a text from a place on. What is resolved already is `done`, the last
character first. -/
def resolveFrom (done : List Char) (place : Place) (s : List Char) : Except Fault (List Char) :=
  match _mark : Text.cutAt '&' s with
  | none => .ok (done.reverse ++ normalChars s)
  | some (plain, t) =>
    let start := plain.foldl Place.advance place
    match _end : Text.cutAt ';' t with
    | none => .error (.malformedReference start)
    | some (name, rest) =>
      match Referent.ofName? name with
      | none => .error (.malformedReference start)
      | some (.named name) => .error (.unknownReference (String.ofList name) start)
      | some (.char c) =>
        resolveFrom (c :: ((normalChars plain).reverse ++ done))
          ((name ++ [';']).foldl Place.advance (start.advance '&')) rest
termination_by s.length
decreasing_by exact Nat.lt_trans (Text.length_lt_of_cutAt _end) (Text.length_lt_of_cutAt _mark)

/-- The value that a text stands for, with its references resolved. -/
def resolve (place : Place) (s : List Char) : Except Fault (List Char) :=
  resolveFrom [] place s

end XsdInfer.Strict
