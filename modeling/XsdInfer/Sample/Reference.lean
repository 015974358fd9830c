import XsdInfer.Text.Cut
import XsdInfer.Text.Digit
import XsdInfer.Text.Escape
import XsdInfer.Text.Location
import XsdInfer.Text.Quoted

/-!
# References of a sample

Text and attribute values may hold references: an ampersand, a name or number, and a semicolon. A
sample knows the five names of the standard and numbers in decimal and hexadecimal. Positions are
byte offsets in the text that holds the reference.
-/

namespace XsdInfer.Sample

/-- Why a reference cannot be resolved. -/
inductive ReferenceFault where
  /-- No semicolon ends the reference before the next one or the end of the text. -/
  | unterminated (start stop : Nat)
  /-- The name is none of the five. -/
  | unknown (start stop : Nat) (name : List Char)
  /-- The number has too many digits to be a character. -/
  | tooLong (base : String)
  /-- A digit is wrong. -/
  | badDigit (base : String) (digit : Char)
  /-- The number is zero. -/
  | null (start stop : Nat)
  /-- No character has the number. -/
  | noCharacter (code : Nat)
deriving DecidableEq, Repr

def ReferenceFault.message : ReferenceFault → String
  | unterminated start stop =>
    s!"Error while escaping character at range {start}..{stop}: Cannot find ';' after '&'"
  | unknown start stop name =>
    s!"Error while escaping character at range {start}..{stop}: Unrecognized escape symbol: "
      ++ Text.quoted name
  | tooLong base => s!"Cannot convert {base} to utf8"
  | badDigit base digit => s!"'{digit}' is not a valid {base} character"
  | null start stop =>
    s!"Error while escaping character at range {start}..{stop}: Null character entity not allowed"
  | noCharacter code => s!"'{code}' is not a valid codepoint"

namespace Reference

/-- The number that digits of a base write; no digits write zero. -/
def number (name : String) (base : Nat) (digit? : Char → Option Nat) (s : List Char) :
    Except ReferenceFault Nat :=
  s.foldlM (fun n c =>
    match digit? c with
    | some d => .ok (base * n + d)
    | none => .error (.badDigit name (Text.leadByte c))) 0

/-- The number of a reference: hexadecimal behind an `x`, with at most six digits, or decimal with
at most seven. -/
def code : List Char → Except ReferenceFault Nat
  | 'x' :: s =>
    if 6 < Text.width s then .error (.tooLong "hexadecimal")
    else number "hexadecimal" 16 Text.hexDigit? s
  | s =>
    if 7 < Text.width s then .error (.tooLong "decimal")
    else number "decimal" 10 Text.decDigit? s

/-- The character that a reference stands for. The positions are those of its ampersand and its
semicolon. -/
def resolve (start stop : Nat) : List Char → Except ReferenceFault Char
  | '#' :: s => do
    let n ← code s
    if n = 0 then .error (.null start stop)
    else if n.isValidChar then .ok (Char.ofNat n)
    else .error (.noCharacter n)
  | name =>
    match Text.predefined.lookup (String.ofList name) with
    | some c => .ok c
    | none => .error (.unknown (start + 1) stop name)

/-- Resolves the references of the text `s`, which begins at a position in a text of `total` bytes.
What is resolved already is `done`, the last character first. -/
def resolveAll (total : Nat) (done : List Char) (position : Nat) (s : List Char) :
    Except ReferenceFault (List Char) :=
  match _mark : Text.cutAt '&' s with
  | none => .ok (done.reverse ++ s)
  | some (plain, t) =>
    let start := position + Text.width plain
    let name := t.takeWhile fun c => c != '&' && c != ';'
    match _behind : t.dropWhile fun c => c != '&' && c != ';' with
    | ';' :: rest =>
      let stop := start + 1 + Text.width name
      match resolve start stop name with
      | .ok c => resolveAll total (c :: (plain.reverse ++ done)) (stop + 1) rest
      | .error fault => .error fault
    | _ => .error (.unterminated start total)
termination_by s.length
decreasing_by
  have outer := Text.length_lt_of_cutAt _mark
  have inner := Text.length_dropWhile_le (fun c => c != '&' && c != ';') t
  rw [_behind, List.length_cons] at inner
  omega

/-- The text with its references resolved. -/
def decode (s : List Char) : Except ReferenceFault (List Char) :=
  resolveAll (Text.width s) [] 0 s

end Reference

end XsdInfer.Sample
