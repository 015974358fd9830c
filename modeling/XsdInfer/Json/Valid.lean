import XsdInfer.Json.Number
import XsdInfer.Text.Cut
import XsdInfer.Text.Digit

/-!
# Valid JSON texts

Whether a text is JSON is decided in two steps: it is taken apart into tokens, and the tokens are
checked by a machine with a stack of the open arrays and objects. At most 127 of these may be open
at once. Escapes in strings have to stand for characters.
-/

namespace XsdInfer.Json

/-- A token of a JSON text. What a string or another scalar says does not matter. -/
inductive Token where
  | arrayStart
  | arrayEnd
  | objectStart
  | objectEnd
  | comma
  | colon
  | string
  | scalar
deriving DecidableEq, Repr

/-- The number that four hexadecimal digits write. -/
def codeUnit? (a b c d : Char) : Option Nat := do
  return 4096 * (← Text.hexDigit? a) + 256 * (← Text.hexDigit? b) + 16 * (← Text.hexDigit? c)
    + (← Text.hexDigit? d)

/-- Whether a code unit is the first half of a pair. -/
def isHighHalf (n : Nat) : Bool :=
  0xD800 ≤ n && n ≤ 0xDBFF

/-- Whether a code unit is the second half of a pair. -/
def isLowHalf (n : Nat) : Bool :=
  0xDC00 ≤ n && n ≤ 0xDFFF

/-- Whether a character may stand behind a backslash by itself. -/
def isShortEscape (c : Char) : Bool :=
  c ∈ ['"', '\\', '/', 'b', 'f', 'n', 'r', 't']

/-- What follows a string, from behind its opening quote on. The halves of a pair of escaped code
units come together. -/
def afterString? : List Char → Option (List Char)
  | [] => none
  | '"' :: s => some s
  | '\\' :: 'u' :: a :: b :: c :: d :: s =>
    match codeUnit? a b c d with
    | none => none
    | some n =>
      if isLowHalf n then none
      else if isHighHalf n then
        match s with
        | '\\' :: 'u' :: a' :: b' :: c' :: d' :: s' =>
          if (codeUnit? a' b' c' d').any isLowHalf then afterString? s' else none
        | _ => none
      else afterString? s
  | '\\' :: c :: s => if isShortEscape c then afterString? s else none
  | c :: s => if c.toNat < 0x20 || c == '\\' then none else afterString? s

/-- The token at the start of a text and what follows it. -/
def token? : List Char → Option (Token × List Char)
  | '[' :: s => some (.arrayStart, s)
  | ']' :: s => some (.arrayEnd, s)
  | '\x7b' :: s => some (.objectStart, s)
  | '\x7d' :: s => some (.objectEnd, s)
  | ',' :: s => some (.comma, s)
  | ':' :: s => some (.colon, s)
  | '"' :: s => (afterString? s).map (.string, ·)
  | s =>
    (Text.behind? "null".toList s <|> Text.behind? "true".toList s
      <|> Text.behind? "false".toList s <|> afterNumber? s).map (.scalar, ·)

/-- The tokens of a text. A text of `fuel` characters has no more tokens than that. -/
def tokensWithin? (fuel : Nat) (found : List Token) (s : List Char) : Option (List Token) :=
  match s.dropWhile Text.isSpace with
  | [] => some found.reverse
  | s =>
    match fuel with
    | 0 => none
    | fuel + 1 =>
      match token? s with
      | some (t, rest) => tokensWithin? fuel (t :: found) rest
      | none => none

/-- The tokens of a text, with space between them left out. -/
def tokens? (s : List Char) : Option (List Token) :=
  tokensWithin? s.length [] s

/-- What is open around a token. -/
inductive Nest where
  | array
  | object
deriving DecidableEq, Repr

/-- What may come next. -/
inductive Awaited where
  | value
  /-- A value, or the end of an array that is empty so far. -/
  | valueOrEnd
  /-- The name of a member. -/
  | member
  /-- The name of a member, or the end of an object that is empty so far. -/
  | memberOrEnd
  | colon
  /-- A comma or the end of what is open; or the end of the text, if nothing is. -/
  | more
deriving DecidableEq, Repr

/-- A state of the machine: what may come next, and what is open, the innermost first. -/
structure State where
  awaited : Awaited := .value
  opened : List Nest := []
deriving DecidableEq, Repr

/-- The greatest number of arrays and objects that may be open at once. -/
def maxDepth : Nat :=
  127

/-- The state behind the start of an array or object. -/
def State.enter (st : State) (n : Nest) (awaited : Awaited) : Option State :=
  if st.opened.length < maxDepth then some ⟨awaited, n :: st.opened⟩ else none

/-- The state behind the end of an array or object. -/
def State.leave (st : State) (n : Nest) : Option State :=
  match st.opened with
  | m :: rest => if m = n then some ⟨.more, rest⟩ else none
  | [] => none

def State.goOn (st : State) : Option State :=
  match st.opened with
  | .array :: _ => some { st with awaited := .value }
  | .object :: _ => some { st with awaited := .member }
  | [] => none

/-- The state behind a token that starts a value. -/
def State.startValue (st : State) : Token → Option State
  | .arrayStart => st.enter .array .valueOrEnd
  | .objectStart => st.enter .object .memberOrEnd
  | .string => some { st with awaited := .more }
  | .scalar => some { st with awaited := .more }
  | _ => none

def State.step (st : State) (t : Token) : Option State :=
  match st.awaited, t with
  | .value, t => st.startValue t
  | .valueOrEnd, .arrayEnd => st.leave .array
  | .valueOrEnd, t => st.startValue t
  | .member, .string => some { st with awaited := .colon }
  | .memberOrEnd, .string => some { st with awaited := .colon }
  | .memberOrEnd, .objectEnd => st.leave .object
  | .colon, .colon => some { st with awaited := .value }
  | .more, .comma => st.goOn
  | .more, .arrayEnd => st.leave .array
  | .more, .objectEnd => st.leave .object
  | _, _ => none

def isValid (s : List Char) : Bool :=
  match (tokens? s).bind (·.foldlM State.step {}) with
  | some st => st == ⟨.more, []⟩
  | none => false

end XsdInfer.Json
