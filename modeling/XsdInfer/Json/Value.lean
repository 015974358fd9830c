/-!
# JSON values

Values of JSON without fractions, and the text in which they are written: an item or member on each
line, indented by two spaces for each array or object around it. Members keep their order.
-/

namespace XsdInfer

/-- A value of JSON whose numbers are natural. -/
inductive Json where
  | null
  | bool (b : Bool)
  | number (n : Nat)
  | string (s : String)
  | array (items : List Json)
  | object (members : List (String × Json))

namespace Json

/-- The string, or `null` if there is none. -/
def ofString? : Option String → Json
  | some s => string s
  | none => null

/-- A character as it is written in a string. -/
def escapeChar (c : Char) : List Char :=
  if c = '"' then ['\\', '"']
  else if c = '\\' then ['\\', '\\']
  else if c = '\x08' then ['\\', 'b']
  else if c = '\x0c' then ['\\', 'f']
  else if c = '\n' then ['\\', 'n']
  else if c = '\r' then ['\\', 'r']
  else if c = '\t' then ['\\', 't']
  else if c.toNat < 16 then "\\u000".toList ++ Nat.toDigits 16 c.toNat
  else if c.toNat < 32 then "\\u00".toList ++ Nat.toDigits 16 c.toNat
  else [c]

def quote (s : String) : List Char :=
  '"' :: s.toList.flatMap escapeChar ++ ['"']

/-- A line end and the indentation of the next line. -/
def row (depth : Nat) : List Char :=
  '\n' :: List.replicate (2 * depth) ' '

/-- What stands behind the last of `rest` and the one before them: a comma, if any are left. -/
def comma {α : Type} (rest : List α) : List Char :=
  if rest.isEmpty then [] else [',']

/-- The line of the closing bracket: only an array or object that holds something has one. -/
def closing {α : Type} (depth : Nat) (body : List α) : List Char :=
  if body.isEmpty then [] else row depth

mutual

/-- The text of a value inside `depth` arrays and objects. -/
def chars (depth : Nat) : Json → List Char
  | null => "null".toList
  | bool b => (if b then "true" else "false").toList
  | number n => (toString n).toList
  | string s => quote s
  | array items => '[' :: itemChars (depth + 1) items ++ closing depth items ++ [']']
  | object members => '\x7b' :: memberChars (depth + 1) members ++ closing depth members ++ ['\x7d']

/-- The text of the items of an array. -/
def itemChars (depth : Nat) : List Json → List Char
  | [] => []
  | j :: rest => row depth ++ chars depth j ++ comma rest ++ itemChars depth rest

/-- The text of the members of an object. -/
def memberChars (depth : Nat) : List (String × Json) → List Char
  | [] => []
  | (k, j) :: rest =>
    row depth ++ quote k ++ ':' :: ' ' :: chars depth j ++ comma rest ++ memberChars depth rest

end

def text (j : Json) : String :=
  String.ofList (j.chars 0)

mutual

/-- The value with the members of each object in the order of their names. -/
def sorted : Json → Json
  | array items => array (sortedItems items)
  | object members => object ((sortedMembers members).mergeSort fun a b => a.1 ≤ b.1)
  | j => j

/-- The items of an array with the members of each object in order. -/
def sortedItems : List Json → List Json
  | [] => []
  | j :: rest => sorted j :: sortedItems rest

/-- The members of an object with those of each object inside in order. -/
def sortedMembers : List (String × Json) → List (String × Json)
  | [] => []
  | (k, j) :: rest => (k, sorted j) :: sortedMembers rest

end

end Json

end XsdInfer
