import XsdInfer.Primitive.Basic
import XsdInfer.Text.Blank

/-!
# The lexical forms of primitive types

A value is given the first type whose lexical form it has, and is a string if it has none. Digits
are the ten ASCII digits. Dates and times are recognised by shape alone; a time of day may go on
with anything, such as a fraction or a zone.
-/

namespace XsdInfer.Primitive

/-- A letter in the case that tells `true` from `false`: the ASCII letters lose their case, and the
long s is an s. -/
def foldLetter (c : Char) : Char :=
  if c = '\u017F' then 's' else c.toLower

/-- Whether a value is one of the two truth values, in any case. -/
def isBoolean (s : List Char) : Bool :=
  s.map foldLetter == "true".toList || s.map foldLetter == "false".toList

def dropSign : List Char → List Char
  | '+' :: s => s
  | '-' :: s => s
  | s => s

/-- Whether a text is one digit or more. -/
def isDigits (s : List Char) : Bool :=
  !s.isEmpty && s.all Char.isDigit

/-- Whether a value is a sign, which may be missing, and digits. -/
def isInteger (s : List Char) : Bool :=
  isDigits (dropSign s)

/-- Whether a value is a sign, which may be missing, and digits with a point before, among or after
them. -/
def isDecimal (s : List Char) : Bool :=
  let s := dropSign s
  match s.dropWhile Char.isDigit with
  | '.' :: fraction =>
    fraction.all Char.isDigit && !((s.takeWhile Char.isDigit).isEmpty && fraction.isEmpty)
  | _ => false

/-- Whether a text is the mark of an exponent and an integer. -/
def isExponent : List Char → Bool
  | 'e' :: s => isInteger s
  | 'E' :: s => isInteger s
  | _ => false

/-- Whether a value is a sign, which may be missing, a number that ends with a digit, and an
exponent; the number may have a point before or among its digits. -/
def isDouble (s : List Char) : Bool :=
  let s := dropSign s
  match s.dropWhile Char.isDigit with
  | '.' :: t => !(t.takeWhile Char.isDigit).isEmpty && isExponent (t.dropWhile Char.isDigit)
  | t => !(s.takeWhile Char.isDigit).isEmpty && isExponent t

/-- What follows a shape at the start of a text; in the shape, `0` stands for any digit. -/
def afterShape? : (shape s : List Char) → Option (List Char)
  | [], s => some s
  | _ :: _, [] => none
  | p :: shape, c :: s =>
    if (if p = '0' then c.isDigit else c = p) then afterShape? shape s else none

/-- Whether a value is a date: year, month and day in digits. -/
def isDate (s : List Char) : Bool :=
  afterShape? "0000-00-00".toList s == some []

/-- Whether a value begins with a date and a time of day. -/
def isDateTime (s : List Char) : Bool :=
  (afterShape? "0000-00-00T00:00:00".toList s).isSome

/-- Whether a value begins with a time of day. -/
def isTime (s : List Char) : Bool :=
  (afterShape? "00:00:00".toList s).isSome

/-- The type of a value without blanks around it. -/
def ofTrimmed (s : List Char) : Primitive :=
  if isBoolean s then boolean
  else if isInteger s then integer
  else if isDecimal s then decimal
  else if isDouble s then double
  else if isDate s then date
  else if isDateTime s then dateTime
  else if isTime s then time
  else string

/-- The type that a value is given. -/
def infer (value : String) : Primitive :=
  ofTrimmed (Text.trim value.toList)

end XsdInfer.Primitive
