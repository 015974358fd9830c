/-!
# Numbers of a JSON text

A number is digits, perhaps with a sign, a fraction and an exponent. It is refused if it lies beyond
the finite doubles. Its size is judged by a significand of 64 bits and a power of ten: digits that
do not fit the significand are counted, or dropped if they belong to the fraction.
-/

namespace XsdInfer.Json

/-- The natural number nearest to `n` that has 53 significant bits; of two, the even one. -/
def nearestDouble (n : Nat) : Nat :=
  let unit := 1 <<< (n.log2 - 52)
  let quotient := n / unit
  let remainder := n % unit
  if unit < 2 * remainder ∨ unit = 2 * remainder ∧ quotient % 2 = 1 then (quotient + 1) * unit
  else quotient * unit

/-- The least number that rounds to infinity. -/
def overflow : Nat :=
  (1 <<< 1024) - (1 <<< 970)

/-- Whether a significand times a power of ten is too large to be a double. -/
def isTooLarge (significand : Nat) (exponent : Int) : Bool :=
  significand ≠ 0 && 0 ≤ exponent &&
    (308 < exponent ||
      overflow ≤ nearestDouble significand * nearestDouble (Nat.pow 10 exponent.toNat))

/-- The number that decimal digits write. -/
def ofDigits (s : List Char) : Nat :=
  s.foldl (fun n c => 10 * n + (c.toNat - '0'.toNat)) 0

/-- Appends digits to a significand for as long as it fits 64 bits, and returns those left over. -/
def appendDigits (significand : Nat) : List Char → Nat × List Char
  | [] => (significand, [])
  | c :: s =>
    let longer := 10 * significand + (c.toNat - '0'.toNat)
    if longer < UInt64.size then appendDigits longer s else (significand, c :: s)

/-- Whether a number with these digits before and behind the point and this exponent is too large
to be a double. -/
def isOutOfRange (whole fraction : List Char) (exponent : Int) : Bool :=
  let (significand, counted) := appendDigits 0 whole
  let (significand, dropped) := appendDigits significand fraction
  isTooLarge significand (counted.length - (fraction.length - dropped.length) + exponent)

/-- Digits at the start of a text, at least one, and what follows them. -/
def digits? (s : List Char) : Option (List Char × List Char) :=
  let found := s.takeWhile Char.isDigit
  if found.isEmpty then none else some (found, s.dropWhile Char.isDigit)

/-- The fraction at the start of a text, if there is one, and what follows it. -/
def fraction? : List Char → Option (List Char × List Char)
  | '.' :: s => digits? s
  | s => some ([], s)

/-- An exponent behind its mark, and what follows it. -/
def signedDigits? : List Char → Option (Int × List Char)
  | '+' :: s => (digits? s).map fun (found, rest) => (ofDigits found, rest)
  | '-' :: s => (digits? s).map fun (found, rest) => (-ofDigits found, rest)
  | s => (digits? s).map fun (found, rest) => (ofDigits found, rest)

/-- The exponent at the start of a text, zero if there is none, and what follows it. -/
def exponent? : List Char → Option (Int × List Char)
  | 'e' :: s => signedDigits? s
  | 'E' :: s => signedDigits? s
  | s => some (0, s)

/-- What follows the number without sign at the start of a text. A zero at its start stands alone
before the point. -/
def afterMagnitude? (s : List Char) : Option (List Char) := do
  let (whole, s) ← digits? s
  if whole.head? = some '0' ∧ whole ≠ ['0'] then none
  let (fraction, s) ← fraction? s
  let (exponent, s) ← exponent? s
  if isOutOfRange whole fraction exponent then none else some s

/-- What follows the number at the start of a text. -/
def afterNumber? : List Char → Option (List Char)
  | '-' :: s => afterMagnitude? s
  | s => afterMagnitude? s

end XsdInfer.Json
