import XsdInfer.Text.Hidden

/-!
# Quoted characters

Messages show foreign text between quotes. The mark of the quote, the backslash and characters
without a glyph are escaped, so that the shown text stays on its line and can be told apart.
-/

namespace XsdInfer.Text

/-- A code point as an escape: its hexadecimal digits in braces. -/
def escapeCode (c : Char) : List Char :=
  "\\u\x7b".toList ++ Nat.toDigits 16 c.toNat ++ ['\x7d']

/-- A character as it is shown between two marks. -/
def quoteChar (mark c : Char) : List Char :=
  if c = '\x00' then ['\\', '0']
  else if c = '\t' then ['\\', 't']
  else if c = '\n' then ['\\', 'n']
  else if c = '\r' then ['\\', 'r']
  else if c = '\\' ∨ c = mark then ['\\', c]
  else if isHidden c then escapeCode c
  else [c]

/-- A text as it is shown between double quotes. -/
def quoted (s : List Char) : String :=
  String.ofList ('"' :: s.flatMap (quoteChar '"') ++ ['"'])

/-- A character as it is shown between single quotes. -/
def quotedChar (c : Char) : String :=
  String.ofList ('\'' :: quoteChar '\'' c ++ ['\''])

/-- The first byte of a character in UTF-8, shown as the character of that number. -/
def leadByte (c : Char) : Char :=
  let n := c.toNat
  if n < 0x80 then c
  else if n < 0x800 then Char.ofNat (0xC0 + n / 0x40)
  else if n < 0x10000 then Char.ofNat (0xE0 + n / 0x1000)
  else Char.ofNat (0xF0 + n / 0x40000)

/-- A plain character is shown as itself. -/
example : quoted "a'b".toList = "\"a'b\"" := by decide +kernel

/-- A quote is escaped inside its own kind of quotes. -/
example : quoted "a\"b".toList = "\"a\\\"b\"" := by decide +kernel

end XsdInfer.Text
