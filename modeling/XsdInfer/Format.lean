import XsdInfer.Json.Valid
import XsdInfer.Text.Cut
import XsdInfer.Text.Word

/-!
# Formats

A guess at the format of a text, so that it can be given to the right converter. Each format has
marks of its own, and the first format whose marks a text has is its format: the guess says that the
text looks like the format, and only for JSON that it is valid.
-/

namespace XsdInfer

/-- A format of a text. -/
inductive Format where
  | json
  | xsd
  | xml
  | html
  | csv
  | yaml
  | markdown
  | unknown
deriving DecidableEq, Repr

namespace Format

def name : Format → String
  | json => "json"
  | xsd => "xsd"
  | xml => "xml"
  | html => "html"
  | csv => "csv"
  | yaml => "yaml"
  | markdown => "markdown"
  | unknown => "unknown"

/-- Whether one of some texts occurs in another. -/
def holdsAny (marks : List String) (s : List Char) : Bool :=
  marks.any fun mark => Text.occurs mark.toList s

/-- Whether a text begins and ends with given characters. -/
def isBetween (first last : Char) (s : List Char) : Bool :=
  s.head? == some first && s.getLast? == some last

/-- Whether a text is an object or an array of JSON. -/
def looksLikeJson (s : List Char) : Bool :=
  (isBetween '\x7b' '\x7d' s || isBetween '[' ']' s) && Json.isValid s

/-- Whether a text is markup that uses the schema vocabulary. -/
def looksLikeXsd (s : List Char) : Bool :=
  s.head? == some '<' && holdsAny ["<xs:schema", "<xsd:schema", "xmlns:xs=", "xmlns:xsd="] s

/-- Whether a text holds a tag of a web page, in any case of the ASCII letters. -/
def looksLikeHtml (s : List Char) : Bool :=
  holdsAny ["<!doctype html", "<html", "<head>", "<body>"] (s.map Char.toLower)

/-- Whether a text holds a tag: something other than a closing bracket between brackets. -/
def holdsTag : List Char → Bool
  | '<' :: c :: s => c != '>' && s.contains '>' || holdsTag (c :: s)
  | _ :: s => holdsTag s
  | [] => false

/-- Whether a text is markup with a declaration or with a tag and the start of an end tag. -/
def looksLikeXml (s : List Char) : Bool :=
  s.head? == some '<' && s.contains '>' &&
    (Text.occurs "<?xml".toList s || holdsTag s && Text.occurs "</".toList s)

/-- A line without the return at its end. Lines are given with the last character first. -/
def dropReturn : List Char → List Char
  | '\r' :: line => line
  | line => line

/-- The lines of a text, the first of which has begun with `line`, the last character first. Each
line but the last loses the return before its line end. -/
def linesFrom (line : List Char) : List Char → List (List Char)
  | [] => if line.isEmpty then [] else [line.reverse]
  | '\n' :: s => (dropReturn line).reverse :: linesFrom [] s
  | c :: s => linesFrom (c :: line) s

def lines (s : List Char) : List (List Char) :=
  linesFrom [] s

/-- Whether the first two lines have commas, and as many. -/
def looksLikeCsv (s : List Char) : Bool :=
  match lines s with
  | first :: second :: _ => 0 < first.count ',' && first.count ',' == second.count ','
  | _ => false

/-- Whether the key of a mapping is ahead, perhaps behind blanks: a word, a colon and a blank. -/
def keyAhead (s : List Char) : Bool :=
  let t := s.dropWhile Text.isBlank
  let inKey := fun c => Text.isWordChar c || c == '-'
  match t.dropWhile inKey with
  | ':' :: c :: _ => !(t.takeWhile inKey).isEmpty && Text.isBlank c
  | _ => false

/-- Whether `p` holds of the text from the start of some line on, where this text does not start a
line itself. -/
def atLaterLine (p : List Char → Bool) : List Char → Bool
  | [] => false
  | c :: s => c == '\n' && p s || atLaterLine p s

/-- Whether `p` holds of the text from the start of some line on. -/
def atSomeLine (p : List Char → Bool) (s : List Char) : Bool :=
  p s || atLaterLine p s

/-- Whether a text holds a mapping or a list behind a line end, and a line with a colon that is no
comment. -/
def looksLikeYaml (s : List Char) : Bool :=
  s.contains ':' && (Text.occurs "\n- ".toList s || atSomeLine keyAhead s) &&
    (lines s).any fun line =>
      line.contains ':' && (Text.trim line).head? != some '#'

/-- Whether a text holds a link: square brackets and a round one behind them. -/
def holdsLink : List Char → Bool
  | [] => false
  | c :: s => c == '[' && "](".toList.isPrefixOf (s.dropWhile (· != ']')) || holdsLink s

/-- Whether a text holds a heading, an emphasis or a link. -/
def looksLikeMarkdown (s : List Char) : Bool :=
  Text.occurs "# ".toList s || s.contains '*' || holdsLink s

/-- The format of a text without blanks around it. -/
def ofTrimmed (s : List Char) : Format :=
  if s.isEmpty then unknown
  else if looksLikeJson s then json
  else if looksLikeXsd s then xsd
  else if looksLikeHtml s then html
  else if looksLikeXml s then xml
  else if looksLikeCsv s then csv
  else if looksLikeYaml s then yaml
  else if looksLikeMarkdown s then markdown
  else unknown

/-- The format that a text seems to have. -/
def detect (text : String) : Format :=
  ofTrimmed (Text.trim text.toList)

end Format

end XsdInfer
