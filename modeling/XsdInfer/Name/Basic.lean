import XsdInfer.Text.Alphabetic
import XsdInfer.Text.Cut
import XsdInfer.Text.Numeric
import XsdInfer.Text.Uppercase

/-!
# Names

Elements and attributes carry names that may be qualified by a part before a colon. A sample is
read only if each half of its names is a letter or a low line followed by letters, numbers and a
few marks. The types of a schema are named after the elements: `item` gives `itemType`, and inside
`order` it gives `orderItemType`.
-/

namespace XsdInfer.Name

/-- Whether a name may start with the character. -/
def isStart (c : Char) : Bool :=
  Text.isAlphabetic c || c == '_'

/-- Whether a name may go on with the character. -/
def isFollow (c : Char) : Bool :=
  Text.isAlphabetic c || Text.isNumeric c || c == '_' || c == '-' || c == '.' || c == '\u00B7'

/-- Whether a text is a name without a colon. -/
def isSimple : List Char → Bool
  | [] => false
  | c :: s => isStart c && s.all isFollow

/-- The halves of a name: what stands before its first colon, if it has one, and the rest. -/
def split (name : String) : Option String × String :=
  match Text.cutAt ':' name.toList with
  | some (qualifier, rest) => (some (String.ofList qualifier), String.ofList rest)
  | none => (none, name)

/-- Whether a text is a name, each half of which is one without a colon. -/
def isQualified (name : String) : Bool :=
  match split name with
  | (some qualifier, rest) => isSimple qualifier.toList && isSimple rest.toList
  | (none, rest) => isSimple rest.toList

/-- The part of a name before its first colon. -/
def qualifier? (name : String) : Option String :=
  (split name).1

/-- The part of a name behind its first colon; all of it, if it has no colon. -/
def localPart (name : String) : String :=
  (split name).2

/-- The ending that tells the name of a type from the name of an element. -/
def typeSuffix : String :=
  "Type"

/-- The name of the type of an element with this tag. -/
def typeName (tag : String) : String :=
  localPart tag ++ typeSuffix

/-- The text with its first character in upper case. -/
def capitalize : List Char → List Char
  | [] => []
  | c :: s => Text.toUpper c ++ s

/-- The name of the type of an element with this tag inside a given parent. -/
def scopedTypeName (parent tag : String) : String :=
  localPart parent ++ String.ofList (capitalize (localPart tag).toList) ++ typeSuffix

end XsdInfer.Name
