import XsdInfer.Text.Quoted

/-!
# Faults of a document

What can be wrong with a document that is read strictly, with the place where it is found. Places
count lines and characters from one.
-/

namespace XsdInfer.Strict

/-- A place in a document: a row, and a column in characters. -/
structure Place where
  row : Nat := 1
  column : Nat := 1
deriving DecidableEq, Repr

def Place.advance (p : Place) (c : Char) : Place :=
  if c = '\n' then ⟨p.row + 1, 1⟩ else ⟨p.row, p.column + 1⟩

def Place.text (p : Place) : String :=
  toString p.row ++ ":" ++ toString p.column

/-- Why a document is not well formed, or not one that is read. -/
inductive Fault where
  /-- One character stands where another is due. -/
  | unexpected (due found : Char) (place : Place)
  /-- A character stands where one of a kind is due. -/
  | unexpectedKind (due : String) (found : Char) (place : Place)
  /-- A text is due. -/
  | missing (due : String) (place : Place)
  | endOfText
  | notXml (c : Char) (place : Place)
  | badName (place : Place)
  | unknownToken (place : Place)
  | comment (place : Place)
  | sectionEnd (place : Place)
  | declaration (place : Place)
  | doctype
  | malformedReference (place : Place)
  | unknownReference (name : String) (place : Place)
  /-- The prefix `xml` is declared for another namespace. -/
  | rebound (place : Place)
  /-- Another prefix is declared for the namespace of `xml`. -/
  | reservedXml (place : Place)
  /-- The namespace of declarations is declared. -/
  | reservedXmlns (place : Place)
  /-- The prefix of declarations is used for an element. -/
  | declarationElement (place : Place)
  | repeatedPrefix (pre : String) (place : Place)
  | unknownPrefix (pre : String) (place : Place)
  | repeatedAttribute (name : String) (place : Place)
  | mismatched (expected found : String) (place : Place)
  | noRoot
  | openRoot
deriving DecidableEq, Repr

def Fault.message : Fault → String
  | unexpected due found p => s!"expected '{due}' not '{Text.leadByte found}' at {p.text}"
  | unexpectedKind due found p => s!"expected {due} not '{Text.leadByte found}' at {p.text}"
  | missing due p => s!"expected '{due}' at {p.text}"
  | endOfText => "unexpected end of stream"
  | notXml c p => "a non-XML character " ++ Text.quotedChar c ++ s!" found at {p.text}"
  | badName p => s!"invalid name token at {p.text}"
  | unknownToken p => s!"unknown token at {p.text}"
  | comment p => s!"comment at {p.text} contains '--'"
  | sectionEnd p => s!"']]>' at {p.text} is not allowed inside a character data"
  | declaration p => s!"unexpected XML declaration at {p.text}"
  | doctype => "XML with DTD detected"
  | malformedReference p => s!"malformed entity reference at {p.text}"
  | unknownReference name p => s!"unknown entity reference '{name}' at {p.text}"
  | rebound p => s!"'xml' namespace prefix mapped to wrong URI at {p.text}"
  | reservedXml p => s!"the 'xml' namespace URI is used for not 'xml' prefix at {p.text}"
  | reservedXmlns p => s!"the 'xmlns' URI is used at {p.text}, but it must not be declared"
  | declarationElement p => s!"the 'xmlns' prefix is used at {p.text}, but it must not be"
  | repeatedPrefix pre p => s!"namespace '{pre}' at {p.text} is already defined"
  | unknownPrefix pre p => s!"an unknown namespace prefix '{pre}' at {p.text}"
  | repeatedAttribute name p => s!"attribute '{name}' at {p.text} is already defined"
  | mismatched expected found p => s!"expected '{expected}' tag, not '{found}' at {p.text}"
  | noRoot => "the document does not have a root node"
  | openRoot => "the root node was opened but never closed"

end XsdInfer.Strict
