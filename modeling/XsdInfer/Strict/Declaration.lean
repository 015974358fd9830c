import XsdInfer.Strict.Token

/-!
# The declaration of a document

A document may start with a byte order mark and with a declaration of its version, encoding and
independence. These are written like attributes and in this order, and only the version has to be
there; what they say does not matter.
-/

namespace XsdInfer.Strict

/-- Whether a text begins with another. -/
def begins (lead : String) (s : List Char) : Bool :=
  lead.toList.isPrefixOf s

namespace Scan

/-- Takes space between the parts of a declaration, which may be missing at its end. -/
def gap : Scan Unit := do
  match ← ahead with
  | a :: s =>
    refuse (!Text.isSpace a && !begins "?>" (a :: s)) (.unexpectedKind "a whitespace" a)
    spaces
  | [] => return ()

def version : Scan Unit := do
  refuse (!begins "version" (← ahead)) (.missing "version")
  let _ ← attr

/-- Takes the encoding, if it is there, and the space behind it. -/
def encoding : Scan Unit := do
  if begins "encoding" (← ahead) then
    let _ ← attr
    gap

/-- Takes the statement whether the document stands alone, if it is there. -/
def standalone : Scan Unit := do
  if begins "standalone" (← ahead) then
    let _ ← attr

def declaration : Scan Unit := do
  literal "<?xml"
  gap
  version
  gap
  encoding
  standalone
  spaces
  literal "?>"

/-- Takes a byte order mark and a declaration, if they are there. -/
def start : Scan Unit := do
  if (← ahead).head? = some '\uFEFF' then take 1
  if begins "<?xml " (← ahead) then declaration

end Scan

end XsdInfer.Strict
