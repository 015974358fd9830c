import XsdInfer.Sample.Document
import XsdInfer.Schema.Inference
import XsdInfer.Schema.Xsd

/-!
# Conversion

From the text of a sample to the text of its schema.
-/

namespace XsdInfer

/-- How a conversion is done. -/
structure Conversion where
  scope : Scope := .global
  limits : Limits := {}
deriving DecidableEq, Repr

namespace Conversion

def version : String :=
  "0.1.0"

def name : String :=
  "xml-to-xsd"

def inferTree (c : Conversion) (root : Element) : Except Error Schema :=
  (Schema.infer c.scope c.limits root).mapError .ofBreach

/-- The schema of a sample. -/
def infer (c : Conversion) (xml : String) : Except Error Schema := do
  (c.limits.check .size xml.utf8ByteSize).mapError .ofBreach
  let root ← Sample.parse c.limits xml
  c.inferTree root

/-- The text of the schema of a sample. -/
def convert (c : Conversion) (xml : String) : Except Error String := do
  let s ← c.infer xml
  return s.xsd

end Conversion

end XsdInfer
