import XsdInfer.Error
import XsdInfer.Sample.Event
import XsdInfer.Sample.Reference

/-!
# Problems of a sample

What can be wrong with a sample beyond its limits: it cannot be read, a tag cannot be opened, or its
events do not make a document with a single root.
-/

namespace XsdInfer.Sample

/-- Why a sample is no document. -/
inductive Problem where
  | badMarkup (fault : Fault)
  | badName (name : String)
  | badAttribute (fault : AttributeFault)
  | badAttributeName (name : String)
  | badValue (name : String) (fault : ReferenceFault)
  | badText (fault : ReferenceFault)
  | textOutside
  | strayEnd
  | manyRoots
  | noRoot
  | unclosed (name : String)
deriving DecidableEq, Repr

def Problem.message : Problem → String
  | badMarkup fault => fault.message
  | badName name => s!"invalid element name '{name}'"
  | badAttribute fault => "invalid attribute: " ++ fault.message
  | badAttributeName name => s!"invalid attribute name '{name}'"
  | badValue name fault => s!"invalid value for attribute '{name}': " ++ fault.message
  | badText fault => "invalid text: " ++ fault.message
  | textOutside => "text outside of the root element"
  | strayEnd => "end tag without start tag"
  | manyRoots => "multiple root elements"
  | noRoot => "document contains no root element"
  | unclosed name => s!"unexpected end of document: element <{name}> is not closed"

/-- Why no document is made of a sample. -/
inductive Failure where
  | problem (p : Problem)
  | breach (b : Breach)
deriving DecidableEq, Repr

/-- The error of a failure, with the place of a problem. A breach of a limit has no place. -/
def Failure.error (location : Option String) : Failure → Error
  | problem p => .parse p.message location
  | breach b => .ofBreach b

end XsdInfer.Sample
