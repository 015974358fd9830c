import XsdInfer.Limits

/-!
# Errors

A conversion gives a whole schema or one of these errors. The stages keep causes of their own; at
the end each cause is put into words here.
-/

namespace XsdInfer

/-- Why a conversion failed. -/
inductive Error where
  /-- The text is no well-formed document with a single root. -/
  | parse (message : String) (location : Option String)
  /-- A structure that inference does not model. -/
  | unsupported (message : String)
  /-- A resource was used beyond its limit. -/
  | limit (message : String)
  /-- A document could not be written or read back. -/
  | xml (message : String)
  /-- A schema could not be written as JSON. -/
  | json (message : String)
deriving DecidableEq, Repr

namespace Error

/-- The error of a resource used beyond its limit. -/
def ofBreach (b : Breach) : Error :=
  .limit b.message

/-- The error with a place in the document, if it is one of reading. -/
def withLocation (e : Error) (location : String) : Error :=
  match e with
  | .parse message _ => .parse message (some location)
  | e => e

/-- The text that is shown for an error. -/
def text : Error → String
  | .parse message none => "parse error: " ++ message
  | .parse message (some location) => s!"parse error: {message} (at {location})"
  | .unsupported message => "unsupported structure: " ++ message
  | .limit message => "limit exceeded: " ++ message
  | .xml message => "XML error: " ++ message
  | .json message => "JSON error: " ++ message

end Error

end XsdInfer
