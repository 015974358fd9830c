import XsdInfer.Table

/-!
# Namespaces

An element declares namespaces for prefixes and for names without one. A schema only needs the
declarations that an element makes itself, so each element carries its own and inherits none.
-/

namespace XsdInfer.Namespace

def xsd : String :=
  "http://www.w3.org/2001/XMLSchema"

/-- The namespace of attributes that tie a document to a schema. -/
def xsi : String :=
  "http://www.w3.org/2001/XMLSchema-instance"

/-- The namespace that the prefix `xml` always stands for. -/
def xml : String :=
  "http://www.w3.org/XML/1998/namespace"

def xmlns : String :=
  "http://www.w3.org/2000/xmlns/"

/-- The prefix that a written schema gives to its target namespace. -/
def target : String :=
  "tns"

/-- The namespace declarations of one element. -/
structure Declarations where
  /-- What each prefix stands for. -/
  prefixed : Table String String := {}
  /-- What names without a prefix belong to. -/
  unprefixed : Option String := none
deriving DecidableEq, Repr

namespace Declarations

/-- The declarations with one more prefix, or another meaning of a prefix. -/
def declare (d : Declarations) (pre uri : String) : Declarations :=
  { d with prefixed := d.prefixed.insert pre uri }

/-- The declarations with a namespace for names without a prefix. -/
def declareUnprefixed (d : Declarations) (uri : String) : Declarations :=
  { d with unprefixed := some uri }

def get? (d : Declarations) (pre : String) : Option String :=
  if pre = "xml" then some xml else d.prefixed.get? pre

def size (d : Declarations) : Nat :=
  d.prefixed.size + (if d.unprefixed.isSome then 1 else 0)

def isEmpty (d : Declarations) : Bool :=
  d.size == 0

/-- The namespace of an element whose name has the given prefix or none; the empty name stands for
no namespace. -/
def ofElement (d : Declarations) (pre : Option String) : Option String :=
  (match pre with
    | some p => d.get? p
    | none => d.unprefixed).filter (· ≠ "")

/-- Whether a prefix stands for the namespace of attributes that tie a document to a schema. -/
def bindsInstance (d : Declarations) (pre : String) : Bool :=
  d.get? pre == some xsi

/-- Whether two elements declare the same, in whatever order. -/
def sameMap (d e : Declarations) : Bool :=
  d.prefixed.sameMap e.prefixed && d.unprefixed == e.unprefixed

end Declarations

end XsdInfer.Namespace
