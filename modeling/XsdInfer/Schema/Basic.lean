import XsdInfer.Primitive.Basic
import XsdInfer.Table

/-!
# Schemas

A schema lists the types of the elements of a sample. Elements refer to the types of their children
by place in that list, so that a type used in many places stands there once.
-/

namespace XsdInfer

/-- A simple type is a bare value; a complex type has attributes or children. -/
inductive Kind where
  | simple
  | complex
deriving DecidableEq, Repr

/-- How often a child may occur at most. -/
inductive MaxOccurs where
  | bounded (n : Nat)
  | unbounded
deriving DecidableEq, Repr

/-- An upper bound as it is written in a schema. -/
def MaxOccurs.text : MaxOccurs → String
  | bounded n => toString n
  | unbounded => "unbounded"

/-- A child that a complex type declares. -/
structure ChildDeclaration where
  /-- The place of the type of the child. -/
  target : Nat
  minOccurs : Nat
  maxOccurs : MaxOccurs
deriving DecidableEq, Repr

/-- What may stand inside an element of a complex type. -/
inductive Content where
  /-- Attributes alone. -/
  | empty
  /-- A value. -/
  | simple (base : Primitive)
  /-- Elements. -/
  | elements
  /-- Elements with text between them. -/
  | mixed
deriving DecidableEq, Repr

/-- The type of the elements of one tag. -/
structure SchemaType where
  /-- The local name of the elements. -/
  name : String
  /-- The name of the definition, if the type is complex. -/
  typeName : String
  kind : Kind
  /-- The type of the value, if the elements have one. -/
  primitive : Option Primitive
  /-- The attributes in the order in which they were first seen. -/
  attributes : Table String Primitive
  /-- The children in the order in which they were first seen. -/
  children : Table String ChildDeclaration
  /-- Whether text stands beside children. -/
  isMixed : Bool
deriving DecidableEq, Repr

namespace SchemaType

/-- Whether the type has attributes or children. -/
def isComplex (t : SchemaType) : Bool :=
  t.kind == .complex

/-- What may stand inside an element of the type; nothing is said of a simple type. -/
def content? (t : SchemaType) : Option Content :=
  match t.kind with
  | .simple => none
  | .complex =>
    if t.children.entries.isEmpty then some ((t.primitive.map .simple).getD .empty)
    else if t.isMixed then some .mixed
    else some .elements

/-- Whether two types say the same, in whatever order. -/
def sameType (s t : SchemaType) : Bool :=
  s.name == t.name && s.typeName == t.typeName && s.kind == t.kind && s.primitive == t.primitive
    && s.attributes.sameMap t.attributes && s.children.sameMap t.children && s.isMixed == t.isMixed

end SchemaType

/-- A schema: the name and namespace of the root element, and all types. -/
structure Schema where
  /-- The name of the root element as written. -/
  rootName : String
  targetNamespace : Option String
  /-- The place of the type of the root element. -/
  root : Nat
  /-- The types in the order in which their elements were first seen. -/
  types : List SchemaType
deriving DecidableEq, Repr

/-- Counts that describe a schema. -/
structure Summary where
  elementTypes : Nat
  complexTypes : Nat
  mixedTypes : Nat
  repeatedChildren : Nat
deriving DecidableEq, Repr

namespace Schema

def complexTypes (s : Schema) : List SchemaType :=
  s.types.filter SchemaType.isComplex

/-- The first type for elements of a given name. -/
def typeOf? (s : Schema) (name : String) : Option SchemaType :=
  s.types.find? (·.name == name)

def summary (s : Schema) : Summary where
  elementTypes := s.types.length
  complexTypes := s.complexTypes.length
  mixedTypes := s.types.countP SchemaType.isMixed
  repeatedChildren :=
    s.types.foldl (fun n t => n + t.children.entries.countP (·.2.maxOccurs == .unbounded)) 0

/-- Whether two schemas say the same, with types in the same order. -/
def sameSchema (s t : Schema) : Bool :=
  s.rootName == t.rootName && s.targetNamespace == t.targetNamespace && s.root == t.root
    && s.types.length == t.types.length && (s.types.zip t.types).all fun (a, b) => a.sameType b

end Schema

end XsdInfer
