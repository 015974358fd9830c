import XsdInfer.Json.Value
import XsdInfer.Schema.Basic

/-!
# Schemas as JSON

A schema as a value of JSON. Every field is a member, what is missing is `null`, and the attributes
and children of a type are objects in the order in which the type declares them.
-/

namespace XsdInfer

def Kind.name : Kind → String
  | simple => "simple"
  | complex => "complex"

/-- An upper bound: an object around the number, or a word. -/
def MaxOccurs.json : MaxOccurs → Json
  | bounded n => .object [("bounded", .number n)]
  | unbounded => .string "unbounded"

def ChildDeclaration.json (c : ChildDeclaration) : Json :=
  .object [("type", .number c.target), ("minOccurs", .number c.minOccurs),
    ("maxOccurs", c.maxOccurs.json)]

def SchemaType.json (t : SchemaType) : Json :=
  .object [
    ("name", .string t.name),
    ("typeName", .string t.typeName),
    ("kind", .string t.kind.name),
    ("primitiveType", .ofString? (t.primitive.map Primitive.name)),
    ("attributes", .object (t.attributes.entries.map fun (name, p) => (name, .string p.name))),
    ("children", .object (t.children.entries.map fun (name, c) => (name, c.json))),
    ("isMixed", .bool t.isMixed)]

namespace Schema

def json (s : Schema) : Json :=
  .object [
    ("rootName", .string s.rootName),
    ("targetNamespace", .ofString? s.targetNamespace),
    ("root", .number s.root),
    ("types", .array (s.types.map SchemaType.json))]

/-- The counts of a schema with the name and namespace of its root. -/
def summaryJson (s : Schema) : Json :=
  .object [
    ("rootElement", .string s.rootName),
    ("targetNamespace", .ofString? s.targetNamespace),
    ("elementTypes", .number s.summary.elementTypes),
    ("complexTypes", .number s.summary.complexTypes),
    ("mixedTypes", .number s.summary.mixedTypes),
    ("repeatedChildren", .number s.summary.repeatedChildren)]

def jsonText (s : Schema) : String :=
  s.json.text

end Schema

end XsdInfer
