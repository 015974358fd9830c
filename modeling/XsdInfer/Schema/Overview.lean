import XsdInfer.Schema.Basic

/-!
# Overview of a schema

A listing for people: the root and the counts of a schema, and then its complex types with their
children and attributes.
-/

namespace XsdInfer.Schema

/-- How a type is named in the listing. -/
def listedType (t : SchemaType) : String :=
  match t.kind, t.primitive with
  | .simple, some p => p.reference
  | _, _ => t.typeName

/-- The line of a child of a type. -/
def childLine (s : Schema) (c : String × ChildDeclaration) : String :=
  let type := ((s.types[c.2.target]?).map listedType).getD ""
  s!"    {c.1} : {type} [{c.2.minOccurs}..{c.2.maxOccurs.text}]"

/-- The line of an attribute of a type. -/
def attributeLine (a : String × Primitive) : String :=
  s!"    @{a.1} : {a.2.reference}"

def typeLines (s : Schema) (t : SchemaType) : List String :=
  let mark := if t.isMixed then ", mixed" else ""
  s!"  {t.typeName} ({t.name}{mark})"
    :: t.children.entries.map s.childLine ++ t.attributes.entries.map attributeLine

/-- The lines about the schema as a whole. -/
def headLines (s : Schema) : List String := [
  "Schema Information:",
  "  Root Element: " ++ s.rootName,
  "  Target Namespace: " ++ s.targetNamespace.getD "(none)",
  "",
  "Statistics:",
  s!"  Element Types: {s.summary.elementTypes}",
  s!"  Complex Types: {s.summary.complexTypes}",
  s!"  Mixed Types: {s.summary.mixedTypes}",
  s!"  Repeated Children: {s.summary.repeatedChildren}",
  "",
  "=== Complex Types ==="]

def overview (s : Schema) : List String :=
  s.headLines ++ s.complexTypes.flatMap s.typeLines

end XsdInfer.Schema
