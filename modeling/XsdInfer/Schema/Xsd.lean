import XsdInfer.Layout
import XsdInfer.Name.Basic
import XsdInfer.Namespace
import XsdInfer.Schema.Basic

/-!
# Written schemas

A schema is written as a document of the schema vocabulary: the declaration of the root element,
and then a definition for each complex type. Simple types have no definition of their own: what
refers to them names the primitive type. If there is a target namespace, references to definitions
are qualified by its prefix.
-/

namespace XsdInfer

namespace SchemaType

/-- How a type is named where it is used. -/
def reference (target : Option String) (t : SchemaType) : String :=
  match t.kind with
  | .simple => (t.primitive.getD .string).reference
  | .complex =>
    match target with
    | some _ => Namespace.target ++ ":" ++ t.typeName
    | none => t.typeName

def attributeLayouts (t : SchemaType) : List Layout :=
  t.attributes.entries.map fun (name, p) =>
    .leaf "xs:attribute" [("name", name), ("type", p.reference), ("use", "optional")]

end SchemaType

namespace Schema

/-- How the type at a place is named where it is used. -/
def referenceAt (s : Schema) (target : Option String) (place : Nat) : String :=
  ((s.types[place]?).map (SchemaType.reference target)).getD ""

def childLayout (s : Schema) (target : Option String) (c : String × ChildDeclaration) : Layout :=
  .leaf "xs:element" [("name", Name.localPart c.1), ("type", s.referenceAt target c.2.target),
    ("minOccurs", toString c.2.minOccurs), ("maxOccurs", c.2.maxOccurs.text)]

def bodyLayouts (s : Schema) (target : Option String) (t : SchemaType) : List Layout :=
  match t.content? with
  | some (.simple base) =>
    [.block "xs:simpleContent" []
      [.block "xs:extension" [("base", base.reference)] t.attributeLayouts]]
  | some .elements | some .mixed =>
    .block "xs:sequence" [] (t.children.entries.map (s.childLayout target)) :: t.attributeLayouts
  | some .empty | none => t.attributeLayouts

def typeLayout (s : Schema) (target : Option String) (t : SchemaType) : Layout :=
  .block "xs:complexType"
    (("name", t.typeName) :: if t.isMixed then [("mixed", "true")] else []) (s.bodyLayouts target t)

def headAttributes (target : Option String) : List (String × String) :=
  ("xmlns:xs", Namespace.xsd) ::
    match target with
    | some uri => [("targetNamespace", uri), ("xmlns:" ++ Namespace.target, uri),
        ("elementFormDefault", "qualified")]
    | none => []

/-- The schema as a document, for a root element of a given name and a target namespace. -/
def layout (s : Schema) (rootName : String) (target : Option String) : Layout :=
  .block "xs:schema" (headAttributes target)
    (.leaf "xs:element" [("name", Name.localPart rootName), ("type", s.referenceAt target s.root)]
      :: s.complexTypes.map (s.typeLayout target))

/-- The text of the schema, for a root element of a given name and a target namespace. -/
def render (s : Schema) (rootName : String) (target : Option String) : String :=
  (s.layout rootName target).document

/-- The text of the schema for its own root element. -/
def xsd (s : Schema) : String :=
  s.render s.rootName s.targetNamespace

end Schema

end XsdInfer
