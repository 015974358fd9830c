import XsdInfer.Proofs.Layout.Spelled
import XsdInfer.Schema.Xsd

/-!
# Reading written schemas

Main statement: the text of a schema, for any name of the root and any target namespace, is read back
as the tree that stands for the schema (`parse_render`). No text is in it, the definitions come in the
order of the types, and each holds what its content needs, in the order of the tables.
-/

namespace XsdInfer

open Layout (tagElement IsTag Fits)

namespace SchemaType

/-- The declarations of the attributes as elements. -/
def attributeElements (t : SchemaType) : List Element :=
  t.attributes.entries.map fun a =>
    { name := "xs:attribute"
      attributes := ⟨[("name", a.1), ("type", a.2.reference), ("use", "optional")]⟩ }

/-- The definition of a value with attributes as an element. -/
def valueElement (t : SchemaType) (base : Primitive) : Element where
  name := "xs:simpleContent"
  children := [
    { name := "xs:extension"
      attributes := ⟨[("base", base.reference)]⟩
      children := t.attributeElements }]

end SchemaType

namespace Schema

/-- The declaration of a child as an element. -/
def childElement (s : Schema) (target : Option String) (c : String × ChildDeclaration) :
    Element where
  name := "xs:element"
  attributes := ⟨[("name", Name.localPart c.1), ("type", s.referenceAt target c.2.target),
    ("minOccurs", toString c.2.minOccurs), ("maxOccurs", c.2.maxOccurs.text)]⟩

/-- What the definition of a type holds. A value stands above the attributes, children stand before
them. -/
def contentElements (s : Schema) (target : Option String) (t : SchemaType) : List Element :=
  match t.content? with
  | some (.simple base) => [t.valueElement base]
  | some .elements | some .mixed =>
    { name := "xs:sequence", children := t.children.entries.map (s.childElement target) }
      :: t.attributeElements
  | some .empty | none => t.attributeElements

/-- The definition of a type as an element. -/
def typeElement (s : Schema) (target : Option String) (t : SchemaType) : Element where
  name := "xs:complexType"
  attributes := ⟨("name", t.typeName) :: if t.isMixed then [("mixed", "true")] else []⟩
  children := s.contentElements target t

/-- The declaration of the root as an element. -/
def rootElement (s : Schema) (rootName : String) (target : Option String) : Element where
  name := "xs:element"
  attributes := ⟨[("name", Name.localPart rootName), ("type", s.referenceAt target s.root)]⟩

/-- The tree that stands for a schema. -/
def tree (s : Schema) (rootName : String) (target : Option String) : Element where
  name := "xs:schema"
  attributes := match target with
    | some uri => ⟨[("targetNamespace", uri), ("elementFormDefault", "qualified")]⟩
    | none => {}
  namespaces := match target with
    | some uri => ⟨⟨[("xs", Namespace.xsd), (Namespace.target, uri)]⟩, none⟩
    | none => ⟨⟨[("xs", Namespace.xsd)]⟩, none⟩
  children := s.rootElement rootName target :: s.complexTypes.map (s.typeElement target)

end Schema

/-! ## Tags of written schemas -/

namespace Layout

/-- An attribute that declares nothing is a plain setting. -/
lemma setting_plain {k : String} (h : k ≠ "xmlns" ∧ Sample.Collected.declaredPrefix? k = none)
    (v : String) : setting (k, v) = .plain k v := by
  rw [setting, if_neg h.1, h.2]

/-- An attribute that declares a prefix is a setting for it. -/
lemma setting_prefixed (pre uri : String) : setting ("xmlns:" ++ pre, uri) = .prefixed pre uri := by
  rw [setting, if_neg (Sample.Collected.prefixed_ne pre),
    Sample.Collected.declaredPrefix?_prefixed]

/-- A tag without declarations has the attributes that are written in it. -/
lemma tagElement_eq {name : String} {attributes : List (String × String)}
    (plain : ∀ k ∈ attributes.map Prod.fst,
      k ≠ "xmlns" ∧ Sample.Collected.declaredPrefix? k = none) :
    tagElement name attributes = { name, attributes := ⟨attributes⟩ } := by
  have settings : attributes.map setting = attributes.map fun a => .plain a.1 a.2 := by
    exact List.map_congr_left fun a mem => setting_plain (plain a.1 (List.mem_map_of_mem mem)) a.2
  have plains : (attributes.map setting).filterMap Sample.Setting.plain? = attributes := by
    rw [settings, List.filterMap_map]
    exact List.filterMap_some
  have prefixed : (attributes.map setting).filterMap Sample.Setting.prefixed? = [] := by
    rw [settings, List.filterMap_map]
    exact List.filterMap_eq_nil_iff.mpr fun _ _ => rfl
  have unprefixed : (attributes.map setting).findSome? Sample.Setting.unprefixed? = none := by
    rw [settings, List.findSome?_map]
    exact List.findSome?_eq_none_iff.mpr fun _ _ => rfl
  rw [tagElement, plains, prefixed, unprefixed]

end Layout

namespace Schema

/-- The shapes of outermost tags: the name and the names of the attributes. -/
def headShapes : List (String × List String) := [
  ("xs:schema", ["xmlns:xs"]),
  ("xs:schema", ["xmlns:xs", "targetNamespace", "xmlns:tns", "elementFormDefault"])]

/-- The shapes of the tags inside of the outermost one. -/
def innerShapes : List (String × List String) := [
  ("xs:element", ["name", "type"]),
  ("xs:element", ["name", "type", "minOccurs", "maxOccurs"]),
  ("xs:complexType", ["name"]),
  ("xs:complexType", ["name", "mixed"]),
  ("xs:sequence", []),
  ("xs:simpleContent", []),
  ("xs:extension", ["base"]),
  ("xs:attribute", ["name", "type", "use"])]

/-- A tag of a known shape can be read. -/
lemma isTag_of_mem_shapes {name : String} {keys : List String}
    (h : (name, keys) ∈ headShapes ++ innerShapes) : IsTag {} name keys := by
  have all : ∀ shape ∈ headShapes ++ innerShapes, IsTag {} shape.1 shape.2 := by decide +kernel
  exact all (name, keys) h

end Schema

namespace SchemaType

/-- The layouts of attributes stand for the elements that declare them. -/
lemma elements_attributeLayouts (t : SchemaType) :
    Layout.elements t.attributeLayouts = t.attributeElements := by
  rw [Layout.elements_eq_map, attributeLayouts, attributeElements, List.map_map]
  apply List.map_congr_left
  intro a _
  exact Layout.tagElement_eq (show ∀ k ∈ ["name", "type", "use"], _ by decide)

/-- The layouts of attributes fit at any depth that leaves one level. -/
lemma fits_attributeLayouts (t : SchemaType) (n : Nat) :
    ∀ l ∈ t.attributeLayouts, Fits {} (n + 1) l := by
  intro l mem
  obtain ⟨a, _, rfl⟩ := List.mem_map.mp mem
  have known : ("xs:attribute", ["name", "type", "use"]) ∈ Schema.headShapes ++ Schema.innerShapes := by
    decide
  exact .leaf (Schema.isTag_of_mem_shapes known)

end SchemaType

namespace Schema

variable (s : Schema) (target : Option String)

/-- The layout of a child stands for the element that declares it. -/
lemma element_childLayout (c : String × ChildDeclaration) :
    (s.childLayout target c).element = s.childElement target c :=
  Layout.tagElement_eq (show ∀ k ∈ ["name", "type", "minOccurs", "maxOccurs"], _ by decide)

/-- The layout of a child fits at any depth that leaves one level. -/
lemma fits_childLayout (c : String × ChildDeclaration) (n : Nat) :
    Fits {} (n + 1) (s.childLayout target c) := by
  have known : ("xs:element", ["name", "type", "minOccurs", "maxOccurs"]) ∈
      headShapes ++ innerShapes := by
    decide
  exact .leaf (isTag_of_mem_shapes known)

/-- The layouts in a definition stand for the contents of the type. -/
lemma elements_bodyLayouts (t : SchemaType) :
    Layout.elements (s.bodyLayouts target t) = s.contentElements target t := by
  have sequence : Layout.elements [.block "xs:sequence" []
      (t.children.entries.map (s.childLayout target))] =
        [{ name := "xs:sequence", children := t.children.entries.map (s.childElement target) }] := by
    have children : Layout.elements (t.children.entries.map (s.childLayout target)) =
        t.children.entries.map (s.childElement target) := by
      rw [Layout.elements_eq_map, List.map_map]
      exact List.map_congr_left fun c _ => s.element_childLayout target c
    rw [Layout.elements, Layout.element, children]
    rfl
  unfold bodyLayouts contentElements
  cases t.content? with
  | none => exact t.elements_attributeLayouts
  | some content =>
    cases content with
    | empty => exact t.elements_attributeLayouts
    | simple base =>
      have tag : tagElement "xs:extension" [("base", base.reference)] =
          { name := "xs:extension", attributes := ⟨[("base", base.reference)]⟩ } :=
        Layout.tagElement_eq (show ∀ k ∈ ["base"], _ by decide)
      simp only [Layout.elements, Layout.element, t.elements_attributeLayouts, tag]
      rfl
    | elements =>
      show Layout.elements [_] ++ Layout.elements t.attributeLayouts = _
      rw [sequence, t.elements_attributeLayouts]
      rfl
    | mixed =>
      show Layout.elements [_] ++ Layout.elements t.attributeLayouts = _
      rw [sequence, t.elements_attributeLayouts]
      rfl

/-- The layouts in a definition fit at any depth that leaves three levels. -/
lemma fits_bodyLayouts (t : SchemaType) (n : Nat) :
    ∀ l ∈ s.bodyLayouts target t, Fits {} (n + 3) l := by
  have sequence : Fits {} (n + 3) (.block "xs:sequence" []
      (t.children.entries.map (s.childLayout target))) := by
    refine .block (isTag_of_mem_shapes (by decide)) fun l mem => ?_
    obtain ⟨c, _, rfl⟩ := List.mem_map.mp mem
    exact s.fits_childLayout target c (n + 1)
  unfold bodyLayouts
  cases t.content? with
  | none => exact t.fits_attributeLayouts (n + 2)
  | some content =>
    cases content with
    | empty => exact t.fits_attributeLayouts (n + 2)
    | simple base =>
      have known : ("xs:extension", ["base"]) ∈ headShapes ++ innerShapes := by decide
      have extension : Fits {} (n + 2)
          (.block "xs:extension" [("base", base.reference)] t.attributeLayouts) :=
        .block (isTag_of_mem_shapes known) (t.fits_attributeLayouts n)
      have value : Fits {} (n + 3) (.block "xs:simpleContent" []
          [.block "xs:extension" [("base", base.reference)] t.attributeLayouts]) :=
        .block (isTag_of_mem_shapes (by decide)) (List.forall_mem_singleton.mpr extension)
      exact List.forall_mem_singleton.mpr value
    | elements => exact List.forall_mem_cons.mpr ⟨sequence, t.fits_attributeLayouts (n + 2)⟩
    | mixed => exact List.forall_mem_cons.mpr ⟨sequence, t.fits_attributeLayouts (n + 2)⟩

/-- The layout of a type stands for its definition. -/
lemma element_typeLayout (t : SchemaType) :
    (s.typeLayout target t).element = s.typeElement target t := by
  have tag : tagElement "xs:complexType"
      (("name", t.typeName) :: if t.isMixed then [("mixed", "true")] else []) =
        { name := "xs:complexType",
          attributes := ⟨("name", t.typeName) :: if t.isMixed then [("mixed", "true")] else []⟩ } := by
    apply Layout.tagElement_eq
    cases t.isMixed with
    | false => exact show ∀ k ∈ ["name"], _ by decide
    | true => exact show ∀ k ∈ ["name", "mixed"], _ by decide
  rw [typeLayout, Layout.element, elements_bodyLayouts, tag]
  rfl

/-- The layout of a type fits at any depth that leaves four levels. -/
lemma fits_typeLayout (t : SchemaType) (n : Nat) : Fits {} (n + 4) (s.typeLayout target t) := by
  refine .block (isTag_of_mem_shapes ?_) (s.fits_bodyLayouts target t n)
  cases t.isMixed with
  | false => exact show ("xs:complexType", ["name"]) ∈ _ by decide
  | true => exact show ("xs:complexType", ["name", "mixed"]) ∈ _ by decide

/-- The layout of a schema stands for its tree. -/
lemma element_layout (rootName : String) :
    (s.layout rootName target).element = s.tree rootName target := by
  have first : (Layout.leaf "xs:element" [("name", Name.localPart rootName),
      ("type", s.referenceAt target s.root)]).element = s.rootElement rootName target :=
    Layout.tagElement_eq (show ∀ k ∈ ["name", "type"], _ by decide)
  have types : Layout.elements (s.complexTypes.map (s.typeLayout target)) =
      s.complexTypes.map (s.typeElement target) := by
    rw [Layout.elements_eq_map, List.map_map]
    exact List.map_congr_left fun t _ => s.element_typeLayout target t
  rw [layout, Layout.element, Layout.elements, first, types]
  cases target with
  | none => rfl
  | some uri =>
    have settings : (headAttributes (some uri)).map Layout.setting =
        [.prefixed "xs" Namespace.xsd, .plain "targetNamespace" uri,
          .prefixed Namespace.target uri, .plain "elementFormDefault" "qualified"] := by
      have first : Layout.setting ("xmlns:xs", Namespace.xsd) = .prefixed "xs" Namespace.xsd :=
        Layout.setting_prefixed "xs" Namespace.xsd
      rw [headAttributes, List.map_cons, first, List.map_cons, Layout.setting_plain (by decide),
        List.map_cons, Layout.setting_prefixed, List.map_cons, Layout.setting_plain (by decide),
        List.map_nil]
    simp only [tagElement, settings]
    rfl

/-- An attribute of a value is the deepest element of a schema. -/
lemma fits_layout (rootName : String) : Fits {} 5 (s.layout rootName target) := by
  refine .block (isTag_of_mem_shapes ?_) (List.forall_mem_cons.mpr ⟨?_, fun l mem => ?_⟩)
  · cases target with
    | none => exact .head _
    | some uri => exact .tail _ (.head _)
  · have known : ("xs:element", ["name", "type"]) ∈ headShapes ++ innerShapes := by decide
    exact .leaf (isTag_of_mem_shapes known)
  · obtain ⟨t, _, rfl⟩ := List.mem_map.mp mem
    exact s.fits_typeLayout target t 0

/-- A written schema is read back as the tree that stands for it. -/
theorem parse_render (rootName : String) :
    Sample.parse {} (s.render rootName target) = .ok (s.tree rootName target) := by
  rw [render, Layout.parse_document (fits_layout s target rootName) (by decide),
    element_layout]

end Schema

end XsdInfer
