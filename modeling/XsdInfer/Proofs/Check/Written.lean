import XsdInfer.Proofs.Check.References
import XsdInfer.Proofs.Check.Sound
import XsdInfer.Proofs.Schema.Written

/-!
# Written schemas are sound

Each tag inside of a written schema is of one of seven kinds (`Schema.Writes`). All of them are proper
below the declarations of the schema (`Writes.isTag`), and what they refer to is a type
(`Writes.value_cases`). Main statement: the text of a closed schema with solid names is read strictly
as a sound schema (`strictParse_render`).
-/

namespace XsdInfer

open Layout (Tag IsPlain)
open Name (isSolid)
open Sample.Collected (declaredPrefix?)
open Strict (Node Scopes IsTag isXmlChar normalText scopesIn tagNode)

/-! ## Tags without declarations -/

namespace Strict

/-- Whether a tag of the vocabulary with attributes of given names is proper and declares nothing. -/
def isPlainTag (name : String) (keys : List String) : Bool :=
  isTagName name && Name.qualifier? name == some "xs"
    && keys.all (fun k => isKey k && declaredPrefix? k == none) && decide keys.Nodup

variable {around : Scopes} {name : String} {attributes : List (String × String)}

/-- A tag that is seen to be plain can be read where the prefix of the vocabulary is bound. -/
lemma isTag_of_isPlainTag (h : isPlainTag name (attributes.map Prod.fst) = true)
    (bound : around.lookup (some "xs") = some Namespace.xsd)
    (held : ∀ a ∈ attributes, ∀ c ∈ a.2.toList, isXmlChar c = true) :
    IsPlain (name, attributes) ∧ IsTag around name attributes := by
  simp only [isPlainTag, Bool.and_eq_true, beq_iff_eq, List.all_eq_true, decide_eq_true_eq] at h
  obtain ⟨⟨⟨named, qualifier⟩, keys⟩, nodup⟩ := h
  have key (a : String × String) (mem : a ∈ attributes) := keys a.1 (List.mem_map_of_mem mem)
  have plain : attributes.filterMap declares? = [] :=
    List.filterMap_eq_nil_iff.mpr fun a mem => declares?_eq_none (key a mem).2 a.2
  refine ⟨plain, named, ?_, fun a mem => (key a mem).1, nodup, held, ?_⟩
  · rw [scopesIn_of_plain plain, qualifier, bound]
    rfl
  · rw [plain]
    exact fun _ mem => absurd mem List.not_mem_nil

end Strict

namespace Schema

variable {s : Schema} {rootName : String} {target : Option String} {tag : Tag}

/-! ## Tags of written schemas -/

/-- The tags inside of a written schema. -/
inductive Writes (s : Schema) (rootName : String) (target : Option String) : Tag → Prop where
  | root : Writes s rootName target
      ("xs:element", [("name", Name.localPart rootName), ("type", s.referenceAt target s.root)])
  | type {t : SchemaType} (mem : t ∈ s.types) : Writes s rootName target
      ("xs:complexType", ("name", t.typeName) :: if t.isMixed then [("mixed", "true")] else [])
  | sequence : Writes s rootName target ("xs:sequence", [])
  | child {t : SchemaType} {c : String × ChildDeclaration} (mem : t ∈ s.types)
      (entry : c ∈ t.children.entries) : Writes s rootName target
      ("xs:element", [("name", Name.localPart c.1), ("type", s.referenceAt target c.2.target),
        ("minOccurs", toString c.2.minOccurs), ("maxOccurs", c.2.maxOccurs.text)])
  | simpleContent : Writes s rootName target ("xs:simpleContent", [])
  | extension (base : Primitive) : Writes s rootName target
      ("xs:extension", [("base", base.reference)])
  | attr {t : SchemaType} {a : String × Primitive} (mem : t ∈ s.types)
      (entry : a ∈ t.attributes.entries) : Writes s rootName target
      ("xs:attribute", [("name", a.1), ("type", a.2.reference), ("use", "optional")])

/-- The elements inside of the outermost one. -/
def innerLayouts (s : Schema) (rootName : String) (target : Option String) : List Layout :=
  .leaf "xs:element" [("name", Name.localPart rootName), ("type", s.referenceAt target s.root)]
    :: s.complexTypes.map (s.typeLayout target)

/-- The tags that declare attributes are among those that a schema writes. -/
lemma writes_of_mem_attributeTags {t : SchemaType} (mem : t ∈ s.types)
    (h : tag ∈ Layout.tagsAll t.attributeLayouts) : s.Writes rootName target tag := by
  rw [Layout.tagsAll_eq_flatMap] at h
  obtain ⟨l, at_l, inside⟩ := List.mem_flatMap.mp h
  obtain ⟨a, entry, rfl⟩ := List.mem_map.mp at_l
  obtain rfl := List.mem_singleton.mp inside
  exact .attr mem entry

/-- The tags that declare children are among those that a schema writes. -/
lemma writes_of_mem_childTags {t : SchemaType} (mem : t ∈ s.types)
    (h : tag ∈ Layout.tagsAll (t.children.entries.map (s.childLayout target))) :
    s.Writes rootName target tag := by
  rw [Layout.tagsAll_eq_flatMap] at h
  obtain ⟨l, at_l, inside⟩ := List.mem_flatMap.mp h
  obtain ⟨c, entry, rfl⟩ := List.mem_map.mp at_l
  obtain rfl := List.mem_singleton.mp inside
  exact .child mem entry

/-- The tags in the definition of a type are among those that a schema writes. -/
lemma writes_of_mem_bodyTags {t : SchemaType} (mem : t ∈ s.types)
    (h : tag ∈ Layout.tagsAll (s.bodyLayouts target t)) : s.Writes rootName target tag := by
  have sequence (inside : tag ∈ Layout.tagsAll (.block "xs:sequence" []
      (t.children.entries.map (s.childLayout target)) :: t.attributeLayouts)) :
      s.Writes rootName target tag := by
    obtain children | attributes := List.mem_append.mp inside
    · obtain rfl | child := List.mem_cons.mp children
      · exact .sequence
      · exact writes_of_mem_childTags mem child
    · exact writes_of_mem_attributeTags mem attributes
  unfold bodyLayouts at h
  cases content : t.content? with
  | none =>
    rw [content] at h
    exact writes_of_mem_attributeTags mem h
  | some kind =>
    rw [content] at h
    cases kind with
    | empty => exact writes_of_mem_attributeTags mem h
    | simple base =>
      obtain value | none := List.mem_append.mp h
      · obtain rfl | extension := List.mem_cons.mp value
        · exact .simpleContent
        · obtain inside | none := List.mem_append.mp extension
          · obtain rfl | attributes := List.mem_cons.mp inside
            · exact .extension base
            · exact writes_of_mem_attributeTags mem attributes
          · cases none
      · cases none
    | elements => exact sequence h
    | mixed => exact sequence h

/-- Inside of a written schema are tags of the seven kinds alone. -/
lemma writes_of_mem_tags (h : tag ∈ Layout.tagsAll (s.innerLayouts rootName target)) :
    s.Writes rootName target tag := by
  obtain root | types := List.mem_append.mp h
  · obtain rfl := List.mem_singleton.mp root
    exact .root
  · rw [Layout.tagsAll_eq_flatMap] at types
    obtain ⟨l, at_l, inside⟩ := List.mem_flatMap.mp types
    obtain ⟨t, complex, rfl⟩ := List.mem_map.mp at_l
    have mem : t ∈ s.types := List.mem_of_mem_filter complex
    obtain rfl | body := List.mem_cons.mp inside
    · exact .type mem
    · exact writes_of_mem_bodyTags mem body

/-! ## What is referred to -/

/-- The names of the definitions of a schema. -/
def definitions (s : Schema) : List String :=
  s.complexTypes.map SchemaType.typeName

/-- The names of the definitions of a solid schema are solid. -/
lemma Solid.of_mem_definitions (solid : s.Solid) :
    ∀ name ∈ s.definitions, ∀ c ∈ name.toList, isSolid c = true := by
  intro name mem
  obtain ⟨t, complex, rfl⟩ := List.mem_map.mp mem
  exact solid.types t (List.mem_of_mem_filter complex)

/-- A type that is defined is referred to by its name. -/
lemma reference_of_complex {t : SchemaType} (complex : t.kind = .complex) :
    t.reference target = definitionReference target t.typeName := by
  unfold SchemaType.reference
  rw [complex]
  rfl

/-- The reference to a type by its place is that of the type. -/
lemma referenceAt_of_lt {i : Nat} (inside : i < s.types.length) :
    s.referenceAt target i = s.types[i].reference target := by
  rw [referenceAt, List.getElem?_eq_getElem inside]
  rfl

/-- Every type that is there can be referred to. -/
lemma isReference_referenceAt {i : Nat} (inside : i < s.types.length) :
    IsReference target s.definitions (s.referenceAt target i) := by
  rw [referenceAt_of_lt inside]
  cases kind : s.types[i].kind with
  | simple =>
    unfold SchemaType.reference
    rw [kind]
    exact .primitive _
  | complex =>
    rw [reference_of_complex kind]
    refine .definition (List.mem_map_of_mem (List.mem_filter.mpr ⟨List.getElem_mem inside, ?_⟩))
    rw [SchemaType.isComplex, kind]
    rfl

/-- What the schema, the name of the root and the target namespace need for a sound text. -/
structure Writable (s : Schema) (rootName : String) (target : Option String) : Prop where
  closed : s.Closed
  solid : s.Solid
  named : ∀ c ∈ (Name.localPart rootName).toList, isSolid c = true
  fits : ∀ uri ∈ target, IsTarget uri

/-- What they need for a text that is read strictly, whatever its references come to. -/
structure Printable (s : Schema) (rootName : String) (target : Option String) : Prop where
  closed : s.Closed
  solid : s.Solid
  named : ∀ c ∈ (Name.localPart rootName).toList, isSolid c = true
  fits : ∀ uri ∈ target, IsDeclarable uri

/-- A schema that can be written as a schema can be printed. -/
lemma Writable.printable (h : s.Writable rootName target) : s.Printable rootName target where
  closed := h.closed
  solid := h.solid
  named := h.named
  fits := fun uri mem => (h.fits uri mem).isDeclarable

/-- What the tags say is a reference, or something else that is solid. -/
lemma Writes.value_cases (h : s.Writes rootName target tag) (closed : s.Closed) (solid : s.Solid)
    (named : ∀ c ∈ (Name.localPart rootName).toList, isSolid c = true) :
    ∀ a ∈ tag.2, IsReference target s.definitions a.2 ∨
      a.1 ∉ ["type", "base"] ∧ ∀ c ∈ a.2.toList, isSolid c = true := by
  have text {k v : String} (other : k ∉ ["type", "base"]) (h : ∀ c ∈ v.toList, isSolid c = true) :
      IsReference target s.definitions (k, v).2 ∨
        (k, v).1 ∉ ["type", "base"] ∧ ∀ c ∈ (k, v).2.toList, isSolid c = true :=
    .inr ⟨other, h⟩
  have none : ∀ a ∈ ([] : List (String × String)), IsReference target s.definitions a.2 ∨
      a.1 ∉ ["type", "base"] ∧ ∀ c ∈ a.2.toList, isSolid c = true :=
    fun _ mem => absurd mem List.not_mem_nil
  -- One case for each kind of tag. References stand under two keys, and only there.
  cases h with
  | root =>
    refine List.forall_mem_cons.mpr ⟨text (by decide) named, List.forall_mem_singleton.mpr ?_⟩
    exact .inl (isReference_referenceAt closed.root)
  | @type t mem =>
    refine List.forall_mem_cons.mpr ⟨text (by decide) (solid.types t mem), ?_⟩
    cases t.isMixed with
    | false => exact none
    | true => exact List.forall_mem_singleton.mpr (text (by decide) (by decide))
  | sequence => exact none
  | @child t c mem entry =>
    have name := solid.children t mem c.1 (List.mem_map_of_mem entry)
    have most : ∀ a ∈ c.2.maxOccurs.text.toList, isSolid a = true := by
      cases c.2.maxOccurs with
      | bounded n => exact Name.isSolid_toString n
      | unbounded => decide
    refine List.forall_mem_cons.mpr ⟨text (by decide) name, List.forall_mem_cons.mpr ⟨?_, ?_⟩⟩
    · exact .inl (isReference_referenceAt (closed.targets t mem c entry))
    · refine List.forall_mem_cons.mpr ⟨text (by decide) (Name.isSolid_toString _), ?_⟩
      exact List.forall_mem_singleton.mpr (text (by decide) most)
  | simpleContent => exact none
  | extension base => exact List.forall_mem_singleton.mpr (.inl (.primitive base))
  | @attr t a mem entry =>
    have name := solid.attributes t mem a.1 (List.mem_map_of_mem entry)
    refine List.forall_mem_cons.mpr ⟨text (by decide) name, List.forall_mem_cons.mpr ⟨?_, ?_⟩⟩
    · exact .inl (.primitive a.2)
    · exact List.forall_mem_singleton.mpr (text (by decide) (by decide))

/-- What the tags say can stand in a document, and nothing in it ends a line. -/
lemma Writes.held (h : s.Writes rootName target tag) (closed : s.Closed) (solid : s.Solid)
    (named : ∀ c ∈ (Name.localPart rootName).toList, isSolid c = true) :
    ∀ a ∈ tag.2, ∀ c ∈ a.2.toList, isXmlChar c = true ∧ c ∉ ['\n', '\r', '\t'] := by
  intro a mem c at_c
  obtain refers | ⟨_, text⟩ := h.value_cases closed solid named a mem
  · exact refers.held solid.of_mem_definitions c at_c
  · exact (isXmlChar_of_isSolid (text c at_c)).imp_right And.left

/-- A tag inside of a schema has one of the shapes that are written there. -/
lemma Writes.mem_innerShapes (h : s.Writes rootName target tag) :
    (tag.1, tag.2.map Prod.fst) ∈ innerShapes := by
  cases h with
  | root => exact show ("xs:element", ["name", "type"]) ∈ innerShapes by decide
  | @type t mem =>
    cases t.isMixed with
    | false => exact show ("xs:complexType", ["name"]) ∈ innerShapes by decide
    | true => exact show ("xs:complexType", ["name", "mixed"]) ∈ innerShapes by decide
  | sequence => exact show ("xs:sequence", []) ∈ innerShapes by decide
  | child mem entry =>
    exact show ("xs:element", ["name", "type", "minOccurs", "maxOccurs"]) ∈ innerShapes by decide
  | simpleContent => exact show ("xs:simpleContent", []) ∈ innerShapes by decide
  | extension base => exact show ("xs:extension", ["base"]) ∈ innerShapes by decide
  | attr mem entry =>
    exact show ("xs:attribute", ["name", "type", "use"]) ∈ innerShapes by decide

/-- The tags inside are proper and declare nothing. -/
lemma Writes.isTag (h : s.Writes rootName target tag) (printable : s.Printable rootName target) :
    IsPlain tag ∧ IsTag (schemaScopes target) tag.1 tag.2 := by
  have held : ∀ a ∈ tag.2, ∀ c ∈ a.2.toList, isXmlChar c = true := fun a mem c at_c =>
    (h.held printable.closed printable.solid printable.named a mem c at_c).1
  have plain : ∀ shape ∈ innerShapes, Strict.isPlainTag shape.1 shape.2 = true := by decide +kernel
  refine Strict.isTag_of_isPlainTag ?_ (lookup_schemaScopes target) held
  exact plain (tag.1, tag.2.map Prod.fst) h.mem_innerShapes

/-! ## The element of a written schema -/

/-- The element that a written schema means. -/
def node (s : Schema) (rootName : String) (target : Option String) : Node :=
  { tagNode [] "xs:schema" (headAttributes target) with
    children := Layout.nodes (schemaScopes target) (s.innerLayouts rootName target) }

/-- The root of a schema has no other attributes than these four. -/
lemma keys_headAttributes_subset (target : Option String) :
    (headAttributes target).map Prod.fst ⊆
      ["xmlns:xs", "targetNamespace", "xmlns:tns", "elementFormDefault"] := by
  cases target with
  | none => exact show ["xmlns:xs"] ⊆ _ by decide
  | some uri => exact List.Subset.refl _

/-- The outermost tag is proper, and declares what a document may declare. -/
lemma isTag_head (fits : ∀ uri ∈ target, IsDeclarable uri) :
    IsTag [] "xs:schema" (headAttributes target) where
  named := by decide
  bound := by
    have qualifier : Name.qualifier? "xs:schema" = some "xs" := by decide
    have bound := lookup_schemaScopes target
    rw [schemaScopes] at bound
    rw [qualifier, bound]
    rfl
  keys := by
    have all : ∀ k ∈ ["xmlns:xs", "targetNamespace", "xmlns:tns", "elementFormDefault"],
        Strict.isKey k = true := by decide
    exact fun a mem => all a.1 (keys_headAttributes_subset target (List.mem_map_of_mem mem))
  nodup := by
    cases target with
    | none => exact show ["xmlns:xs"].Nodup by decide
    | some uri =>
      exact show ["xmlns:xs", "targetNamespace", "xmlns:tns", "elementFormDefault"].Nodup by decide
  held := by
    have vocabulary : ∀ c ∈ Namespace.xsd.toList, isXmlChar c = true := by decide +kernel
    refine List.forall_mem_cons.mpr ⟨vocabulary, ?_⟩
    cases target with
    | none => exact fun _ mem => absurd mem List.not_mem_nil
    | some uri =>
      have held := (fits uri rfl).held
      refine List.forall_mem_cons.mpr ⟨held, List.forall_mem_cons.mpr ⟨held, ?_⟩⟩
      exact List.forall_mem_singleton.mpr (by decide)
  free := by
    have scopes : (headAttributes target).filterMap Strict.declares? = schemaScopes target := by
      rw [schemaScopes, scopesIn, List.filter_nil, List.append_nil]
    have vocabulary : Namespace.xsd ≠ Namespace.xml ∧ Namespace.xsd ≠ Namespace.xmlns := by decide
    rw [scopes]
    cases target with
    | none =>
      rw [schemaScopes_none]
      exact List.forall_mem_singleton.mpr vocabulary
    | some uri =>
      rw [schemaScopes_some]
      refine List.forall_mem_cons.mpr ⟨vocabulary, List.forall_mem_singleton.mpr ⟨?_, ?_⟩⟩
      · exact fun same => (fits uri rfl).reserved.1 (Strict.eq_of_normalText same (by decide))
      · exact fun same => (fits uri rfl).reserved.2 (Strict.eq_of_normalText same (by decide))

/-- The layout of a schema that can be printed is proper. -/
lemma proper_layout (printable : s.Printable rootName target) :
    Layout.Proper [] (s.layout rootName target) := by
  refine .block (isTag_head printable.fits) ?_
  -- Since the tags inside declare nothing, all of them stand below the declarations of the first.
  have each (tag : Tag) (mem : tag ∈ Layout.tagsAll (s.innerLayouts rootName target)) :=
    (writes_of_mem_tags mem).isTag printable
  exact Layout.proper_of_tagsAll (s.innerLayouts rootName target) (fun tag mem => (each tag mem).1)
    fun tag mem => (each tag mem).2

/-- What a plain tag of the vocabulary declares at the top level, whatever is inside of it. -/
lemma declared_tagNode {name v : String} {attributes : List (String × String)}
    (plain : IsPlain (name, attributes)) (qualifier : Name.qualifier? name = some "xs")
    (value : attributes.lookup "name" = some v) (solid : ∀ c ∈ v.toList, isSolid c = true)
    (kind : String) (children : List Node) :
    Check.declared? kind { tagNode (schemaScopes target) name attributes with children } =
      if Name.localPart name = kind then some v else none := by
  have uri : (tagNode (schemaScopes target) name attributes).uri = some Namespace.xsd := by
    rw [tagNode, Strict.scopesIn_of_plain plain, qualifier, lookup_schemaScopes]
  have named := Strict.attribute?_tagNode (show declaredPrefix? "name" = none by decide)
    (schemaScopes target) name attributes
  have same : normalText v = v :=
    Strict.normalText_of_plain fun c mem => (isXmlChar_of_isSolid (solid c mem)).2.1
  rw [value, Option.map_some, same] at named
  rw [Check.declared?, ← named]
  simp only [uri, true_and]
  rfl

/-- The definitions at the top level are those of the complex types, and the one declaration there
is that of the root. -/
lemma topLevel_node (printable : s.Printable rootName target) :
    Check.topLevel (s.node rootName target) "complexType" = s.definitions ∧
      Check.topLevel (s.node rootName target) "element" = [Name.localPart rootName] := by
  have children : (s.node rootName target).children =
      Layout.node (schemaScopes target) (.leaf "xs:element"
        [("name", Name.localPart rootName), ("type", s.referenceAt target s.root)])
        :: s.complexTypes.map fun t => (s.typeLayout target t).node (schemaScopes target) := by
    rw [node, Layout.nodes_eq_map, innerLayouts, List.map_cons, List.map_map]
    rfl
  have root (kind : String) : Check.declared? kind (Layout.node (schemaScopes target)
      (.leaf "xs:element" [("name", Name.localPart rootName), ("type", s.referenceAt target s.root)])) =
        if "element" = kind then some (Name.localPart rootName) else none :=
    declared_tagNode ((Writes.root).isTag printable).1 (by decide) rfl printable.named kind []
  have type (kind : String) (t : SchemaType) (mem : t ∈ s.complexTypes) :
      Check.declared? kind ((s.typeLayout target t).node (schemaScopes target)) =
        if "complexType" = kind then some t.typeName else none := by
    have known := List.mem_of_mem_filter mem
    have tag : s.Writes rootName target _ := .type known
    exact declared_tagNode (tag.isTag printable).1 (by decide) rfl
      (printable.solid.types t known) kind _
  -- The root comes first, and the definitions behind it are of the other kind.
  rw [Check.topLevel_eq, Check.topLevel_eq, children]
  constructor
  · rw [List.filterMap_cons_none (root "complexType"), List.filterMap_map]
    exact (List.filterMap_congr (type "complexType")).trans (congrFun List.filterMap_eq_map _)
  · rw [List.filterMap_cons_some (root "element"), List.filterMap_map]
    exact congrArg _ (List.filterMap_eq_nil_iff.mpr (type "element"))

end Schema

namespace Check

open Schema

variable {s : Schema} {rootName : String} {target : Option String}

/-- The outcomes at the element of a tag are those of the values of two attributes. -/
lemma outcomesAt_tagNode (defined : List String) (target : Option String) (around : Scopes)
    (tag : Tag) :
    outcomesAt target defined (tagNode around tag.1 tag.2) =
      (["type", "base"].filterMap fun k => tag.2.lookup k).map fun v =>
        resolve target defined (tagNode around tag.1 tag.2) (normalText v) := by
  have plain : ∀ k ∈ ["type", "base"], declaredPrefix? k = none := by decide
  have values : ["type", "base"].filterMap (tagNode around tag.1 tag.2).attribute? =
      ["type", "base"].filterMap fun k => (tag.2.lookup k).map normalText :=
    List.filterMap_congr fun k mem => Strict.attribute?_tagNode (plain k mem) around tag.1 tag.2
  rw [outcomesAt, values, ← List.map_filterMap, List.map_map]
  rfl

/-- The references of a tag are the values of two of its attributes. -/
lemma mem_outcomesAt_tagNode {defined : List String} {target : Option String} {o : Outcome}
    {around : Scopes} {tag : Tag} :
    o ∈ outcomesAt target defined (tagNode around tag.1 tag.2) ↔
      ∃ k ∈ ["type", "base"], ∃ v, tag.2.lookup k = some v ∧
        resolve target defined (tagNode around tag.1 tag.2) (normalText v) = o := by
  rw [outcomesAt_tagNode, List.mem_map]
  constructor
  · rintro ⟨v, refers, rfl⟩
    obtain ⟨k, mem, found⟩ := List.mem_filterMap.mp refers
    exact ⟨k, mem, v, found, rfl⟩
  · rintro ⟨k, mem, v, found, rfl⟩
    exact ⟨v, List.mem_filterMap.mpr ⟨k, mem, found⟩, rfl⟩

/-- The target namespace is read back from the root. -/
lemma targetNamespace_node (s : Schema) (rootName : String) (target : Option String) :
    (s.node rootName target).attribute? "targetNamespace" = target.map normalText := by
  show (tagNode [] "xs:schema" (headAttributes target)).attribute? _ = _
  rw [Strict.attribute?_tagNode (by decide)]
  cases target with
  | none => rfl
  | some uri => rfl

/-- The outermost element refers to nothing. -/
lemma outcomesIn_node (s : Schema) (rootName : String) (target : Option String) :
    outcomesIn (s.node rootName target) (s.node rootName target) = [] := by
  rw [List.eq_nil_iff_forall_not_mem]
  intro o mem
  have tag : o ∈ outcomesAt _ _ (tagNode [] ("xs:schema", headAttributes target).1
      ("xs:schema", headAttributes target).2) := mem
  obtain ⟨k, refers, v, found, _⟩ := mem_outcomesAt_tagNode.mp tag
  have other : ∀ k ∈ ["type", "base"],
      k ∉ ["xmlns:xs", "targetNamespace", "xmlns:tns", "elementFormDefault"] := by decide
  have known := List.mem_map_of_mem (f := Prod.fst) (Table.mem_of_lookup found)
  exact other k refers (keys_headAttributes_subset target known)

/-- What the element refers to is what the tags inside refer to, in their order. -/
lemma flatMap_outcomesIn_node (printable : s.Printable rootName target) :
    (s.node rootName target).all.flatMap (outcomesIn (s.node rootName target)) =
      (Layout.tagsAll (s.innerLayouts rootName target)).flatMap fun tag =>
        outcomesAt (target.map normalText) s.definitions
          (tagNode (schemaScopes target) tag.1 tag.2) := by
  have plain : ∀ tag ∈ Layout.tagsAll (s.innerLayouts rootName target), IsPlain tag :=
    fun tag mem => ((writes_of_mem_tags mem).isTag printable).1
  have around : outcomesIn (s.node rootName target) =
      outcomesAt (target.map normalText) s.definitions := by
    rw [outcomesIn, (topLevel_node printable).1, targetNamespace_node]
  rw [Node.all_eq_inOrder, Node.inOrder_eq, List.flatMap_cons, outcomesIn_node, List.nil_append,
    around]
  exact Layout.flatMap_inOrderAll_nodes (fun _ _ => rfl) (s.innerLayouts rootName target) plain

/-- What the element refers to is what the values of two attributes of the tags inside come to. -/
lemma exists_outcome_iff (printable : s.Printable rootName target) {o : Outcome} :
    (∃ n ∈ (s.node rootName target).all, o ∈ outcomesIn (s.node rootName target) n) ↔
      ∃ tag ∈ Layout.tagsAll (s.innerLayouts rootName target),
        ∃ k ∈ ["type", "base"], ∃ v, tag.2.lookup k = some v ∧
          resolve (target.map normalText) s.definitions
            (tagNode (schemaScopes target) tag.1 tag.2) (normalText v) = o := by
  rw [← List.mem_flatMap, flatMap_outcomesIn_node printable, List.mem_flatMap]
  simp only [mem_outcomesAt_tagNode]

/-- The tags that declare a child of some type are among those inside the schema. -/
lemma mem_tags_of_child (closed : s.Closed) {t : SchemaType} (mem : t ∈ s.types)
    {c : String × ChildDeclaration} (entry : c ∈ t.children.entries) {tag : Tag}
    (h : tag ∈ (s.childLayout target c).tags) :
    tag ∈ Layout.tagsAll (s.innerLayouts rootName target) := by
  have some : t.children.entries ≠ [] := List.ne_nil_of_mem entry
  have complex := closed.parents t mem some
  have sequence : tag ∈ (Layout.block "xs:sequence" []
      (t.children.entries.map (s.childLayout target))).tags := by
    refine .tail _ ?_
    rw [Layout.tagsAll_eq_flatMap]
    exact List.mem_flatMap.mpr ⟨_, List.mem_map_of_mem entry, h⟩
  have body : s.bodyLayouts target t = .block "xs:sequence" []
      (t.children.entries.map (s.childLayout target)) :: t.attributeLayouts := by
    have filled : t.children.entries.isEmpty = false := List.isEmpty_eq_false_iff.mpr some
    unfold bodyLayouts SchemaType.content?
    rw [complex]
    cases t.isMixed <;> simp [filled]
  have definition : tag ∈ (s.typeLayout target t).tags := by
    rw [typeLayout, body]
    exact .tail _ (List.mem_append_left _ sequence)
  apply List.mem_append_right _
  rw [Layout.tagsAll_eq_flatMap]
  refine List.mem_flatMap.mpr ⟨_, List.mem_map_of_mem (List.mem_filter.mpr ⟨mem, ?_⟩), definition⟩
  rw [SchemaType.isComplex, complex]
  rfl

/-- Every type is referred to by some tag inside the schema. -/
lemma exists_tag_of_type (closed : s.Closed) {i : Nat} (inside : i < s.types.length) :
    ∃ tag ∈ Layout.tagsAll (s.innerLayouts rootName target),
      tag.2.lookup "type" = some (s.referenceAt target i) := by
  obtain rfl | ⟨t, mem, c, entry, rfl⟩ := closed.used i inside
  · exact ⟨_, .head _, rfl⟩
  · exact ⟨_, mem_tags_of_child closed mem entry (.head _), rfl⟩

/-- Inside of a schema nothing is declared but by its root. -/
lemma scopes_tagNode (printable : s.Printable rootName target) {tag : Tag}
    (inside : tag ∈ Layout.tagsAll (s.innerLayouts rootName target)) :
    (tagNode (schemaScopes target) tag.1 tag.2).scopes = schemaScopes target :=
  Strict.scopesIn_of_plain ((writes_of_mem_tags inside).isTag printable).1 _

/-- A reference is not changed by reading. -/
lemma normalText_of_isReference (solid : s.Solid) {r : String}
    (refers : IsReference target s.definitions r) : normalText r = r :=
  Strict.normalText_of_plain fun c mem => (refers.held solid.of_mem_definitions c mem).2

/-- Each reference comes to a type that is built in or defined. -/
lemma resolved_node (writable : s.Writable rootName target) {o : Outcome}
    (h : ∃ n ∈ (s.node rootName target).all, o ∈ outcomesIn (s.node rootName target) n) :
    o = .builtIn ∨ ∃ name ∈ s.definitions, o = .defined name := by
  obtain ⟨tag, inside, k, key, r, found, rfl⟩ := (exists_outcome_iff writable.printable).mp h
  have refers : IsReference target s.definitions r := by
    obtain refers | ⟨other, _⟩ := (writes_of_mem_tags inside).value_cases writable.closed
      writable.solid writable.named _ (Table.mem_of_lookup found)
    · exact refers
    · exact absurd key other
  rw [normalText_of_isReference writable.solid refers]
  exact resolve_of_isReference (scopes_tagNode writable.printable inside) writable.fits
    writable.solid.of_mem_definitions refers

/-- Some reference comes to each definition. -/
lemma referenced_node (writable : s.Writable rootName target) {name : String}
    (mem : name ∈ s.definitions) :
    ∃ n ∈ (s.node rootName target).all,
      Outcome.defined name ∈ outcomesIn (s.node rootName target) n := by
  obtain ⟨t, complex, rfl⟩ := List.mem_map.mp mem
  obtain ⟨known, kind⟩ := List.mem_filter.mp complex
  obtain ⟨i, inside, rfl⟩ := List.mem_iff_getElem.mp known
  obtain ⟨tag, at_tag, found⟩ :
      ∃ tag ∈ Layout.tagsAll (s.innerLayouts rootName target),
        tag.2.lookup "type" = some (s.referenceAt target i) :=
    exists_tag_of_type writable.closed inside
  apply (exists_outcome_iff writable.printable).mpr
  refine ⟨tag, at_tag, "type", .head _, _, found, ?_⟩
  have complex : s.types[i].kind = .complex := beq_iff_eq.mp kind
  rw [referenceAt_of_lt inside, reference_of_complex complex,
    normalText_of_isReference writable.solid (.definition mem)]
  exact resolve_definitionReference (scopes_tagNode writable.printable at_tag) writable.fits mem
    (writable.solid.types _ (List.getElem_mem inside))

/-- The root of a schema is what the vocabulary calls a schema. -/
lemma root_node (s : Schema) (rootName : String) (target : Option String) :
    (s.node rootName target).localName = "schema" ∧
      (s.node rootName target).uri = some Namespace.xsd := by
  have qualifier : Name.qualifier? "xs:schema" = some "xs" := by decide
  have uri : (schemaScopes target).lookup (Name.qualifier? "xs:schema") = some Namespace.xsd := by
    rw [qualifier]
    exact lookup_schemaScopes target
  exact ⟨show Name.localPart "xs:schema" = "schema" by decide, uri⟩

/-- The element of a schema that can be written is sound. -/
theorem sound_node (writable : s.Writable rootName target) : Sound (s.node rootName target) where
  root := root_node s rootName target
  nodup := by
    rw [(topLevel_node writable.printable).1]
    exact writable.closed.nodup.sublist (List.filter_sublist.map _)
  resolved := by
    intro n mem o at_n
    rw [(topLevel_node writable.printable).1]
    exact resolved_node writable ⟨n, mem, at_n⟩
  referenced := by
    intro name mem
    rw [(topLevel_node writable.printable).1] at mem
    exact referenced_node writable mem

/-- The text of a schema that can be printed is read strictly. -/
lemma strictParse_eq_node (printable : s.Printable rootName target) :
    Strict.parse (s.render rootName target) = .ok (s.node rootName target) :=
  Layout.strictParse_document (proper_layout printable)

/-- The text of a schema that can be written is read strictly as a sound schema, which declares the
root. -/
theorem strictParse_render (writable : s.Writable rootName target) :
    ∃ schema, Strict.parse (s.render rootName target) = .ok schema ∧ Sound schema ∧
      Name.localPart rootName ∈ topLevel schema "element" := by
  refine ⟨s.node rootName target, strictParse_eq_node writable.printable, sound_node writable, ?_⟩
  rw [(topLevel_node writable.printable).2]
  exact .head _

end Check

end XsdInfer
