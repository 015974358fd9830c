import XsdInfer.Proofs.Inference.Scopes
import XsdInfer.Proofs.Schema.Closed
import XsdInfer.Proofs.Schema.Written

/-!
# Names that do not clash

The names of types are made of the local names of a sample in a way that may bring two keys to one
name, and children and attributes are declared without their prefixes. Main statement: none of the
names of a written schema clash for that (`convert_declares_once`): in the schema that is read back,
each definition has a name of its own, a sequence declares each child once, and a definition declares
each attribute once. Under the wider scope, a type has the name that its tag makes, without a number.
-/

namespace XsdInfer

open TypeKey (typeKeys)

namespace Element

/-- The names that are declared by those of some elements that have a given tag. -/
def declared (tag : String) (es : List Element) : List (Option String) :=
  (es.filter (·.name == tag)).map (·.attribute? "name")

/-- A schema that was read, in which no two declarations clash. -/
structure DeclaresOnce (e : Element) : Prop where
  definitions : (declared "xs:complexType" e.selfAndBelow).Nodup
  children : ∀ d ∈ e.selfAndBelow, d.name = "xs:sequence" →
    (declared "xs:element" d.children).Nodup
  /-- The attributes of a definition may stand inside of the declaration of a value. -/
  attributes : ∀ d ∈ e.selfAndBelow, d.name = "xs:complexType" →
    (declared "xs:attribute" d.selfAndBelow).Nodup

/-- Below elements without children there is nothing. -/
lemma flatMap_selfAndBelow_of_leaves {es : List Element} (leaves : ∀ e ∈ es, e.children = []) :
    es.flatMap selfAndBelow = es := by
  have each : ∀ e ∈ es, e.selfAndBelow = [e] := fun e mem => by
    rw [selfAndBelow_eq, leaves e mem, List.flatMap_nil]
  rw [List.flatMap_congr each, List.flatMap_singleton']

/-- What two lists of elements declare is what both of them do, in a row. -/
lemma declared_append (tag : String) (es es' : List Element) :
    declared tag (es ++ es') = declared tag es ++ declared tag es' := by
  rw [declared, List.filter_append, List.map_append]
  rfl

/-- What parts of a list declare is what each of them does, in a row. -/
lemma declared_flatMap {α : Type} (tag : String) (l : List α) (f : α → List Element) :
    declared tag (l.flatMap f) = l.flatMap fun a => declared tag (f a) := by
  rw [declared, List.filter_flatMap, List.map_flatMap]
  rfl

/-- Elements with other tags declare nothing of a kind. -/
lemma declared_eq_nil {tag : String} {es : List Element} (other : ∀ e ∈ es, e.name ≠ tag) :
    declared tag es = [] := by
  rw [declared, List.filter_eq_nil_iff.mpr (by simpa using other), List.map_nil]

/-- Elements with the same tag declare their names. -/
lemma declared_of_all {tag : String} {es : List Element} (all : ∀ e ∈ es, e.name = tag) :
    declared tag es = es.map (·.attribute? "name") := by
  rw [declared, List.filter_eq_self.mpr (by simpa using all)]

end Element

open Element (declared selfAndBelow)

/-! ## Written declarations -/

namespace Schema

/-- A schema of which no two names clash, where a child is declared without its prefix. -/
structure Distinct (s : Schema) : Prop where
  types : (s.types.map SchemaType.typeName).Nodup
  attributes : ∀ t ∈ s.types, t.attributes.keys.Nodup
  children : ∀ t ∈ s.types, (t.children.keys.map Name.localPart).Nodup

variable (s : Schema) (target : Option String) (t : SchemaType)

/-- Attributes are declared by elements of one tag. -/
lemma name_of_mem_attributeElements {t : SchemaType} {d : Element} (mem : d ∈ t.attributeElements) :
    d.name = "xs:attribute" := by
  obtain ⟨a, _, rfl⟩ := List.mem_map.mp mem
  rfl

/-- The elements for attributes declare the names of the attributes. -/
lemma declared_attributeElements :
    declared "xs:attribute" t.attributeElements = t.attributes.keys.map some := by
  rw [Element.declared_of_all fun d mem => name_of_mem_attributeElements mem,
    SchemaType.attributeElements, List.map_map, Table.keys, List.map_map]
  rfl

/-- The elements for children declare the names of the children. -/
lemma declared_childElements :
    declared "xs:element" (t.children.entries.map (s.childElement target)) =
      (t.children.keys.map Name.localPart).map some := by
  have all : ∀ e ∈ t.children.entries.map (s.childElement target), e.name = "xs:element" := by
    intro e mem
    obtain ⟨c, _, rfl⟩ := List.mem_map.mp mem
    rfl
  rw [Element.declared_of_all all, List.map_map, Table.keys, List.map_map, List.map_map]
  rfl

/-- Below the elements for attributes there is nothing. -/
lemma flatMap_attributeElements :
    t.attributeElements.flatMap selfAndBelow = t.attributeElements := by
  refine Element.flatMap_selfAndBelow_of_leaves fun e mem => ?_
  obtain ⟨a, _, rfl⟩ := List.mem_map.mp mem
  rfl

/-- The sequence of the children of a type. -/
def sequenceElement : Element where
  name := "xs:sequence"
  children := t.children.entries.map (s.childElement target)

/-- A sequence holds the elements for children and nothing else. -/
lemma selfAndBelow_sequenceElement :
    (s.sequenceElement target t).selfAndBelow =
      s.sequenceElement target t :: t.children.entries.map (s.childElement target) := by
  have leaves : (s.sequenceElement target t).children.flatMap selfAndBelow =
      t.children.entries.map (s.childElement target) := by
    refine Element.flatMap_selfAndBelow_of_leaves fun e mem => ?_
    obtain ⟨c, _, rfl⟩ := List.mem_map.mp mem
    rfl
  rw [Element.selfAndBelow_eq, leaves]

/-- The extension of a value by the attributes of a type. -/
def extensionElement (base : Primitive) : Element where
  name := "xs:extension"
  attributes := ⟨[("base", base.reference)]⟩
  children := t.attributeElements

/-- A type for a value holds its extension, and the attributes there. -/
lemma selfAndBelow_valueElement (base : Primitive) :
    (t.valueElement base).selfAndBelow =
      [t.valueElement base, extensionElement t base] ++ t.attributeElements := by
  have value : (t.valueElement base).children = [extensionElement t base] := rfl
  have extension : (extensionElement t base).children = t.attributeElements := rfl
  rw [Element.selfAndBelow_eq, value, List.flatMap_singleton, Element.selfAndBelow_eq, extension,
    flatMap_attributeElements]
  rfl

/-- What may be around the children and the attributes in the definition of a type. -/
inductive Wraps : Element → Prop where
  | sequence : Wraps (s.sequenceElement target t)
  | value (base : Primitive) : Wraps (t.valueElement base)
  | extension (base : Primitive) : Wraps (extensionElement t base)

/-- What a definition holds ends with the children, if there are any, and then the attributes. -/
lemma exists_parts : ∃ around kids,
    (s.contentElements target t).flatMap selfAndBelow = around ++ kids ++ t.attributeElements ∧
      (∀ d ∈ around, s.Wraps target t d) ∧
      kids ⊆ t.children.entries.map (s.childElement target) ∧
      (t.kind = .complex → kids = t.children.entries.map (s.childElement target)) := by
  have bare : t.attributeElements.flatMap selfAndBelow = [] ++ [] ++ t.attributeElements :=
    flatMap_attributeElements t
  unfold contentElements SchemaType.content?
  -- The cases are those of the content: none, the text alone, or a sequence of children.
  cases kind : t.kind with
  | simple => exact ⟨[], [], bare, List.forall_mem_nil _, List.nil_subset _, nofun⟩
  | complex =>
    cases entries : t.children.entries with
    | nil =>
      cases t.primitive with
      | none => exact ⟨[], [], bare, List.forall_mem_nil _, List.nil_subset _, fun _ => rfl⟩
      | some base =>
        refine ⟨[t.valueElement base, extensionElement t base], [], ?_, ?_, List.nil_subset _,
          fun _ => rfl⟩
        · exact (List.flatMap_singleton _ _).trans (selfAndBelow_valueElement t base)
        · exact List.forall_mem_cons.mpr ⟨.value base, List.forall_mem_singleton.mpr (.extension base)⟩
    | cons c rest =>
      have listed : (s.sequenceElement target t :: t.attributeElements).flatMap selfAndBelow =
          [s.sequenceElement target t] ++ t.children.entries.map (s.childElement target)
            ++ t.attributeElements := by
        rw [List.flatMap_cons, flatMap_attributeElements, selfAndBelow_sequenceElement]
        rfl
      rw [sequenceElement, entries] at listed
      refine ⟨[s.sequenceElement target t], _, ?_, List.forall_mem_singleton.mpr .sequence,
        List.Subset.refl _, fun _ => rfl⟩
      rw [sequenceElement, entries, ← listed]
      cases t.isMixed <;> rfl

/-- What may be above or before the attributes in the definition of a type. -/
structure IsLead (d : Element) : Prop where
  noDefinition : d.name ≠ "xs:complexType"
  noAttribute : d.name ≠ "xs:attribute"
  /-- A sequence is that of the children. -/
  sequence : d.name = "xs:sequence" → d.children = t.children.entries.map (s.childElement target)

/-- What a definition holds ends with the attributes. -/
lemma exists_lead : ∃ lead,
    (s.contentElements target t).flatMap selfAndBelow = lead ++ t.attributeElements ∧
      ∀ d ∈ lead, s.IsLead target t d := by
  obtain ⟨around, kids, split, wraps, known, _⟩ := s.exists_parts target t
  refine ⟨around ++ kids, split, fun d mem => ?_⟩
  obtain outer | kid := List.mem_append.mp mem
  · cases wraps d outer with
    | sequence => constructor <;> simp [sequenceElement]
    | value base => constructor <;> simp [SchemaType.valueElement]
    | extension base => constructor <;> simp [extensionElement]
  · obtain ⟨c, _, rfl⟩ := List.mem_map.mp (known kid)
    constructor <;> simp [childElement]

/-- The attributes of a definition are the last of what it holds. -/
lemma exists_lead_typeElement : ∃ lead,
    (s.typeElement target t).selfAndBelow =
      s.typeElement target t :: (lead ++ t.attributeElements) ∧
        ∀ d ∈ lead, s.IsLead target t d := by
  obtain ⟨lead, split, leads⟩ := s.exists_lead target t
  refine ⟨lead, ?_, leads⟩
  rw [Element.selfAndBelow_eq, ← split]
  rfl

variable {t}

/-- A definition holds no other definition. -/
lemma eq_of_mem_definition {d : Element} (mem : d ∈ (s.typeElement target t).selfAndBelow)
    (definition : d.name = "xs:complexType") : d = s.typeElement target t := by
  obtain ⟨lead, split, leads⟩ := s.exists_lead_typeElement target t
  rw [split] at mem
  obtain here | inside := List.mem_cons.mp mem
  · exact here
  · obtain before | last := List.mem_append.mp inside
    · exact absurd definition (leads d before).noDefinition
    · rw [name_of_mem_attributeElements last] at definition
      exact absurd definition (by decide)

/-- The definition of a type declares its name once. -/
lemma declared_definition :
    declared "xs:complexType" (s.typeElement target t).selfAndBelow = [some t.typeName] := by
  obtain ⟨lead, split, leads⟩ := s.exists_lead_typeElement target t
  have inside : declared "xs:complexType" (lead ++ t.attributeElements) = [] := by
    refine Element.declared_eq_nil fun d mem => ?_
    obtain before | last := List.mem_append.mp mem
    · exact (leads d before).noDefinition
    · rw [name_of_mem_attributeElements last]
      decide
  rw [split, ← List.singleton_append, Element.declared_append, inside]
  rfl

/-- The definition of a type declares its attributes once. -/
lemma declared_attributes :
    declared "xs:attribute" (s.typeElement target t).selfAndBelow = t.attributes.keys.map some := by
  obtain ⟨lead, split, leads⟩ := s.exists_lead_typeElement target t
  have before : declared "xs:attribute" (s.typeElement target t :: lead) = [] := by
    refine Element.declared_eq_nil (List.forall_mem_cons.mpr ⟨?_, fun d mem => ?_⟩)
    · simp [typeElement]
    · exact (leads d mem).noAttribute
  rw [split, ← List.cons_append, Element.declared_append, before, List.nil_append,
    declared_attributeElements]

/-- A sequence inside of a definition declares the children of the type. -/
lemma declared_sequence {d : Element} (mem : d ∈ (s.typeElement target t).selfAndBelow)
    (sequence : d.name = "xs:sequence") :
    declared "xs:element" d.children = (t.children.keys.map Name.localPart).map some := by
  obtain ⟨lead, split, leads⟩ := s.exists_lead_typeElement target t
  rw [split] at mem
  obtain rfl | inside := List.mem_cons.mp mem
  · simp [typeElement] at sequence
  · obtain before | last := List.mem_append.mp inside
    · rw [(leads d before).sequence sequence, declared_childElements]
    · rw [name_of_mem_attributeElements last] at sequence
      exact absurd sequence (by decide)

/-- A schema holds the element for the root and the definitions. -/
lemma selfAndBelow_tree (rootName : String) :
    (s.tree rootName target).selfAndBelow =
      [s.tree rootName target, s.rootElement rootName target] ++
        s.complexTypes.flatMap fun t => (s.typeElement target t).selfAndBelow := by
  have root : (s.rootElement rootName target).selfAndBelow = [s.rootElement rootName target] :=
    Element.selfAndBelow_eq _
  have children : (s.tree rootName target).children =
      s.rootElement rootName target :: s.complexTypes.map (s.typeElement target) := rfl
  rw [Element.selfAndBelow_eq, children, List.flatMap_cons, root, List.flatMap_map]
  rfl

/-- A schema declares the names of its complex types. -/
lemma declared_definitions (rootName : String) :
    declared "xs:complexType" (s.tree rootName target).selfAndBelow =
      (s.complexTypes.map SchemaType.typeName).map some := by
  have above : declared "xs:complexType"
      [s.tree rootName target, s.rootElement rootName target] = [] := by
    simp [declared, tree, rootElement]
  rw [selfAndBelow_tree, Element.declared_append, above, List.nil_append,
    Element.declared_flatMap, List.flatMap_congr fun t _ => s.declared_definition target,
    ← List.map_eq_flatMap, List.map_map]
  rfl

variable {s}

/-- Apart from the schema and the root, all elements are those of definitions. -/
lemma exists_definition_of_mem {rootName : String} {d : Element}
    (mem : d ∈ (s.tree rootName target).selfAndBelow)
    (inside : d.name ∉ ["xs:schema", "xs:element"]) :
    ∃ t ∈ s.types, d ∈ (s.typeElement target t).selfAndBelow := by
  rw [selfAndBelow_tree] at mem
  obtain above | inside := List.mem_append.mp mem
  · obtain rfl | root := List.mem_cons.mp above
    · simp [tree] at inside
    · rw [List.mem_singleton.mp root] at inside
      simp [rootElement] at inside
  · obtain ⟨t, complex, mem⟩ := List.mem_flatMap.mp inside
    exact ⟨t, List.mem_of_mem_filter complex, mem⟩

/-- A schema of which no two names clash is written without a clash. -/
lemma Distinct.tree (h : s.Distinct) (rootName : String) :
    (s.tree rootName target).DeclaresOnce where
  definitions := by
    rw [declared_definitions]
    exact (h.types.sublist (List.filter_sublist.map _)).map fun _ _ => Option.some.inj
  children := by
    intro d mem sequence
    obtain ⟨t, known, inside⟩ := exists_definition_of_mem target mem (by rw [sequence]; decide)
    rw [s.declared_sequence target inside sequence]
    exact (h.children t known).map fun _ _ => Option.some.inj
  attributes := by
    intro d mem definition
    obtain ⟨t, known, inside⟩ := exists_definition_of_mem target mem (by rw [definition]; decide)
    rw [s.eq_of_mem_definition target inside definition, declared_attributes]
    exact (h.attributes t known).map fun _ _ => Option.some.inj

/-! ## Names of types -/

/-- If the names that keys make do not clash, they are the names of the types. -/
lemma typeNames_of_nodup {keys : List TypeKey} (nodup : (keys.map TypeKey.baseName).Nodup) :
    typeNames keys = keys.map TypeKey.baseName := by
  induction keys using List.reverseRecOn with
  | nil => rfl
  | append_singleton keys k ih =>
    rw [List.map_append, List.map_singleton, ← List.concat_eq_append, List.nodup_concat] at nodup
    have names := ih nodup.2
    have free : k.baseName ∉ (pool (keys.map TypeKey.baseName)).taken := by
      rw [← List.mem_reverse]
      show _ ∉ typeNames keys
      rw [names]
      exact nodup.1
    rw [typeNames_concat, names, List.map_append]
    congr 2
    exact Name.Pool.pick_of_not_mem free

/-- The schema of a named sample has different names where they must differ. -/
lemma distinct_described {root : Element} (named : ∀ p ∈ root.places, p.2.Named) (scope : Scope) :
    (described scope root).Distinct where
  types := (closed_described scope root).nodup
  attributes := by
    intro t mem
    obtain ⟨k, _, shown⟩ := (described_describes scope root).exists_shows mem
    rw [shown.attributes]
    exact FirstSeen.nodup_eraseDups _
  children := by
    intro t mem
    obtain ⟨k, _, shown⟩ := (described_describes scope root).exists_shows mem
    have own : ∀ n ∈ t.children.keys, Name.localPart n = n := fun n mem =>
      Name.localPart_of_isSimple (shown.isSimple_child named mem)
    rw [List.map_congr_left own, List.map_id', shown.children]
    exact FirstSeen.nodup_eraseDups _

/-- Under the wider scope, a type has the name that its tag makes. -/
lemma typeName_of_global {root : Element} (named : ∀ p ∈ root.places, p.2.Named) {t : SchemaType}
    (mem : t ∈ (described .global root).types) : t.typeName = t.name ++ "Type" := by
  have base : ∀ k ∈ typeKeys .global root, k.baseName = k.tag ++ "Type" := by
    intro k mem
    have simple := isSimple_of_mem_typeKeys named .global k mem
    rw [TypeKey.eq_of_mem_typeKeys_global mem]
    show Name.localPart k.tag ++ "Type" = _
    rw [Name.localPart_of_isSimple simple.tag]
  have nodup : ((typeKeys .global root).map TypeKey.baseName).Nodup := by
    refine (TypeKey.nodup_typeKeys .global root).map_on fun k mem k' mem' same => ?_
    rw [base k mem, base k' mem', String.append_left_inj] at same
    rw [TypeKey.eq_of_mem_typeKeys_global mem, TypeKey.eq_of_mem_typeKeys_global mem', same]
  obtain ⟨⟨k, name⟩, known, rfl⟩ := List.mem_map.mp mem
  rw [typeNames_of_nodup nodup, ← List.map_prod_left_eq_zip] at known
  obtain ⟨k', mem', same⟩ := List.mem_map.mp known
  cases same
  exact base k mem'

end Schema

namespace Conversion

/-- What a sample is converted to declares each name once, whatever the prefixes in the sample and
however the names of types are made. -/
theorem convert_declares_once {c : Conversion} {xml xsd : String} (h : c.convert xml = .ok xsd) :
    ∃ s written, c.infer xml = .ok s ∧ Sample.parse {} xsd = .ok written ∧
      (s.types.map SchemaType.typeName).Nodup ∧
      declared "xs:complexType" written.selfAndBelow =
        (s.complexTypes.map SchemaType.typeName).map some ∧
      written.DeclaresOnce ∧
      (c.scope = .global → ∀ t ∈ s.types, t.typeName = t.name ++ "Type") := by
  obtain ⟨s, inferred, rfl⟩ := exists_infer_of_convert h
  obtain ⟨root, parsed, rfl⟩ := exists_parse_of_infer inferred
  have named := Sample.named_of_parse parsed
  have distinct := Schema.distinct_described named c.scope
  refine ⟨_, _, inferred, Schema.parse_render _ _ _, distinct.types,
    Schema.declared_definitions _ _ _, distinct.tree _ _, ?_⟩
  intro wide t mem
  rw [wide] at mem
  exact Schema.typeName_of_global named mem

/-- Two keys whose names are the same when joined, and a child and an attribute that come with a prefix
and without. -/
theorem convert_declares_once_joined :
    let c : Conversion := { scope := .parent }
    let xml := "<r xmlns:p='u'><a><bC k='1'/><p:bC p:k='2'/></a><aB><c k='1'/></aB></r>"
    ∃ xsd, c.convert xml = .ok xsd ∧
      ∃ s written, c.infer xml = .ok s ∧ Sample.parse {} xsd = .ok written ∧
        (s.types.map SchemaType.typeName).Nodup ∧
        declared "xs:complexType" written.selfAndBelow =
          (s.complexTypes.map SchemaType.typeName).map some ∧
        written.DeclaresOnce ∧
        (c.scope = .global → ∀ t ∈ s.types, t.typeName = t.name ++ "Type") := by
  intro c xml
  have accepted : (c.convert xml).isOk = true := by decide +kernel
  cases converted : c.convert xml with
  | error e => rw [converted] at accepted; cases accepted
  | ok xsd => exact ⟨xsd, rfl, convert_declares_once converted⟩

end Conversion

end XsdInfer
