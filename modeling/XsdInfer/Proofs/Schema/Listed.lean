import XsdInfer.Command.Run
import XsdInfer.Proofs.Check.References
import XsdInfer.Proofs.Inference.Observations
import XsdInfer.Proofs.Schema.Distinct
import XsdInfer.Proofs.Schema.Sequence

/-!
# The listing of a schema

A schema is counted, listed and written by functions that look at its types in different ways. Main
statement: they agree (`Command.inspect_lists`). The counts are those of the elements of the schema as
it is read back from its text, and the listing has a block of lines for each definition there, in
order, with a line for each child and each attribute that it declares.
-/

namespace XsdInfer

/-! ## Lines about elements -/

/-- The elements of a given name, among an element and all below it. -/
def Element.elementsNamed (e : Element) (name : String) : List Element :=
  e.selfAndBelow.filter (·.name == name)

namespace Listing

/-- A reference without the prefix of the target namespace. -/
def withoutTarget (reference : String) : String :=
  let (qualifier, name) := Name.split reference
  if qualifier = some Namespace.target then name else reference

/-- A line says of a child what an element declares. -/
inductive ListsChild : String → Element → Prop where
  | line {e : Element} {name type least most : String} (named : e.attribute? "name" = some name)
      (typed : e.attribute? "type" = some type) (lower : e.attribute? "minOccurs" = some least)
      (upper : e.attribute? "maxOccurs" = some most) :
      ListsChild s!"    {name} : {withoutTarget type} [{least}..{most}]" e

/-- A line says of an attribute what an element declares. -/
inductive ListsAttribute : String → Element → Prop where
  | line {e : Element} {name type : String} (named : e.attribute? "name" = some name)
      (typed : e.attribute? "type" = some type) : ListsAttribute s!"    @{name} : {type}" e

/-- What is said behind the name of a definition that mixes text and children. -/
def mark (definition : Element) : String :=
  if definition.attribute? "mixed" = some "true" then ", mixed" else ""

/-- Lines say of a type what its definition in a schema declares: its name, the name of the elements
that are declared to be of the type, the children and the attributes. -/
inductive ListsType (written : Element) : List String → Element → Prop where
  | block {definition : Element} {name tag : String} {children attributes : List String}
      (named : definition.attribute? "name" = some name)
      (tagged : ∀ e ∈ written.elementsNamed "xs:element",
        (e.attribute? "type").map withoutTarget = some name → e.attribute? "name" = some tag)
      (kids : List.Forall₂ ListsChild children (definition.elementsNamed "xs:element"))
      (attrs : List.Forall₂ ListsAttribute attributes (definition.elementsNamed "xs:attribute")) :
      ListsType written (s!"  {name} ({tag}{mark definition})" :: children ++ attributes) definition

end Listing

open Listing

/-! ## Elements of written schemas -/

namespace Schema

variable (s : Schema) (target : Option String) {t : SchemaType}

/-- Elements of one name are all found under it. -/
lemma filter_of_all {name : String} {es : List Element} (all : ∀ e ∈ es, e.name = name) :
    es.filter (·.name == name) = es :=
  List.filter_eq_self.mpr fun e mem => beq_iff_eq.mpr (all e mem)

/-- Elements of other names are not found. -/
lemma filter_of_other {name : String} {es : List Element} (other : ∀ e ∈ es, e.name ≠ name) :
    es.filter (·.name == name) = [] :=
  List.filter_eq_nil_iff.mpr fun e mem same => other e mem (beq_iff_eq.mp same)

/-- Children are declared by elements of one tag. -/
lemma name_of_mem_childElements {t : SchemaType} {e : Element}
    (mem : e ∈ t.children.entries.map (s.childElement target)) : e.name = "xs:element" := by
  obtain ⟨c, _, rfl⟩ := List.mem_map.mp mem
  rfl

/-- What stands between a definition and its declarations is one of three elements. -/
lemma Wraps.name_mem {d : Element} (h : s.Wraps target t d) :
    d.name ∈ ["xs:sequence", "xs:simpleContent", "xs:extension"] := by
  cases h with
  | sequence => exact .head _
  | value base => exact .tail _ (.head _)
  | extension base => exact .tail _ (.tail _ (.head _))

/-- A definition holds the children and the attributes of its type, each of them in order. -/
lemma elementsNamed_definition (complex : t.kind = .complex) :
    (s.typeElement target t).elementsNamed "xs:complexType" = [s.typeElement target t] ∧
      (s.typeElement target t).elementsNamed "xs:element" =
        t.children.entries.map (s.childElement target) ∧
      (s.typeElement target t).elementsNamed "xs:attribute" = t.attributeElements := by
  obtain ⟨around, kids, split, wraps, -, filled⟩ := s.exists_parts target t
  obtain rfl := filled complex
  have whole : (s.typeElement target t).selfAndBelow = s.typeElement target t ::
      (around ++ t.children.entries.map (s.childElement target) ++ t.attributeElements) := by
    rw [Element.selfAndBelow_eq, ← split]
    rfl
  have outer (name : String) (other : name ∉ ["xs:sequence", "xs:simpleContent", "xs:extension"]) :
      around.filter (·.name == name) = [] :=
    filter_of_other fun d mem same => other (same ▸ (wraps d mem).name_mem)
  have kids (e : Element) (mem : e ∈ t.children.entries.map (s.childElement target)) :
      e.name = "xs:element" := s.name_of_mem_childElements target mem
  have attributes (e : Element) (mem : e ∈ t.attributeElements) : e.name = "xs:attribute" :=
    name_of_mem_attributeElements mem
  have other : "xs:element" ≠ "xs:complexType" ∧ "xs:attribute" ≠ "xs:complexType" ∧
      "xs:attribute" ≠ "xs:element" := by decide
  simp only [Element.elementsNamed, whole, List.filter_cons, List.filter_append]
  refine ⟨?_, ?_, ?_⟩
  · rw [outer "xs:complexType" (by decide), filter_of_other fun e mem => kids e mem ▸ other.1,
      filter_of_other fun e mem => attributes e mem ▸ other.2.1]
    rfl
  · rw [outer "xs:element" (by decide), filter_of_all kids,
      filter_of_other fun e mem => attributes e mem ▸ other.2.2, List.nil_append, List.append_nil]
    rfl
  · rw [outer "xs:attribute" (by decide), filter_of_all attributes,
      filter_of_other fun e mem => kids e mem ▸ other.2.2.symm]
    rfl

/-- The types that are defined are complex. -/
lemma kind_of_mem_complexTypes (mem : t ∈ s.complexTypes) : t.kind = .complex :=
  beq_iff_eq.mp (List.mem_filter.mp mem).2

/-- A written schema holds the definitions of the complex types, and declares the root and then the
children of those types, each of them in order. -/
lemma elementsNamed_tree (rootName : String) :
    (s.tree rootName target).elementsNamed "xs:complexType" =
        s.complexTypes.map (s.typeElement target) ∧
      (s.tree rootName target).elementsNamed "xs:element" = s.rootElement rootName target ::
        (s.complexTypes.flatMap fun t => t.children.entries).map (s.childElement target) := by
  have above : [s.tree rootName target, s.rootElement rootName target].filter
        (·.name == "xs:complexType") = [] ∧
      [s.tree rootName target, s.rootElement rootName target].filter (·.name == "xs:element") =
        [s.rootElement rootName target] := ⟨rfl, rfl⟩
  rw [Element.elementsNamed, Element.elementsNamed, selfAndBelow_tree, List.filter_append,
    List.filter_append, above.1, above.2, List.filter_flatMap, List.filter_flatMap]
  constructor
  · rw [List.nil_append, List.map_eq_flatMap]
    exact List.flatMap_congr fun t mem =>
      (s.elementsNamed_definition target (s.kind_of_mem_complexTypes mem)).1
  · rw [List.map_flatMap]
    exact congrArg _ (List.flatMap_congr fun t mem =>
      (s.elementsNamed_definition target (s.kind_of_mem_complexTypes mem)).2.1)

/-! ## Regular schemas -/

/-- A schema whose types have what is listed and written of their kinds, and are named after the
elements that are declared to be of them. -/
structure Regular (s : Schema) : Prop where
  mixed : ∀ t ∈ s.types, t.isMixed = true → t.kind = .complex
  values : ∀ t ∈ s.types, t.kind = .simple → ∃ p, t.primitive = some p
  children : ∀ t ∈ s.types, ∀ c ∈ t.children.entries, Name.localPart c.1 = c.1 ∧
    ∃ u, s.types[c.2.target]? = some u ∧ u.name = c.1
  root : ∃ u, s.types[s.root]? = some u ∧ u.name = Name.localPart s.rootName

/-- The schema that a document with qualified names describes is regular. -/
lemma regular_described {root : Element} (named : ∀ p ∈ root.places, p.2.Named) (scope : Scope) :
    (described scope root).Regular where
  mixed := by
    intro t mem mixed
    obtain ⟨k, _, _, told⟩ := exists_key_of_mem_types mem
    obtain ⟨e, occurs, filled⟩ := (told.isMixed.mp mixed).2
    exact told.complex.mpr ⟨e, occurs, .inr filled⟩
  values := by
    intro t mem simple
    obtain ⟨k, _, _, told⟩ := exists_key_of_mem_types mem
    rw [told.primitive_of_simple simple]
    exact told.exists_joinAll
  children := by
    intro t mem c entry
    have describes := described_describes scope root
    obtain ⟨k, _, shown⟩ := describes.exists_shows mem
    have known := List.mem_map_of_mem (f := Prod.fst) entry
    refine ⟨Name.localPart_of_isSimple (shown.isSimple_child named known), ?_⟩
    obtain ⟨p, place, same, child, below, name⟩ := shown.exists_child known
    have at_key := shown.targets p place same child below c.2 (by rwa [name])
    obtain ⟨u, type, its⟩ := describes.types _ _ at_key
    exact ⟨u, type, by rw [its.name, TypeKey.tag_keyAt, ← name]⟩
  root := by
    have describes := described_describes scope root
    obtain ⟨u, type, its⟩ := describes.types _ _ describes.first.2
    exact ⟨u, type, by rw [its.name, TypeKey.tag_keyAt]; rfl⟩

variable {s}

/-- A reference without a colon has no prefix to leave out. -/
lemma withoutTarget_of_no_colon {name : String} (h : ':' ∉ name.toList) :
    withoutTarget name = name := by
  rw [withoutTarget, Name.split_of_no_colon h]
  rfl

/-- A reference to a primitive keeps its prefix. -/
lemma withoutTarget_primitive (p : Primitive) : withoutTarget p.reference = p.reference := by
  cases p <;> decide

/-- A type is listed as it is referred to, but for the prefix of the target namespace. -/
lemma withoutTarget_reference (values : t.kind = .simple → ∃ p, t.primitive = some p)
    (colon : ':' ∉ t.typeName.toList) : withoutTarget (t.reference target) = listedType t := by
  unfold SchemaType.reference listedType
  cases kind : t.kind with
  | simple =>
    obtain ⟨p, known⟩ := values kind
    rw [known]
    exact withoutTarget_primitive p
  | complex =>
    cases target with
    | none => exact withoutTarget_of_no_colon colon
    | some uri =>
      have split := Name.split_append (q := Namespace.target) (by decide) t.typeName
      show withoutTarget (Namespace.target ++ ":" ++ t.typeName) = t.typeName
      rw [withoutTarget, split]
      rfl

/-- The lines of a type and its definition list the same children. -/
lemma listsChild_childLine (solid : s.Solid) (regular : s.Regular) (mem : t ∈ s.types)
    {c : String × ChildDeclaration} (entry : c ∈ t.children.entries) :
    ListsChild (s.childLine c) (s.childElement target c) := by
  obtain ⟨plain, u, type, _⟩ := regular.children t mem c entry
  have known := List.mem_of_getElem? type
  have typed : withoutTarget (s.referenceAt target c.2.target) =
      ((s.types[c.2.target]?).map listedType).getD "" := by
    rw [referenceAt, type]
    exact withoutTarget_reference target (regular.values u known)
      (no_colon_of_solid (solid.types u known))
  have named : (s.childElement target c).attribute? "name" = some c.1 := congrArg some plain
  rw [childLine, ← typed]
  exact .line named rfl rfl rfl

/-- What is declared in a written schema has the name of its type. -/
lemma exists_type_of_element (regular : s.Regular) {e : Element}
    (mem : e ∈ (s.tree s.rootName target).elementsNamed "xs:element") :
    ∃ u ∈ s.types, e.attribute? "type" = some (u.reference target) ∧
      e.attribute? "name" = some u.name := by
  rw [(s.elementsNamed_tree target s.rootName).2] at mem
  obtain rfl | child := List.mem_cons.mp mem
  · obtain ⟨u, type, name⟩ := regular.root
    refine ⟨u, List.mem_of_getElem? type, ?_, congrArg some name.symm⟩
    show some (s.referenceAt target s.root) = _
    rw [referenceAt, type]
    rfl
  · obtain ⟨c, entry, rfl⟩ := List.mem_map.mp child
    obtain ⟨t, complex, entry⟩ := List.mem_flatMap.mp entry
    obtain ⟨plain, u, type, name⟩ := regular.children t (List.mem_of_mem_filter complex) c entry
    refine ⟨u, List.mem_of_getElem? type, ?_, congrArg some (plain.trans name.symm)⟩
    show some (s.referenceAt target c.2.target) = _
    rw [referenceAt, type]
    rfl

/-- A definition and the element that is declared to be of its type are of one type. -/
lemma eq_of_listedType (nodup : (s.types.map SchemaType.typeName).Nodup) (regular : s.Regular)
    {u : SchemaType} (mem : t ∈ s.types) (mem' : u ∈ s.types) (colon : ':' ∉ t.typeName.toList)
    (same : listedType u = t.typeName) : u = t := by
  unfold listedType at same
  cases kind : u.kind with
  | simple =>
    obtain ⟨p, known⟩ := regular.values u mem' kind
    rw [kind, known] at same
    -- A built-in type is listed with its prefix, and no definition has a name with a colon.
    have prefixed : ':' ∈ p.reference.toList := by cases p <;> decide
    exact absurd (same ▸ prefixed) colon
  | complex =>
    rw [kind] at same
    exact List.inj_on_of_nodup_map nodup mem' mem same

/-- The lines of a type list what its definition declares. -/
lemma listsType_typeLines (closed : s.Closed) (solid : s.Solid) (regular : s.Regular)
    (complex : t ∈ s.complexTypes) :
    ListsType (s.tree s.rootName target) (s.typeLines t) (s.typeElement target t) := by
  have mem : t ∈ s.types := List.mem_of_mem_filter complex
  have colon := no_colon_of_solid (solid.types t mem)
  obtain ⟨-, kids, attributes⟩ := s.elementsNamed_definition target (s.kind_of_mem_complexTypes complex)
  have marked : mark (s.typeElement target t) = if t.isMixed then ", mixed" else "" := by
    rw [mark, typeElement]
    cases t.isMixed <;> rfl
  rw [typeLines, ← marked]
  refine .block rfl (fun e at_e typed => ?_) ?_ ?_
  · obtain ⟨u, known, type, name⟩ := exists_type_of_element target regular at_e
    rw [type, Option.map_some, withoutTarget_reference target (regular.values u known)
      (no_colon_of_solid (solid.types u known))] at typed
    rw [name, eq_of_listedType closed.nodup regular mem known colon (Option.some.inj typed)]
  · rw [kids, List.forall₂_map_left_iff, List.forall₂_map_right_iff, List.forall₂_same]
    exact fun c entry => listsChild_childLine target solid regular mem entry
  · rw [attributes, SchemaType.attributeElements, List.forall₂_map_left_iff,
      List.forall₂_map_right_iff, List.forall₂_same]
    exact fun a _ => .line rfl rfl

/-! ## Counts -/

/-- Items that contribute nothing may be left out. -/
lemma flatMap_filter {α β : Type} {p : α → Bool} {f : α → List β} {l : List α}
    (others : ∀ a ∈ l, p a = false → f a = []) : (l.filter p).flatMap f = l.flatMap f := by
  induction l with
  | nil => rfl
  | cons a l ih =>
    obtain ⟨here, others⟩ := List.forall_mem_cons.mp others
    rw [List.flatMap_cons, ← ih others]
    cases kept : p a with
    | false => rw [List.filter_cons_of_neg (by simp [kept]), here kept, List.nil_append]
    | true => rw [List.filter_cons_of_pos kept, List.flatMap_cons]

/-- Counts that are added up part by part are those of the whole. -/
lemma foldl_add_countP {α β : Type} (p : β → Bool) (f : α → List β) (l : List α) (n : Nat) :
    l.foldl (fun n a => n + (f a).countP p) n = n + (l.flatMap f).countP p := by
  induction l generalizing n with
  | nil => rfl
  | cons a l ih => rw [List.foldl_cons, ih, List.flatMap_cons, List.countP_append, Nat.add_assoc]

/-- A definition says that it is mixed if the type is. -/
lemma isMixed_eq (mixed : t.isMixed = true → t.kind = .complex) :
    (((s.typeElement target t).attribute? "mixed" == some "true") && t.isComplex) = t.isMixed := by
  have written : ((s.typeElement target t).attribute? "mixed" == some "true") = t.isMixed := by
    unfold typeElement
    cases t.isMixed <;> rfl
  rw [written]
  cases here : t.isMixed with
  | false => rfl
  | true => rw [SchemaType.isComplex, mixed here]; rfl

/-- A child is declared without bound if it has none. -/
lemma isUnbounded_eq (c : String × ChildDeclaration) :
    ((s.childElement target c).attribute? "maxOccurs" == some "unbounded") =
      (c.2.maxOccurs == .unbounded) := by
  have written : (s.childElement target c).attribute? "maxOccurs" = some c.2.maxOccurs.text := rfl
  rw [written, Bool.eq_iff_iff, beq_iff_eq, beq_iff_eq, Option.some_inj]
  exact MaxOccurs.text_injective.eq_iff (b := .unbounded)

/-- The counts of a schema are those of what is written. -/
theorem summary_eq (closed : s.Closed) (regular : s.Regular) (rootName : String) :
    s.summary = {
      elementTypes := s.types.length
      complexTypes := ((s.tree rootName target).elementsNamed "xs:complexType").length
      mixedTypes := ((s.tree rootName target).elementsNamed "xs:complexType").countP
        (·.attribute? "mixed" == some "true")
      repeatedChildren := ((s.tree rootName target).elementsNamed "xs:element").countP
        (·.attribute? "maxOccurs" == some "unbounded") } := by
  obtain ⟨definitions, declarations⟩ := s.elementsNamed_tree target rootName
  have mixed : s.types.countP SchemaType.isMixed =
      (s.complexTypes.map (s.typeElement target)).countP (·.attribute? "mixed" == some "true") := by
    rw [List.countP_map, complexTypes, List.countP_filter]
    refine List.countP_congr fun t mem => ?_
    rw [Function.comp_apply, isMixed_eq target (regular.mixed t mem)]
  -- Types that are not listed have no children, so that leaving them out leaves out no declaration.
  have childless (t : SchemaType) (mem : t ∈ s.types) (other : t.isComplex = false) :
      t.children.entries = [] := by
    by_contra some
    rw [SchemaType.isComplex, closed.parents t mem some] at other
    cases other
  have repeated : s.types.foldl (fun n t => n + t.children.entries.countP
      (·.2.maxOccurs == .unbounded)) 0 = (s.rootElement rootName target ::
        (s.complexTypes.flatMap fun t => t.children.entries).map (s.childElement target)).countP
          (·.attribute? "maxOccurs" == some "unbounded") := by
    -- The declaration of the root says nothing about how often it occurs.
    have root (rest : List Element) : (s.rootElement rootName target :: rest).countP
        (·.attribute? "maxOccurs" == some "unbounded") =
          rest.countP (·.attribute? "maxOccurs" == some "unbounded") :=
      List.countP_cons_of_neg (show ¬ (none == some "unbounded") = true by decide)
    rw [foldl_add_countP, Nat.zero_add, root, List.countP_map, complexTypes,
      flatMap_filter childless]
    exact List.countP_congr fun c _ => by rw [Function.comp_apply, isUnbounded_eq]
  rw [summary, definitions, declarations, List.length_map, mixed, repeated]

end Schema

/-! ## The listing -/

namespace Command

/-- What is counted and listed of a schema that is inferred from a sample is what its text declares when
it is read back: the counts are those of its elements, and behind the lines about the schema as a whole,
a block of lines for each definition lists the children and the attributes. -/
theorem inspect_lists {limits limits' : Limits} {scope : Scope} {xml : String} {root : Element}
    {s : Schema} (parsed : Sample.parse limits xml = .ok root)
    (inferred : Schema.infer scope limits' root = .ok s) :
    ∃ written blocks, Sample.parse {} s.xsd = .ok written ∧
      s.summary.complexTypes = (written.elementsNamed "xs:complexType").length ∧
      s.summary.mixedTypes =
        (written.elementsNamed "xs:complexType").countP (·.attribute? "mixed" == some "true") ∧
      s.summary.repeatedChildren =
        (written.elementsNamed "xs:element").countP (·.attribute? "maxOccurs" == some "unbounded") ∧
      List.Forall₂ (ListsType written) blocks (written.elementsNamed "xs:complexType") ∧
      listing s = String.join ((s!"{programName} v{Conversion.version}" :: "" ::
        (s.headLines ++ blocks.flatten)).map (· ++ "\n")) ∧
      ∀ read file, readText read file = .ok xml → (conversion scope false).infer xml = .ok s →
        (Task.inspect file scope false).run read = .ok (.done (.shown (listing s))) := by
  obtain rfl := Schema.eq_described_of_infer inferred
  have named := Sample.named_of_parse parsed
  have closed := Schema.closed_described scope root
  have solid := Schema.solid_described named scope
  have regular := Schema.regular_described named scope
  -- Nothing else is needed of the schema that the sample describes.
  generalize Schema.described scope root = s at closed solid regular ⊢
  have counts := Schema.summary_eq s.targetNamespace closed regular s.rootName
  have definitions := (s.elementsNamed_tree s.targetNamespace s.rootName).1
  refine ⟨s.tree s.rootName s.targetNamespace, s.complexTypes.map s.typeLines,
    Schema.parse_render _ _ _, ?_, ?_, ?_, ?_, ?_, ?_⟩
  · exact congrArg Summary.complexTypes counts
  · exact congrArg Summary.mixedTypes counts
  · exact congrArg Summary.repeatedChildren counts
  · rw [definitions, List.forall₂_map_left_iff, List.forall₂_map_right_iff, List.forall₂_same]
    exact fun t complex => Schema.listsType_typeLines s.targetNamespace closed solid regular complex
  · rw [listing, Schema.overview, List.flatMap_def]
  · intro read file text known
    simp only [Task.run, text, known, bind, Except.bind, Except.mapError]
    rfl

/-- A sample with a namespace, whose schema has a mixed type, a child that repeats, a value with an
attribute, and two types for one tag. -/
theorem inspect_lists_varied :
    let xml := "<o:r xmlns:o='urn:o'>text<a n='1'>2</a><b><a/><a>x</a></b></o:r>"
    ∃ root s, Sample.parse {} xml = .ok root ∧ Schema.infer .parent {} root = .ok s ∧
      ∃ written blocks, Sample.parse {} s.xsd = .ok written ∧
        s.summary.complexTypes = (written.elementsNamed "xs:complexType").length ∧
        s.summary.mixedTypes =
          (written.elementsNamed "xs:complexType").countP (·.attribute? "mixed" == some "true") ∧
        s.summary.repeatedChildren =
          (written.elementsNamed "xs:element").countP
            (·.attribute? "maxOccurs" == some "unbounded") ∧
        List.Forall₂ (ListsType written) blocks (written.elementsNamed "xs:complexType") ∧
        listing s = String.join ((s!"{programName} v{Conversion.version}" :: "" ::
          (s.headLines ++ blocks.flatten)).map (· ++ "\n")) ∧
        ∀ read file, readText read file = .ok xml → (conversion .parent false).infer xml = .ok s →
          (Task.inspect file .parent false).run read = .ok (.done (.shown (listing s))) := by
  intro xml
  let c : Conversion := { scope := .parent }
  have accepted : (c.infer xml).isOk = true := by decide +kernel
  cases read : c.infer xml with
  | error e => rw [read] at accepted; cases accepted
  | ok s =>
    obtain ⟨-, root, parsed, inferred⟩ := Conversion.infer_eq_ok_iff.mp read
    exact ⟨root, s, parsed, inferred, inspect_lists parsed inferred⟩

end Command

end XsdInfer
