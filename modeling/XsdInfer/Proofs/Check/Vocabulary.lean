import XsdInfer.Proofs.Check.Written
import XsdInfer.Proofs.Inference.Ledger

/-!
# Samples of the vocabulary

The root of a sample may be in the namespace of schemas itself. The target namespace of its schema is
then the vocabulary, and a reference to a definition is qualified by a second prefix of the
vocabulary, so that it is read as the name of a built-in type. Main statement: what there is to report
on such a schema is an error for each reference to a definition, unless a built-in type has the name
of that definition, and a warning for each definition (`check_convert_of_vocabulary`).
-/

namespace XsdInfer

open Layout (Tag)
open Name (isSolid)
open Strict (Node Scopes isXmlChar normalText tagNode)

namespace Schema

variable {s : Schema} {rootName : String} {target : Option String}

/-! ## References in order -/

/-- The places of the types that a written schema refers to: that of the type of the root and then,
definition by definition, those of the types of the children. -/
def referredPlaces (s : Schema) : List Nat :=
  s.root :: s.complexTypes.flatMap fun t => t.children.entries.map fun c => c.2.target

/-- The name of the definition of the type at a place, if the type has one. -/
def definitionAt? (s : Schema) (place : Nat) : Option String :=
  ((s.types[place]?).filter SchemaType.isComplex).map SchemaType.typeName

/-- The names of the definitions that a written schema refers to, reference by reference. -/
def referredDefinitions (s : Schema) : List String :=
  s.referredPlaces.filterMap s.definitionAt?

section Tags

variable {β : Type} {f : Tag → List β}

/-- The tag of a child of a type. -/
abbrev childTag (s : Schema) (target : Option String) (c : String × ChildDeclaration) : Tag :=
  ("xs:element", [("name", Name.localPart c.1), ("type", s.referenceAt target c.2.target),
    ("minOccurs", toString c.2.minOccurs), ("maxOccurs", c.2.maxOccurs.text)])

/-- The tag of the root. -/
abbrev rootTag (s : Schema) (rootName : String) (target : Option String) : Tag :=
  ("xs:element", [("name", Name.localPart rootName), ("type", s.referenceAt target s.root)])

variable (silent : ∀ tag, s.Writes rootName target tag → tag.1 ≠ "xs:element" → f tag = [])

include silent

/-- The tags of attributes contribute nothing to a list in which they have no part. -/
lemma flatMap_attributeTags {t : SchemaType} (mem : t ∈ s.types) :
    (Layout.tagsAll t.attributeLayouts).flatMap f = [] := by
  rw [Layout.tagsAll_eq_flatMap, SchemaType.attributeLayouts, List.flatMap_map, List.flatMap_assoc]
  refine List.flatMap_eq_nil_iff.mpr fun a entry => ?_
  rw [Layout.tags, List.flatMap_singleton]
  exact silent _ (.attr mem entry) (by simp)

/-- Inside of a definition, only the tags of the children are not silent. -/
lemma flatMap_bodyTags {t : SchemaType} (mem : t ∈ s.types) (complex : t.kind = .complex) :
    (Layout.tagsAll (s.bodyLayouts target t)).flatMap f =
      t.children.entries.flatMap fun c => f (s.childTag target c) := by
  have attributes := flatMap_attributeTags silent mem
  have children : (Layout.tagsAll (t.children.entries.map (s.childLayout target))).flatMap f =
      t.children.entries.flatMap fun c => f (s.childTag target c) := by
    rw [Layout.tagsAll_eq_flatMap, List.flatMap_map, List.flatMap_assoc]
    refine List.flatMap_congr fun c _ => ?_
    rw [childLayout, Layout.tags, List.flatMap_singleton]
  have sequence : f ("xs:sequence", []) = [] := silent _ .sequence (by simp)
  unfold bodyLayouts SchemaType.content?
  rw [complex]
  cases childless : t.children.entries with
  | nil =>
    cases t.primitive with
    | none => simpa using attributes
    | some base =>
      have simpleContent : f ("xs:simpleContent", []) = [] := silent _ .simpleContent (by simp)
      have extension : f ("xs:extension", [("base", base.reference)]) = [] :=
        silent _ (.extension base) (by simp)
      simp [Layout.tagsAll, Layout.tags, simpleContent, extension, attributes]
  | cons c more =>
    rw [childless] at children
    cases t.isMixed <;> simpa [Layout.tagsAll, Layout.tags, sequence, attributes] using children

/-- Inside of a written schema, only the tags of the root and of the children are not silent. -/
lemma flatMap_innerTags :
    (Layout.tagsAll (s.innerLayouts rootName target)).flatMap f =
      f (s.rootTag rootName target) ++
        s.complexTypes.flatMap fun t => t.children.entries.flatMap fun c => f (s.childTag target c) := by
  rw [innerLayouts, Layout.tagsAll, Layout.tags, List.flatMap_append, List.flatMap_singleton,
    Layout.tagsAll_eq_flatMap, List.flatMap_map, List.flatMap_assoc]
  congr 1
  refine List.flatMap_congr fun t complex => ?_
  obtain ⟨mem, kind⟩ := List.mem_filter.mp complex
  rw [typeLayout, Layout.tags, List.flatMap_cons, silent _ (.type mem) (by simp), List.nil_append]
  exact flatMap_bodyTags silent mem (beq_iff_eq.mp kind)

end Tags

/-! ## Names of definitions -/

/-- The names of the built-in types that a definition may have as well. -/
def builtInDefinitions : List String :=
  ["anyType", "anySimpleType"]

/-- Of the built-in types, just two have names that go on like those of definitions. -/
lemma isBuiltIn_iff {name : String} (suffix : Name.typeSuffix.toList <:+: name.toList) :
    Check.isBuiltIn name = true ↔ name ∈ builtInDefinitions := by
  have table : ∀ n ∈ Primitive.all.map Primitive.name ++ Check.otherBuiltIns,
      Name.typeSuffix.toList <:+: n.toList → n ∈ builtInDefinitions := by
    decide +kernel
  constructor
  · intro known
    refine table name (List.mem_append.mpr ?_) suffix
    rw [Check.isBuiltIn, Bool.or_eq_true, List.contains_iff_mem] at known
    refine known.imp_left fun primitive => ?_
    obtain ⟨p, found⟩ := Option.isSome_iff_exists.mp primitive
    rw [Primitive.ofName?] at found
    have same := List.find?_some found
    exact List.mem_map.mpr ⟨p, p.mem_all, beq_iff_eq.mp same⟩
  · have both : ∀ n ∈ builtInDefinitions, Check.isBuiltIn n = true := by decide
    exact both name

/-- The names of definitions hold the ending that tells them from the names of elements. -/
lemma isInfix_of_mem_definitions {scope : Scope} {root : Element} {name : String}
    (mem : name ∈ (described scope root).definitions) :
    Name.typeSuffix.toList <:+: name.toList := by
  have base (k : TypeKey) : Name.typeSuffix.toList <:+ k.baseName.toList := by
    unfold TypeKey.baseName
    split
    next =>
      rw [Name.scopedTypeName, String.toList_append]
      exact List.suffix_append _ _
    next =>
      rw [Name.typeName, String.toList_append]
      exact List.suffix_append _ _
  obtain ⟨t, complex, rfl⟩ := List.mem_map.mp mem
  obtain ⟨⟨k, name⟩, known, rfl⟩ := List.mem_map.mp (List.mem_of_mem_filter complex)
  show _ <:+: name.toList
  obtain own | ⟨_, n, _, numbered⟩ := typeName_cases known
  · have own : name = k.baseName := own
    rw [own]
    exact (base k).isInfix
  · have numbered : name = k.baseName ++ toString n := numbered
    rw [numbered, String.toList_append]
    exact (base k).isInfix.trans (List.prefix_append _ _).isInfix

end Schema

/-! ## What references come to -/

namespace Check

open Schema

variable {s : Schema} {rootName : String} {n : Node}

/-- What is reported of a reference to a definition, if the vocabulary is the target namespace. -/
def mistaken (name : String) : Option Finding :=
  if isBuiltIn name then none
  else some (.notBuiltIn (definitionReference (some Namespace.xsd) name))

/-- A reference to a definition is read as the name of a built-in type. -/
lemma resolve_definitionReference_of_vocabulary {defined : List String}
    (scopes : n.scopes = schemaScopes (some Namespace.xsd)) {name : String} :
    resolve (some Namespace.xsd) defined n (definitionReference (some Namespace.xsd) name) =
      match mistaken name with
      | none => .builtIn
      | some f => .failed f := by
  have parts : Name.split (Namespace.target ++ ":" ++ name) = (some Namespace.target, name) :=
    Name.split_append (by decide) name
  have known : n.uriOf? (some Namespace.target) = some Namespace.xsd := by
    rw [Strict.Node.uriOf?, scopes, schemaScopes_some, normalText_xsd]
    rfl
  rw [resolve, definitionReference, parts]
  simp only [known, if_pos, mistaken]
  cases isBuiltIn name <;> rfl

/-- A primitive is a built-in type also where the vocabulary is the target. -/
lemma resolve_primitive_of_vocabulary (scopes : n.scopes = schemaScopes (some Namespace.xsd))
    (defined : List String) (p : Primitive) :
    resolve (some Namespace.xsd) defined n p.reference = .builtIn := by
  have known := @resolve_primitive (some Namespace.xsd) defined n scopes p
  rwa [Option.map_some, normalText_xsd] at known

/-- No reference comes to a definition, and what is reported is that definitions are not built in. -/
lemma outcome_referenceAt (printable : s.Printable rootName (some Namespace.xsd))
    (scopes : n.scopes = schemaScopes (some Namespace.xsd)) {place : Nat}
    (inside : place < s.types.length) :
    resolve (some Namespace.xsd) s.definitions n
        (normalText (s.referenceAt (some Namespace.xsd) place)) =
      match (s.definitionAt? place).bind mistaken with
      | none => .builtIn
      | some f => .failed f := by
  rw [normalText_of_isReference printable.solid (isReference_referenceAt inside),
    referenceAt_of_lt inside, definitionAt?, List.getElem?_eq_getElem inside]
  cases kind : s.types[place].kind with
  | simple =>
    have simple : s.types[place].isComplex = false := by rw [SchemaType.isComplex, kind]; rfl
    rw [SchemaType.reference, kind, Option.filter_some, simple]
    exact resolve_primitive_of_vocabulary scopes _ _
  | complex =>
    have complex : s.types[place].isComplex = true := by rw [SchemaType.isComplex, kind]; rfl
    rw [reference_of_complex kind, resolve_definitionReference_of_vocabulary scopes,
      Option.filter_some, complex]
    rfl

/-- The outcomes at a tag that one reference or none stands in. -/
lemma outcomesAt_of_lookup {defined : List String} {target : Option String} {around : Scopes}
    {tag : Tag} {r : Option String}
    (values : ["type", "base"].filterMap (fun k => tag.2.lookup k) = r.toList) :
    outcomesAt target defined (tagNode around tag.1 tag.2) =
      (r.map fun v => resolve target defined (tagNode around tag.1 tag.2) (normalText v)).toList := by
  rw [outcomesAt_tagNode, values]
  cases r <;> rfl

section Node

variable {β : Type} {f : Outcome → Option β}

/-- What is looked up at the outcomes of a tag. -/
abbrev lookedUp (s : Schema) (f : Outcome → Option β) (tag : Tag) : List β :=
  (outcomesAt (some Namespace.xsd) s.definitions
    (tagNode (schemaScopes (some Namespace.xsd)) tag.1 tag.2)).filterMap f

variable (printable : s.Printable rootName (some Namespace.xsd)) (builtIn : f .builtIn = none)

include printable builtIn

/-- Tags other than those of elements refer to built-in types alone. -/
lemma lookedUp_of_writes {tag : Tag} (h : s.Writes rootName (some Namespace.xsd) tag)
    (other : tag.1 ≠ "xs:element") : lookedUp s f tag = [] := by
  have nothing {tag : Tag} (values : ["type", "base"].filterMap (fun k => tag.2.lookup k) = []) :
      lookedUp s f tag = [] := by
    rw [lookedUp, outcomesAt_of_lookup (r := none) values]
    rfl
  have primitive {tag : Tag} (writes : s.Writes rootName (some Namespace.xsd) tag) (p : Primitive)
      (values : ["type", "base"].filterMap (fun k => tag.2.lookup k) = [p.reference]) :
      lookedUp s f tag = [] := by
    have refers : IsReference (some Namespace.xsd) s.definitions p.reference := .primitive p
    have scopes := Strict.scopesIn_of_plain (writes.isTag printable).1
      (schemaScopes (some Namespace.xsd))
    rw [lookedUp, outcomesAt_of_lookup (r := some p.reference) values, Option.map_some,
      normalText_of_isReference printable.solid refers, resolve_primitive_of_vocabulary scopes,
      Option.toList_some, List.filterMap_cons_none builtIn, List.filterMap_nil]
  cases h with
  | root => exact absurd rfl other
  | @type t mem =>
    apply nothing
    cases t.isMixed <;> rfl
  | sequence => exact nothing rfl
  | child => exact absurd rfl other
  | simpleContent => exact nothing rfl
  | extension base => exact primitive (.extension base) base rfl
  | @attr t a mem entry => exact primitive (.attr mem entry) a.2 rfl

/-- The tag of an element refers to the type at one place. -/
lemma lookedUp_referenceAt {tag : Tag} (h : s.Writes rootName (some Namespace.xsd) tag) {place : Nat}
    (inside : place < s.types.length)
    (values : ["type", "base"].filterMap (fun k => tag.2.lookup k) =
      [s.referenceAt (some Namespace.xsd) place]) :
    lookedUp s f tag =
      (((s.definitionAt? place).bind mistaken).bind fun e => f (.failed e)).toList := by
  have scopes := Strict.scopesIn_of_plain (h.isTag printable).1 (schemaScopes (some Namespace.xsd))
  have outcome := outcome_referenceAt
    (n := tagNode (schemaScopes (some Namespace.xsd)) tag.1 tag.2) printable scopes inside
  rw [lookedUp, outcomesAt_of_lookup (r := some _) values, Option.map_some, outcome]
  cases (s.definitionAt? place).bind mistaken with
  | none => exact List.filterMap_cons_none builtIn
  | some e =>
    cases found : f (.failed e) with
    | none => simp [found]
    | some b => simp [found]

/-- What is looked up at the outcomes of a written schema, reference by reference. -/
lemma filterMap_outcomes_node :
    ((s.node rootName (some Namespace.xsd)).all.flatMap
        (outcomesIn (s.node rootName (some Namespace.xsd)))).filterMap f =
      s.referredDefinitions.filterMap fun name => (mistaken name).bind fun e => f (.failed e) := by
  have silent (tag : Tag) (writes : s.Writes rootName (some Namespace.xsd) tag)
      (other : tag.1 ≠ "xs:element") : lookedUp s f tag = [] :=
    lookedUp_of_writes printable builtIn writes other
  have root : lookedUp s f (s.rootTag rootName (some Namespace.xsd)) = _ :=
    lookedUp_referenceAt printable builtIn .root printable.closed.root rfl
  have children : (s.complexTypes.flatMap fun t => t.children.entries.flatMap fun c =>
      lookedUp s f (s.childTag (some Namespace.xsd) c)) =
        s.complexTypes.flatMap fun t => t.children.entries.flatMap fun c =>
          (((s.definitionAt? c.2.target).bind mistaken).bind fun e => f (.failed e)).toList := by
    refine List.flatMap_congr fun t complex => List.flatMap_congr fun c entry => ?_
    have mem := List.mem_of_mem_filter complex
    exact lookedUp_referenceAt printable builtIn (.child mem entry)
      (printable.closed.targets t mem c entry) rfl
  rw [flatMap_outcomesIn_node printable, Option.map_some, normalText_xsd, List.filterMap_flatMap,
    flatMap_innerTags silent, root, children]
  rw [referredDefinitions, List.filterMap_filterMap, List.filterMap_eq_flatMap_toList, referredPlaces,
    List.flatMap_cons, List.flatMap_assoc]
  simp only [List.flatMap_map, Option.bind_assoc]

end Node

/-- The names that are no built-in types are reported one by one. -/
lemma filterMap_mistaken (names : List String) :
    names.filterMap mistaken = (names.filter (!isBuiltIn ·)).map fun name =>
      .notBuiltIn (definitionReference (some Namespace.xsd) name) := by
  induction names with
  | nil => rfl
  | cons name names ih => cases known : isBuiltIn name <;> simp [mistaken, known, ih]

/-- The report on a schema that is written for the vocabulary. -/
theorem schema_render_of_vocabulary (printable : s.Printable rootName (some Namespace.xsd)) :
    schema (s.render rootName (some Namespace.xsd)) = {
      errors := (s.referredDefinitions.filter (!isBuiltIn ·)).map fun name =>
        .notBuiltIn (definitionReference (some Namespace.xsd) name)
      warnings := s.definitions.map .neverReferenced } := by
  have nodup : s.definitions.Nodup := printable.closed.nodup.sublist (List.filter_sublist.map _)
  have once : repeats [] s.definitions = [] := repeats_eq_nil nodup fun _ _ => List.not_mem_nil
  have findings := filterMap_outcomes_node printable (f := Outcome.finding?) rfl
  have names := filterMap_outcomes_node printable (f := Outcome.name?) rfl
  have unnamed (name : String) : ((mistaken name).bind fun e => Outcome.name? (.failed e)) = none := by
    cases mistaken name <;> rfl
  have reported (name : String) :
      ((mistaken name).bind fun e => Outcome.finding? (.failed e)) = mistaken name := by
    cases mistaken name <;> rfl
  simp only [unnamed, List.filterMap_none] at names
  simp only [reported] at findings
  have rooted : schemaRoot (s.render rootName (some Namespace.xsd)) =
      .ok (s.node rootName (some Namespace.xsd)) := by
    rw [schemaRoot, strictParse_eq_node printable]
    exact if_pos (root_node s rootName _)
  rw [schema, rooted]
  show ofRoot _ = _
  rw [ofRoot_eq, findings, names, filterMap_mistaken, (topLevel_node printable).1, once,
    FirstSeen.eraseDups_of_nodup nodup]
  simp

end Check

namespace Schema

variable {s : Schema}

/-- What a closed schema refers to is what it defines. -/
lemma Closed.mem_referredDefinitions_iff (closed : s.Closed) {name : String} :
    name ∈ s.referredDefinitions ↔ name ∈ s.definitions := by
  have at_place {i : Nat} (inside : i < s.types.length) :
      s.definitionAt? i = some name ↔
        s.types[i].isComplex = true ∧ s.types[i].typeName = name := by
    rw [definitionAt?, List.getElem?_eq_getElem inside, Option.filter_some]
    cases s.types[i].isComplex <;> simp
  constructor
  · intro mem
    obtain ⟨i, _, found⟩ := List.mem_filterMap.mp mem
    obtain ⟨t, known, rfl⟩ := Option.map_eq_some_iff.mp found
    obtain ⟨at_i, complex⟩ := Option.filter_eq_some_iff.mp known
    exact List.mem_map_of_mem (List.mem_filter.mpr ⟨List.mem_of_getElem? at_i, complex⟩)
  · intro mem
    obtain ⟨t, complex, same⟩ := List.mem_map.mp mem
    obtain ⟨known, kind⟩ := List.mem_filter.mp complex
    obtain ⟨i, inside, rfl⟩ := List.mem_iff_getElem.mp known
    refine List.mem_filterMap.mpr ⟨i, ?_, (at_place inside).mpr ⟨kind, same⟩⟩
    obtain rfl | ⟨parent, mem, c, entry, rfl⟩ := closed.used i inside
    · exact .head _
    · have parentKind := closed.parents parent mem (List.ne_nil_of_mem entry)
      refine .tail _ (List.mem_flatMap.mpr ⟨parent, List.mem_filter.mpr ⟨mem, ?_⟩, ?_⟩)
      · rw [SchemaType.isComplex, parentKind]
        rfl
      · exact List.mem_map_of_mem entry

/-- The schema of a sample that is read can be printed, if the namespace of its root is one that a
document may declare. -/
lemma printable_described {limits : Limits} {xml : String} {root : Element}
    (parsed : Sample.parse limits xml = .ok root)
    (fits : ∀ uri ∈ root.namespace?, IsDeclarable uri) (scope : Scope) :
    (described scope root).Printable root.name root.namespace? where
  closed := closed_described scope root
  solid := solid_described (Sample.named_of_parse parsed) scope
  named := Sample.isSolid_root_of_parse parsed
  fits := fits

end Schema

/-- The namespace of the vocabulary can be declared. -/
lemma isDeclarable_xsd : IsDeclarable Namespace.xsd where
  held := by decide +kernel
  reserved := by decide

/-- The report on the schema of a sample of the vocabulary. -/
lemma Schema.check_described_of_vocabulary {limits : Limits} {xml : String} {root : Element}
    (parsed : Sample.parse limits xml = .ok root)
    (vocabulary : root.namespace? = some Namespace.xsd) (scope : Scope) :
    Check.schema (described scope root).xsd = {
      errors := ((described scope root).referredDefinitions.filter (!Check.isBuiltIn ·)).map
        fun name => .notBuiltIn (definitionReference (some Namespace.xsd) name)
      warnings := (described scope root).definitions.map .neverReferenced } := by
  have declarable : ∀ uri ∈ root.namespace?, IsDeclarable uri := fun uri mem => by
    obtain rfl := Option.some.inj (vocabulary.symm.trans mem)
    exact isDeclarable_xsd
  have printable := printable_described parsed declarable scope
  rw [vocabulary] at printable
  have text : (described scope root).xsd =
      (described scope root).render root.name (some Namespace.xsd) := by
    show render _ root.name root.namespace? = _
    rw [vocabulary]
  rw [text]
  exact Check.schema_render_of_vocabulary printable

namespace Conversion

/-- On the schema of a sample of the vocabulary there is an error to report for each reference to a
definition, unless a built-in type has the name of that definition, and a warning for each definition.
What is referred to is just what is defined, so that there is no error just if each definition has the
name of a built-in type. -/
theorem check_convert_of_vocabulary {c : Conversion} {xml xsd : String} {root : Element}
    (parsed : Sample.parse c.limits xml = .ok root)
    (vocabulary : root.namespace? = some Namespace.xsd) (converted : c.convert xml = .ok xsd) :
    ∃ s, c.infer xml = .ok s ∧
      Check.schema xsd = {
        errors := (s.referredDefinitions.filter (!Check.isBuiltIn ·)).map fun name =>
          .notBuiltIn (Namespace.target ++ ":" ++ name)
        warnings := s.definitions.map .neverReferenced } ∧
      (∀ name, name ∈ s.referredDefinitions ↔ name ∈ s.definitions) ∧
      ((Check.schema xsd).isValid = true ↔
        ∀ name ∈ s.definitions, name ∈ Schema.builtInDefinitions) := by
  obtain ⟨s, inferred, rfl⟩ := exists_infer_of_convert converted
  obtain ⟨root', parsed', rfl⟩ := exists_parse_of_infer inferred
  obtain rfl := Except.ok.inj (parsed.symm.trans parsed')
  have closed := Schema.closed_described c.scope root
  have report := Schema.check_described_of_vocabulary parsed vocabulary c.scope
  refine ⟨_, inferred, report, fun _ => closed.mem_referredDefinitions_iff, ?_⟩
  rw [report, Report.isValid, List.isEmpty_iff, List.map_eq_nil_iff, List.filter_eq_nil_iff]
  simp only [closed.mem_referredDefinitions_iff, Bool.not_eq_true', Bool.not_eq_false]
  refine forall₂_congr fun name mem => Schema.isBuiltIn_iff (Schema.isInfix_of_mem_definitions mem)

/-- A schema that is given as a sample: each of its two definitions is missed where it is referred to,
and never found. -/
theorem check_convert_of_vocabulary_schema :
    let xml := "<xs:schema xmlns:xs=\"http://www.w3.org/2001/XMLSchema\"><xs:element name=\"a\"/></xs:schema>"
    ∃ root xsd s, Sample.parse {} xml = .ok root ∧ root.namespace? = some Namespace.xsd ∧
      convert {} xml = .ok xsd ∧ infer {} xml = .ok s ∧
      Check.schema xsd = {
        errors := (s.referredDefinitions.filter (!Check.isBuiltIn ·)).map fun name =>
          .notBuiltIn (Namespace.target ++ ":" ++ name)
        warnings := s.definitions.map .neverReferenced } ∧
      (∀ name, name ∈ s.referredDefinitions ↔ name ∈ s.definitions) ∧
      ((Check.schema xsd).isValid = true ↔
        ∀ name ∈ s.definitions, name ∈ Schema.builtInDefinitions) ∧
      s.referredDefinitions = ["schemaType", "elementType"] := by
  intro xml
  have shown : (infer {} xml).map (fun s => (s.targetNamespace, s.referredDefinitions)) =
      .ok (some Namespace.xsd, ["schemaType", "elementType"]) := by
    decide +kernel
  cases inferred : infer {} xml with
  | error e => rw [inferred] at shown; cases shown
  | ok s =>
    rw [inferred] at shown
    obtain ⟨vocabulary, referred⟩ := Prod.mk.inj (Except.ok.inj shown)
    obtain ⟨root, parsed, rfl⟩ := exists_parse_of_infer inferred
    have converted := convert_of_infer inferred
    obtain ⟨s, inferred', report⟩ := check_convert_of_vocabulary parsed vocabulary converted
    obtain rfl := Except.ok.inj (inferred.symm.trans inferred')
    exact ⟨root, _, _, parsed, vocabulary, converted, rfl, report.1, report.2.1, report.2.2, referred⟩

/-- The schema of a sample of the vocabulary is not always without errors. -/
theorem not_forall_check_convert_of_vocabulary :
    ¬ ∀ (scope : Scope) (xml xsd : String) (root : Element), Sample.parse {} xml = .ok root →
      root.namespace? = some Namespace.xsd → convert { scope } xml = .ok xsd →
        (Check.schema xsd).errors = [] := by
  intro all
  let xml := "<xs:r xmlns:xs=\"http://www.w3.org/2001/XMLSchema\"><xs:a/></xs:r>"
  have shown : (infer {} xml).map (fun s => (s.targetNamespace,
      s.referredDefinitions.filter (!Check.isBuiltIn ·))) = .ok (some Namespace.xsd, ["rType"]) := by
    decide +kernel
  cases inferred : infer {} xml with
  | error e => rw [inferred] at shown; cases shown
  | ok s =>
    rw [inferred] at shown
    obtain ⟨vocabulary, missed⟩ := Prod.mk.inj (Except.ok.inj shown)
    obtain ⟨root, parsed, rfl⟩ := exists_parse_of_infer inferred
    have none := all .global xml _ root parsed vocabulary (convert_of_infer inferred)
    have report := Schema.check_described_of_vocabulary parsed vocabulary .global
    have none : (Check.schema (Schema.described .global root).xsd).errors = [] := none
    rw [report] at none
    have missed : ((Schema.described .global root).referredDefinitions.filter (!Check.isBuiltIn ·)) =
      ["rType"] := missed
    rw [missed] at none
    cases none

end Conversion

end XsdInfer
