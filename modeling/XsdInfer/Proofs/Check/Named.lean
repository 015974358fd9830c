import XsdInfer.Proofs.Check.Sound
import XsdInfer.Proofs.Name.Characters
import XsdInfer.Proofs.Strict.Scopes

/-!
# References that name a type

A reference names a type (`Names`), if its prefix, or the lack of one, stands for a namespace where it is
written, and its name is one of a type of this namespace: one that is built in, or one that the top level
of the schema defines. Main statement: if all references of a schema name a type that is built in or
complex, a check finds nothing but types that are defined twice (`definedTwice_of_names`). Without this
condition, each other finding is about a reference that names no such type (`of_mem_errors`).
-/

namespace XsdInfer

/-- The reference that a finding is about. -/
def Finding.reference? : Finding → Option String
  | undeclaredPrefix reference _ => some reference
  | unresolved reference => some reference
  | notBuiltIn reference => some reference
  | _ => none

namespace Check

open Strict (Node Scopes declarations)

/-- What a reference stands for among some declarations: a name in a namespace, or in none. Without a prefix
where the default namespace is declared to be empty, it is left open. -/
inductive Expands (d : Scopes) (reference : String) : Option String → String → Prop where
  | qualified {pre uri name : String} (parts : reference = pre ++ ":" ++ name) (single : ':' ∉ pre.toList)
      (declared : Scopes.uriOf? d (some pre) = some uri) : Expands d reference (some uri) name
  | unqualified {uri : String} (single : ':' ∉ reference.toList)
      (declared : Scopes.uriOf? d none = some uri) (proper : uri ≠ "") :
      Expands d reference (some uri) reference
  | bare (single : ':' ∉ reference.toList) (undeclared : Scopes.uriOf? d none = none) :
      Expands d reference none reference

/-- The top level of a schema defines something of a name by an element of one of some kinds. -/
def Defines (schema : Node) (kinds : List String) (name : String) : Prop :=
  ∃ n ∈ schema.children, n.uri = some Namespace.xsd ∧ n.localName ∈ kinds ∧
    n.attribute? "name" = some name

/-- A name in a namespace is that of a type, which is built in or defined by one of some kinds of elements.
What a schema defines is in its target namespace. What a schema defines in the vocabulary is left out, since
a check takes it for built in. -/
inductive IsType (schema : Node) (kinds : List String) : Option String → String → Prop where
  | builtIn {name : String} (known : isBuiltIn name = true) :
      IsType schema kinds (some Namespace.xsd) name
  | defined {uri? : Option String} {name : String}
      (target : schema.attribute? "targetNamespace" = uri?) (apart : uri? ≠ some Namespace.xsd)
      (defines : Defines schema kinds name) : IsType schema kinds uri? name

/-- A reference among some declarations names a type. -/
def Names (schema : Node) (kinds : List String) (d : Scopes) (reference : String) : Prop :=
  ∃ uri? name, Expands d reference uri? name ∧ IsType schema kinds uri? name

/-- The references at an element. -/
def referencesAt (n : Node) : List String :=
  ["type", "base"].filterMap n.attribute?

/-- The references of a schema, each with the declarations in force where it is written. -/
def references (xsd : String) (schema : Node) : List (Scopes × String) :=
  (schema.all.zip (declarations xsd)).flatMap fun p => (referencesAt p.1).map (p.2, ·)

variable {xsd reference name : String} {schema n : Node} {kinds : List String} {d : Scopes}

/-- A name is defined if it is among the names that are declared at the top level. -/
lemma defines_iff :
    Defines schema kinds name ↔ ∃ kind ∈ kinds, name ∈ topLevel schema kind := by
  constructor
  · rintro ⟨n, mem, uri, kind, said⟩
    refine ⟨n.localName, kind, List.mem_filterMap.mpr ⟨n, mem, ?_⟩⟩
    rw [if_pos ⟨uri, rfl⟩, said]
  · rintro ⟨kind, listed, top⟩
    obtain ⟨n, mem, said⟩ := List.mem_filterMap.mp top
    split at said
    next holds => exact ⟨n, mem, holds.1, holds.2 ▸ listed, said⟩
    next => cases said

namespace Expands

/-- A name in a namespace is one of the vocabulary, or has to be defined in this namespace. -/
lemma resolve_some {uri : String} (h : Expands d reference (some uri) name)
    (same : n.uriOf? = Scopes.uriOf? d) (target : Option String) (defined : List String) :
    resolve target defined n reference =
      if uri = Namespace.xsd then
        if isBuiltIn name then .builtIn else .failed (.notBuiltIn reference)
      else if some uri = target ∧ name ∈ defined then .defined name
      else .failed (.unresolved reference) := by
  cases h with
  | qualified parts single declared =>
    subst parts
    simp only [resolve, Name.split_append single, same, declared]
  | unqualified single declared _ =>
    simp only [resolve, Name.split_of_no_colon single, same, declared]

/-- A name in no namespace has to be defined in a schema without target namespace. -/
lemma resolve_none (h : Expands d reference none name) (same : n.uriOf? = Scopes.uriOf? d)
    (target : Option String) (defined : List String) :
    resolve target defined n reference =
      if name ∈ defined ∧ target = none then .defined name else .failed (.unresolved reference) := by
  cases h with
  | bare single undeclared =>
    simp only [resolve, Name.split_of_no_colon single, same, undeclared]

end Expands

/-- A reference that names a type is no finding. -/
lemma Names.finding?_resolve (h : Names schema ["complexType"] d reference)
    (same : n.uriOf? = Scopes.uriOf? d) :
    (resolve (schema.attribute? "targetNamespace") (topLevel schema "complexType") n reference).finding? =
      none := by
  obtain ⟨uri?, name, expands, isType⟩ := h
  cases isType with
  | builtIn known =>
    rw [expands.resolve_some same, if_pos rfl, if_pos known]
    rfl
  | defined target apart defines =>
    obtain ⟨kind, listed, top⟩ := defines_iff.mp defines
    obtain rfl := List.mem_singleton.mp listed
    rw [target]
    cases uri? with
    | none =>
      rw [expands.resolve_none same, if_pos ⟨top, rfl⟩]
      rfl
    | some uri =>
      -- In the vocabulary, a name is looked up among the built-in types alone.
      have other : uri ≠ Namespace.xsd := fun vocabulary => apart (congrArg some vocabulary)
      rw [expands.resolve_some same, if_neg other, if_pos ⟨rfl, top⟩]
      rfl

/-! ## Findings -/

variable {root : Node} {f : Finding}

/-- What is found about a reference tells this reference. -/
lemma reference?_of_resolve {target : Option String} {defined : List String}
    (found : (resolve target defined n reference).finding? = some f) : f.reference? = some reference := by
  cases parts : Name.split reference with | mk pre name =>
  simp only [resolve, parts] at found
  cases uri : n.uriOf? pre with
  | none =>
    rw [uri] at found
    cases pre with
    | some pre => cases found; rfl
    | none =>
      simp only at found
      split at found
      next => cases found
      next => cases found; rfl
  | some uri' =>
    rw [uri] at found
    simp only at found
    split_ifs at found <;> cases found <;> rfl

/-- Each element of a document is listed with the declarations that are in force there. -/
lemma exists_declarations (parsed : Strict.parse xsd = .ok root) (mem : n ∈ root.all) :
    ∃ d, (n, d) ∈ root.all.zip (declarations xsd) ∧ n.uriOf? = Scopes.uriOf? d := by
  have same := Strict.uriOf?_all_of_parse parsed
  have long : root.all.length = (declarations xsd).length := by
    simpa using congrArg List.length same
  obtain ⟨i, inside, rfl⟩ := List.getElem_of_mem mem
  have at_i := List.getElem?_eq_getElem inside
  have at_i' := List.getElem?_eq_getElem (long ▸ inside : i < (declarations xsd).length)
  have looked : (root.all.map Node.uriOf?)[i]? = ((declarations xsd).map Scopes.uriOf?)[i]? := by
    rw [same]
  rw [List.getElem?_map, List.getElem?_map, at_i, at_i'] at looked
  exact ⟨_, List.mem_of_getElem? (List.getElem?_zip_eq_some.mpr ⟨at_i, at_i'⟩), Option.some.inj looked⟩

/-- A text that is read as a schema gets the report of its root. -/
lemma schema_eq (parsed : Strict.parse xsd = .ok root)
    (isSchema : root.localName = "schema" ∧ root.uri = some Namespace.xsd) :
    Check.schema xsd = ofRoot root := by
  have right : schemaRoot xsd = .ok root := by
    rw [schemaRoot, parsed]
    exact if_pos isSchema
  rw [Check.schema, right]

/-- Each finding in a schema is about a type that is defined twice, or about a reference that names no type
that is built in or complex. -/
theorem of_mem_errors (parsed : Strict.parse xsd = .ok root)
    (isSchema : root.localName = "schema" ∧ root.uri = some Namespace.xsd)
    (found : f ∈ (Check.schema xsd).errors) :
    (∃ name, f = .definedTwice name) ∨ ∃ d reference, (d, reference) ∈ references xsd root ∧
      f.reference? = some reference ∧ ¬ Names root ["complexType"] d reference := by
  rw [schema_eq parsed isSchema] at found
  obtain twice | failed := List.mem_append.mp found
  · obtain ⟨name, _, rfl⟩ := List.mem_map.mp twice
    exact .inl ⟨name, rfl⟩
  · obtain ⟨o, outcome, finding⟩ := List.mem_filterMap.mp failed
    obtain ⟨n, mem, here⟩ := List.mem_flatMap.mp outcome
    obtain ⟨reference, written, rfl⟩ := List.mem_map.mp here
    obtain ⟨d, pair, same⟩ := exists_declarations parsed mem
    refine .inr ⟨d, reference, ?_, reference?_of_resolve finding, fun names => ?_⟩
    · exact List.mem_flatMap.mpr ⟨(n, d), pair, List.mem_map_of_mem written⟩
    · rw [names.finding?_resolve same] at finding
      cases finding

/-- If each reference of a schema names a type that is built in or complex, then nothing is found but types
that are defined twice. `Names` shuts out two kinds of references, about which nothing is said here: those
without a prefix where the default namespace is declared to be empty (`xmlns=""`, left open by `Expands`),
and those to what the schema itself defines where its target namespace is that of the vocabulary (left out by
`apart` in `IsType`). -/
theorem definedTwice_of_names (parsed : Strict.parse xsd = .ok root)
    (isSchema : root.localName = "schema" ∧ root.uri = some Namespace.xsd)
    (names : ∀ r ∈ references xsd root, Names root ["complexType"] r.1 r.2) :
    ∀ f ∈ (Check.schema xsd).errors, ∃ name, f = .definedTwice name := by
  intro f found
  obtain twice | ⟨d, reference, mem, _, unnamed⟩ := of_mem_errors parsed isSchema found
  · exact twice
  · exact absurd (names _ mem) unnamed

/-- A reference by the default namespace, and one by a prefix that is declared again. -/
theorem definedTwice_of_names_shadowed :
    let xsd := "<schema xmlns=\"http://www.w3.org/2001/XMLSchema\" xmlns:p=\"urn:o\" targetNamespace=\"urn:t\">" ++
      "<element name=\"a\" type=\"string\"/><element xmlns:p=\"urn:t\" name=\"b\" type=\"p:T\"/>" ++
      "<complexType name=\"T\"/></schema>"
    ∃ root, Strict.parse xsd = .ok root ∧ (root.localName = "schema" ∧ root.uri = some Namespace.xsd) ∧
      (references xsd root).map Prod.snd = ["string", "p:T"] ∧
      (∀ r ∈ references xsd root, Names root ["complexType"] r.1 r.2) ∧
      ∀ f ∈ (Check.schema xsd).errors, ∃ name, f = .definedTwice name := by
  intro xsd
  have shown : (Strict.parse xsd).toOption.any (fun root =>
      (root.localName = "schema" ∧ root.uri = some Namespace.xsd) ∧
        root.attribute? "targetNamespace" = some "urn:t" ∧ topLevel root "complexType" = ["T"] ∧
        references xsd root = [([(none, Namespace.xsd), (some "p", "urn:o")], "string"),
          ([(some "p", "urn:t"), (none, Namespace.xsd), (some "p", "urn:o")], "p:T")]) = true := by
    decide +kernel
  cases parsed : Strict.parse xsd with
  | error fault => rw [parsed] at shown; cases shown
  | ok root =>
    rw [parsed] at shown
    obtain ⟨isSchema, target, types, written⟩ := of_decide_eq_true shown
    have defined : Defines root ["complexType"] "T" := defines_iff.mpr ⟨_, .head _, types ▸ .head _⟩
    have names : ∀ r ∈ references xsd root, Names root ["complexType"] r.1 r.2 := by
      rw [written, List.forall_mem_cons, List.forall_mem_singleton]
      exact ⟨⟨_, _, .unqualified (by decide) rfl (by decide), .builtIn (by decide)⟩, _, _,
        .qualified (show _ = "p" ++ ":" ++ "T" by decide) (by decide) rfl,
        .defined target (by decide) defined⟩
    refine ⟨root, rfl, isSchema, by rw [written]; rfl, names, ?_⟩
    exact definedTwice_of_names parsed isSchema names

/-- A check does find references to simple types that the schema defines. -/
theorem not_forall_resolved_of_names :
    ¬ ∀ (xsd : String) (root : Node), Strict.parse xsd = .ok root →
      (root.localName = "schema" ∧ root.uri = some Namespace.xsd) →
      (∀ n ∈ root.all, referencesAt n ≠ [] → n.uri = some Namespace.xsd) →
      (∀ r ∈ references xsd root, Names root ["simpleType", "complexType"] r.1 r.2) →
        ∀ f ∈ (Check.schema xsd).errors, f.reference? = none := by
  intro all
  let xsd := "<xs:schema xmlns:xs=\"http://www.w3.org/2001/XMLSchema\">" ++
    "<xs:simpleType name=\"t\"><xs:restriction base=\"xs:string\"/></xs:simpleType>" ++
    "<xs:element name=\"a\" type=\"t\"/></xs:schema>"
  have shown : (Strict.parse xsd).toOption.any (fun root =>
      (root.localName = "schema" ∧ root.uri = some Namespace.xsd) ∧
        root.attribute? "targetNamespace" = none ∧ topLevel root "simpleType" = ["t"] ∧
        topLevel root "complexType" = [] ∧ (∀ n ∈ root.all, n.uri = some Namespace.xsd) ∧
        references xsd root = [([(some "xs", Namespace.xsd)], "xs:string"),
          ([(some "xs", Namespace.xsd)], "t")] ∧
        (ofRoot root).errors = [.unresolved "t"]) = true := by
    decide +kernel
  cases parsed : Strict.parse xsd with
  | error fault => rw [parsed] at shown; cases shown
  | ok root =>
    rw [parsed] at shown
    obtain ⟨isSchema, target, types, _, vocabulary, written, found⟩ := of_decide_eq_true shown
    have defined : Defines root ["simpleType", "complexType"] "t" :=
      defines_iff.mpr ⟨_, .head _, types ▸ .head _⟩
    have names : ∀ r ∈ references xsd root, Names root ["simpleType", "complexType"] r.1 r.2 := by
      rw [written, List.forall_mem_cons, List.forall_mem_singleton]
      exact ⟨⟨_, _, .qualified (show _ = "xs" ++ ":" ++ "string" by decide) (by decide) rfl,
        .builtIn (by decide)⟩, _, _, .bare (by decide) rfl, .defined target (by decide) defined⟩
    have report := all xsd root parsed isSchema (fun n mem _ => vocabulary n mem) names
    rw [schema_eq parsed isSchema, found] at report
    cases report _ (.head _)

end Check

end XsdInfer
