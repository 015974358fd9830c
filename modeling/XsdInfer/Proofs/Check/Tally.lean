import Mathlib.Data.List.ReduceOption
import XsdInfer.Proofs.Check.Named
import XsdInfer.Proofs.FirstSeen
import XsdInfer.Proofs.Inference.Evidence

/-!
# Reports count each problem once

Main statement: the report on a schema that is read is known from its definitions and its references
alone, whatever order they come in (`schema_tallies`). There is one error for each name that is defined
twice or more, one at most for each reference, and one warning for each definition to which no
reference refers (`RefersTo`). If the top level is rearranged, the same is found in some order.
-/

namespace XsdInfer.Check

open Strict (Node Scopes declarations)

/-! ## Definitions and references -/

/-- Whether an element at the top level of a schema defines a complex type of a given name. -/
def isDefinition (name : String) (n : Node) : Bool :=
  n.uri = some Namespace.xsd ∧ n.localName = "complexType" ∧ n.attribute? "name" = some name

/-- A reference falls into a prefix and a name, if it has a colon. -/
inductive Divides (reference : String) : Option String → String → Prop where
  | qualified {pre name : String} (parts : reference = pre ++ ":" ++ name)
      (single : ':' ∉ pre.toList) : Divides reference (some pre) name
  | plain (single : ':' ∉ reference.toList) : Divides reference none reference

/-- A reference among some declarations is accepted as one to a definition of the schema: its prefix, or
the lack of one, stands for the target namespace, or for none if there is none, and the schema defines
its name. What is defined in the vocabulary itself is never referred to. -/
structure RefersTo (schema : Node) (d : Scopes) (reference name : String) : Prop where
  inTarget : ∃ pre, Divides reference pre name ∧
    Scopes.uriOf? d pre = schema.attribute? "targetNamespace" ∧
    (pre ≠ none → schema.attribute? "targetNamespace" ≠ none)
  apart : schema.attribute? "targetNamespace" ≠ some Namespace.xsd
  defines : Defines schema ["complexType"] name

/-- The report on a schema counts each problem once. -/
structure Tallies (xsd : String) (root : Node) (r : Report) : Prop where
  /-- There is one error for a name that is defined twice or more, and none for others. -/
  definedTwice : ∀ name, r.errors.countP (·.message == (Finding.definedTwice name).message) =
    if 2 ≤ root.children.countP (isDefinition name) then 1 else 0
  /-- The other errors are those of references, one for each of them at most. -/
  atReferences : ∃ twice found, r.errors = twice ++ found.reduceOption ∧
    (∀ f ∈ twice, ∃ name, f = .definedTwice name) ∧
    List.Forall₂ (fun r f? => ∀ f ∈ f?, f.reference? = some r.2) (references xsd root) found
  /-- There is one warning for a definition to which nothing refers, in the order in which names are
  defined first. -/
  neverReferenced : ∃ names : List String, r.warnings = names.map .neverReferenced ∧
    (names.Pairwise fun a b =>
      root.children.findIdx (isDefinition a) < root.children.findIdx (isDefinition b)) ∧
    ∀ name, name ∈ names ↔ Defines root ["complexType"] name ∧
      ∀ r ∈ references xsd root, ¬ RefersTo root r.1 r.2 name

/-- Two schemas differ in the order of what is at the top level alone. -/
structure Rearranged (root root' : Node) : Prop where
  same : root' = { root with children := root'.children }
  perm : root'.children.Perm root.children

variable {xsd reference name : String} {schema n : Node} {d : Scopes} {pre : Option String}

/-- A node declares the name of a type if it is a definition of that name. -/
lemma declared?_eq_some_iff :
    declared? "complexType" n = some name ↔ isDefinition name n = true := by
  unfold declared? isDefinition
  split
  next holds => simp [holds]
  next other =>
    refine iff_of_false nofun fun h => ?_
    obtain ⟨uri, kind, _⟩ := of_decide_eq_true h
    exact other ⟨uri, kind⟩

/-- A name is listed at the top level once for each definition of it. -/
lemma count_topLevel (root : Node) (name : String) :
    (topLevel root "complexType").count name = root.children.countP (isDefinition name) := by
  rw [topLevel_eq, List.count_filterMap]
  refine List.countP_congr fun n _ => ?_
  rw [beq_iff_eq]
  exact declared?_eq_some_iff

/-- The names at the top level are the names that are defined. -/
lemma mem_topLevel_iff :
    name ∈ topLevel schema "complexType" ↔ Defines schema ["complexType"] name := by
  simp [defines_iff]

/-- A reference is split as it divides. -/
lemma split_eq_iff : Name.split reference = (pre, name) ↔ Divides reference pre name := by
  constructor
  · intro h
    unfold Name.split at h
    cases cut : Text.cutAt ':' reference.toList with
    | none =>
      rw [cut] at h
      cases h
      exact .plain (Text.not_mem_of_cutAt cut)
    | some parts =>
      rw [cut] at h
      cases h
      obtain ⟨whole, single⟩ := Text.eq_of_cutAt cut
      refine .qualified ?_ (by rwa [String.toList_ofList])
      apply String.toList_injective
      simp [whole]
  · rintro (⟨rfl, single⟩ | single)
    · exact Name.split_append single _
    · exact Name.split_of_no_colon single

/-! ## Outcomes -/

/-- A reference comes to a definition just if its prefix stands for the target namespace, which is not
the vocabulary, and its name is defined. -/
lemma name?_resolve_split_iff {target : Option String} {defined : List String} {own : String}
    (split : Name.split reference = (pre, own)) :
    (resolve target defined n reference).name? = some name ↔ own = name ∧ n.uriOf? pre = target ∧
      (pre ≠ none → target ≠ none) ∧ target ≠ some Namespace.xsd ∧ own ∈ defined := by
  have nothing : none ≠ some name := (Option.some_ne_none name).symm
  simp only [resolve, split]
  -- The cases are those of the check: no namespace, the vocabulary, the target namespace, and any other
  -- one.
  cases n.uriOf? pre with
  | none =>
    cases pre with
    | some pre =>
      refine iff_of_false nothing ?_
      rintro ⟨_, bare, declared, _⟩
      exact declared (Option.some_ne_none pre) bare.symm
    | none =>
      simp only
      split_ifs with holds
      · obtain ⟨mem, rfl⟩ := holds
        simp [Outcome.name?, mem]
      · refine iff_of_false nothing ?_
        rintro ⟨_, bare, _, _, mem⟩
        exact holds ⟨mem, bare.symm⟩
  | some uri =>
    simp only
    split_ifs with vocabulary known holds
    · refine iff_of_false nothing ?_
      rintro ⟨_, inTarget, _, apart, _⟩
      exact apart (vocabulary ▸ inTarget.symm)
    · refine iff_of_false nothing ?_
      rintro ⟨_, inTarget, _, apart, _⟩
      exact apart (vocabulary ▸ inTarget.symm)
    · obtain ⟨rfl, mem⟩ := holds
      simp [Outcome.name?, vocabulary, mem]
    · refine iff_of_false nothing ?_
      rintro ⟨_, inTarget, _, _, mem⟩
      exact holds ⟨inTarget, mem⟩

/-- A reference comes to a definition just if it refers to it. -/
lemma name?_resolve_iff (same : n.uriOf? = Scopes.uriOf? d) :
    (resolve (schema.attribute? "targetNamespace") (topLevel schema "complexType") n reference).name? =
      some name ↔ RefersTo schema d reference name := by
  obtain ⟨pre, own, split⟩ : ∃ pre own, Name.split reference = (pre, own) := ⟨_, _, rfl⟩
  rw [name?_resolve_split_iff split, mem_topLevel_iff, same]
  constructor
  · rintro ⟨rfl, inTarget, declared, apart, defines⟩
    exact ⟨⟨pre, split_eq_iff.mp split, inTarget, declared⟩, apart, defines⟩
  · -- A reference divides in one way, so what is accepted of it is about its own name.
    rintro ⟨⟨pre', divides, inTarget, declared⟩, apart, defines⟩
    obtain ⟨rfl, rfl⟩ := Prod.mk.inj (split.symm.trans (split_eq_iff.mpr divides))
    exact ⟨rfl, inTarget, declared, apart, defines⟩

/-- The outcomes of a schema are those of its references, one after another. -/
lemma forall₂_outcomes {root : Node} (parsed : Strict.parse xsd = .ok root) :
    List.Forall₂ (fun r o => ∃ n : Node, n.uriOf? = Scopes.uriOf? r.1 ∧
      resolve (root.attribute? "targetNamespace") (topLevel root "complexType") n r.2 = o)
      (references xsd root) (root.all.flatMap (outcomesIn root)) := by
  have each (n : Node) (d : Scopes) (same : n.uriOf? = Scopes.uriOf? d) :
      List.Forall₂ (fun r o => ∃ n : Node, n.uriOf? = Scopes.uriOf? r.1 ∧
        resolve (root.attribute? "targetNamespace") (topLevel root "complexType") n r.2 = o)
        ((referencesAt n).map (d, ·)) (outcomesIn root n) := by
    rw [outcomesIn, outcomesAt, ← referencesAt, List.forall₂_map_left_iff,
      List.forall₂_map_right_iff, List.forall₂_same]
    exact fun _ _ => ⟨n, same, rfl⟩
  have same := Strict.uriOf?_all_of_parse parsed
  rw [references]
  generalize root.all = ns at same ⊢
  generalize declarations xsd = ds at same ⊢
  induction ns generalizing ds with
  | nil => exact .nil
  | cons n ns ih =>
    cases ds with
    | nil => cases same
    | cons d ds =>
      obtain ⟨first, rest⟩ := List.cons.inj same
      exact List.rel_append (each n d first) (ih ds rest)

/-! ## Names that are defined twice -/

/-- A name is repeated once, if it stands in a list twice or more. -/
lemma count_repeats (seen names : List String) (name : String) :
    (repeats seen names).count name =
      if seen.count name ≤ 1 ∧ 2 ≤ seen.count name + names.count name then 1 else 0 := by
  induction names generalizing seen with
  | nil =>
    rw [if_neg (by simp only [List.count_nil]; omega)]
    rfl
  | cons n names ih =>
    have rest := ih (n :: seen)
    rw [repeats]
    -- A name counts as repeated where it has been seen just once before.
    by_cases here : n = name
    · subst here
      rw [List.count_cons_self] at rest ⊢
      by_cases once : seen.count n = 1
      · rw [if_pos once, List.count_cons_self, rest]
        split_ifs <;> omega
      · rw [if_neg once, rest]
        split_ifs <;> omega
    · rw [List.count_cons_of_ne here] at rest ⊢
      rw [← rest]
      split_ifs with once
      · rw [List.count_cons_of_ne here]
      · rfl

/-- Among the names that recur, each one is listed once. -/
lemma count_repeats_nil (names : List String) (name : String) :
    (repeats [] names).count name = if 2 ≤ names.count name then 1 else 0 := by
  rw [count_repeats, List.count_nil, Nat.zero_add]
  simp

/-- Two messages with different first characters are different. -/
lemma append_ne {lead lead' : String} {a b : Char} (first : lead.toList.head? = some a)
    (first' : lead'.toList.head? = some b) (apart : a ≠ b) (s t : String) :
    lead ++ s ≠ lead' ++ t := by
  intro same
  have heads := congrArg (fun text : String => text.toList.head?) same
  simp only [String.toList_append, List.head?_append, first, first', Option.some_or] at heads
  exact apart (Option.some.inj heads)

/-- A message that a name is defined twice is about that name, and no other message reads so. -/
lemma message_eq_iff {f : Finding} (name : String) (about : (∃ name, f = .definedTwice name) ∨
    ∃ reference, f.reference? = some reference) :
    f.message = (Finding.definedTwice name).message ↔ f = .definedTwice name := by
  have text (name : String) : (Finding.definedTwice name).message =
      "complex type '" ++ (name ++ "' is defined more than once") :=
    String.append_assoc
  have refers (reference tail : String) : "reference '" ++ reference ++ tail ≠
      (Finding.definedTwice name).message := by
    rw [text, String.append_assoc]
    exact append_ne (by decide) (by decide) (show 'r' ≠ 'c' by decide) _ _
  cases f with
  | definedTwice other =>
    refine ⟨fun same => ?_, fun same => same ▸ rfl⟩
    rw [text, text, String.append_right_inj, String.append_left_inj] at same
    rw [same]
  | undeclaredPrefix reference pre =>
    have parts : (Finding.undeclaredPrefix reference pre).message =
        "reference '" ++ reference ++ ("' uses undeclared prefix '" ++ pre ++ "'") := by
      rw [← String.append_assoc, ← String.append_assoc]
      rfl
    exact iff_of_false (parts ▸ refers reference _) nofun
  | unresolved reference => exact iff_of_false (refers reference _) nofun
  | notBuiltIn reference =>
    have parts : (Finding.notBuiltIn reference).message =
        "'" ++ (reference ++ "' is not a built-in XSD type") := String.append_assoc
    refine iff_of_false ?_ nofun
    rw [parts, text]
    exact append_ne (by decide) (by decide) (show '\'' ≠ 'c' by decide) _ _
  | _ => obtain ⟨_, same⟩ | ⟨_, same⟩ := about <;> cases same

/-! ## Warnings -/

/-- Names come in the order of their first definitions. -/
lemma pairwise_topLevel (nodes : List Node) :
    (nodes.filterMap (declared? "complexType")).eraseDups.Pairwise fun a b =>
      nodes.findIdx (isDefinition a) < nodes.findIdx (isDefinition b) := by
  -- A name that comes last is defined by the last element first; the others are defined before.
  induction nodes using List.reverseRecOn with
  | nil => exact .nil
  | append_singleton nodes n ih =>
    have before (name : String) (mem : name ∈ nodes.filterMap (declared? "complexType")) :
        nodes.findIdx (isDefinition name) < nodes.length := by
      obtain ⟨m, known, defines⟩ := List.mem_filterMap.mp mem
      exact List.findIdx_lt_length.mpr ⟨m, known, declared?_eq_some_iff.mp defines⟩
    have kept : (nodes.filterMap (declared? "complexType")).eraseDups.Pairwise fun a b =>
        (nodes ++ [n]).findIdx (isDefinition a) < (nodes ++ [n]).findIdx (isDefinition b) := by
      refine ih.imp_of_mem fun {a b} mem mem' less => ?_
      rw [List.findIdx_append, List.findIdx_append, if_pos (before a (List.mem_eraseDups.mp mem)),
        if_pos (before b (List.mem_eraseDups.mp mem'))]
      exact less
    rw [List.filterMap_append]
    cases declares : declared? "complexType" n with
    | none =>
      rw [List.filterMap_cons_none declares, List.filterMap_nil, List.append_nil]
      exact kept
    | some name =>
      rw [List.filterMap_cons_some declares, List.filterMap_nil, FirstSeen.eraseDups_concat]
      split_ifs with old
      · exact kept
      · refine List.pairwise_append.mpr ⟨kept, List.pairwise_singleton _ _, fun a mem b last => ?_⟩
        obtain rfl := List.mem_singleton.mp last
        have known := before a (List.mem_eraseDups.mp mem)
        have new : ¬ nodes.findIdx (isDefinition b) < nodes.length := fun less => by
          obtain ⟨m, at_m, defines⟩ := List.findIdx_lt_length.mp less
          exact old (List.mem_filterMap.mpr ⟨m, at_m, declared?_eq_some_iff.mpr defines⟩)
        rw [List.findIdx_append, List.findIdx_append, if_pos known, if_neg new]
        omega

/-! ## The report -/

/-- The names that have been found by references are those to which some reference refers. -/
lemma mem_referenced_iff {root : Node} (parsed : Strict.parse xsd = .ok root) :
    name ∈ (root.all.flatMap (outcomesIn root)).filterMap Outcome.name? ↔
      ∃ r ∈ references xsd root, RefersTo root r.1 r.2 name := by
  rw [List.mem_filterMap]
  refine (exists_mem_iff_of_forall₂ (forall₂_outcomes parsed) fun r o settled => ?_).symm
  obtain ⟨n, same, rfl⟩ := settled
  exact (name?_resolve_iff same).symm

/-- What is found at references is about references. -/
lemma reference?_of_found {root : Node} {f : Finding}
    (found : f ∈ (root.all.flatMap (outcomesIn root)).filterMap Outcome.finding?) :
    ∃ reference, f.reference? = some reference := by
  obtain ⟨o, outcome, finding⟩ := List.mem_filterMap.mp found
  obtain ⟨n, _, here⟩ := List.mem_flatMap.mp outcome
  obtain ⟨reference, _, rfl⟩ := List.mem_map.mp here
  exact ⟨reference, reference?_of_resolve finding⟩

/-- Of the errors of a schema, one says that a name is defined twice, if it is. -/
lemma countP_errors (root : Node) (name : String) :
    (ofRoot root).errors.countP (·.message == (Finding.definedTwice name).message) =
      if 2 ≤ root.children.countP (isDefinition name) then 1 else 0 := by
  have twice : ((repeats [] (topLevel root "complexType")).map Finding.definedTwice).countP
      (·.message == (Finding.definedTwice name).message) =
        (repeats [] (topLevel root "complexType")).count name := by
    rw [List.countP_map, List.count]
    refine List.countP_congr fun other _ => ?_
    rw [Function.comp_apply, beq_iff_eq, beq_iff_eq, message_eq_iff name (.inl ⟨other, rfl⟩),
      Finding.definedTwice.injEq]
  have others : ((root.all.flatMap (outcomesIn root)).filterMap Outcome.finding?).countP
      (·.message == (Finding.definedTwice name).message) = 0 := by
    refine List.countP_eq_zero.mpr fun f found same => ?_
    obtain ⟨reference, about⟩ := reference?_of_found found
    obtain rfl := (message_eq_iff name (.inr ⟨reference, about⟩)).mp (beq_iff_eq.mp same)
    cases about
  rw [ofRoot_eq, List.countP_append, twice, others, count_repeats_nil, count_topLevel,
    Nat.add_zero]

/-- The report on a schema that is read counts each problem once. -/
theorem tallies_ofRoot {root : Node} (parsed : Strict.parse xsd = .ok root) :
    Tallies xsd root (ofRoot root) where
  definedTwice := countP_errors root
  atReferences := by
    refine ⟨(repeats [] (topLevel root "complexType")).map .definedTwice,
      (root.all.flatMap (outcomesIn root)).map Outcome.finding?, ?_, fun f mem => ?_, ?_⟩
    · rw [ofRoot_eq, List.reduceOption, List.filterMap_map]
      rfl
    · obtain ⟨name, _, rfl⟩ := List.mem_map.mp mem
      exact ⟨name, rfl⟩
    · rw [List.forall₂_map_right_iff]
      refine (forall₂_outcomes parsed).imp fun r o settled => ?_
      obtain ⟨n, _, rfl⟩ := settled
      exact fun f found => reference?_of_resolve found
  neverReferenced := by
    refine ⟨_, congrArg Report.warnings (ofRoot_eq root), (pairwise_topLevel _).filter _,
      fun name => ?_⟩
    rw [List.mem_filter, List.mem_eraseDups, Bool.not_eq_true', ← Bool.not_eq_true,
      List.contains_iff_mem, mem_referenced_iff parsed, mem_topLevel_iff]
    simp only [not_exists, not_and]

/-! ## The order of the top level -/

variable {root root' : Node}

/-- What a reference comes to depends on which names are defined, and not on their order. -/
lemma resolve_congr {defined defined' : List String} (perm : defined.Perm defined')
    (target : Option String) (n : Node) (reference : String) :
    resolve target defined n reference = resolve target defined' n reference := by
  have same (name : String) : name ∈ defined ↔ name ∈ defined' := perm.mem_iff
  simp only [resolve, same]

namespace Rearranged

/-- The same names are declared at the top level, in some order. -/
lemma topLevel (h : Rearranged root root') (kind : String) :
    (topLevel root' kind).Perm (topLevel root kind) :=
  h.perm.filterMap _

/-- References come to the same, one after another in some order. -/
lemma outcomes (h : Rearranged root root') :
    (root'.all.flatMap (outcomesIn root')).Perm (root.all.flatMap (outcomesIn root)) := by
  have target : root'.attribute? "targetNamespace" = root.attribute? "targetNamespace" := by
    rw [h.same]
    rfl
  have each : outcomesIn root' = outcomesIn root := by
    funext n
    unfold outcomesIn outcomesAt
    rw [target]
    exact List.map_congr_left fun r _ => resolve_congr (h.topLevel "complexType") _ n r
  have above : outcomesIn root root' = outcomesIn root root := by
    rw [h.same]
    rfl
  rw [Node.all_eq_inOrder, Node.all_eq_inOrder, Node.inOrder_eq, Node.inOrder_eq, each,
    List.flatMap_cons, List.flatMap_cons, above, Node.inOrderAll_eq_flatMap,
    Node.inOrderAll_eq_flatMap]
  exact ((h.perm.flatMap_right _).flatMap_right _).append_left _

/-- What is found is the same, in some order. -/
lemma perm_ofRoot (h : Rearranged root root') :
    (ofRoot root').errors.Perm (ofRoot root).errors ∧
      (ofRoot root').warnings.Perm (ofRoot root).warnings := by
  have types := h.topLevel "complexType"
  have outcomes := h.outcomes
  rw [ofRoot_eq, ofRoot_eq]
  constructor
  · have twice : (repeats [] (Check.topLevel root' "complexType")).Perm
        (repeats [] (Check.topLevel root "complexType")) := by
      rw [List.perm_iff_count]
      intro name
      rw [count_repeats_nil, count_repeats_nil, types.count_eq]
    exact (twice.map _).append (outcomes.filterMap _)
  · refine List.Perm.map _ ?_
    have nodup (names : List String) (p : String → Bool) : (names.eraseDups.filter p).Nodup :=
      (FirstSeen.nodup_eraseDups names).filter p
    rw [List.perm_ext_iff_of_nodup (nodup _ _) (nodup _ _)]
    intro name
    rw [List.mem_filter, List.mem_filter, List.mem_eraseDups, List.mem_eraseDups, types.mem_iff,
      (outcomes.filterMap Outcome.name?).contains_eq]

end Rearranged

/-- The report on a schema that is read counts each problem once, and if the top level is rearranged,
the same is found in some order. -/
theorem schema_tallies {xsd : String} {root : Node} (parsed : Strict.parse xsd = .ok root)
    (isSchema : root.localName = "schema" ∧ root.uri = some Namespace.xsd) :
    Check.schema xsd = ofRoot root ∧ Tallies xsd root (Check.schema xsd) ∧
      ∀ root', Rearranged root root' →
        (ofRoot root').isValid = (ofRoot root).isValid ∧
          (ofRoot root').errors.Perm (ofRoot root).errors ∧
          (ofRoot root').warnings.Perm (ofRoot root).warnings ∧
          ∀ xsd', Strict.parse xsd' = .ok root' → Check.schema xsd' = ofRoot root' := by
  have report := schema_eq parsed isSchema
  refine ⟨report, report ▸ tallies_ofRoot parsed, fun root' h => ?_⟩
  have isSchema' : root'.localName = "schema" ∧ root'.uri = some Namespace.xsd := by
    rw [h.same]
    exact isSchema
  obtain ⟨errors, warnings⟩ := h.perm_ofRoot
  exact ⟨errors.isEmpty_eq, errors, warnings, fun xsd' parsed' => schema_eq parsed' isSchema'⟩

/-- A type that is defined three times, the first time behind a reference to it, a type to which only
another namespace refers, and a reference by a prefix that nothing declares. -/
theorem schema_tallies_thrice :
    let xsd := "<xs:schema xmlns:xs='http://www.w3.org/2001/XMLSchema' xmlns:t='u' targetNamespace='u'>" ++
      "<xs:element name='a' type='t:T'/><xs:complexType name='T'/><xs:complexType name='U'>" ++
      "<xs:attribute name='b' xmlns:t='v' type='t:U'/></xs:complexType><xs:complexType name='T'/>" ++
      "<xs:element name='c' type='q:T'/><xs:complexType name='T'/></xs:schema>"
    ∃ root, Strict.parse xsd = .ok root ∧
      (root.localName = "schema" ∧ root.uri = some Namespace.xsd) ∧
      Check.schema xsd = {
        errors := [.definedTwice "T", .unresolved "t:U", .undeclaredPrefix "q:T" "q"]
        warnings := [.neverReferenced "U"] } ∧
      Check.schema xsd = ofRoot root ∧ Tallies xsd root (Check.schema xsd) ∧
      ∀ root', Rearranged root root' →
        (ofRoot root').isValid = (ofRoot root).isValid ∧
          (ofRoot root').errors.Perm (ofRoot root).errors ∧
          (ofRoot root').warnings.Perm (ofRoot root).warnings ∧
          ∀ xsd', Strict.parse xsd' = .ok root' → Check.schema xsd' = ofRoot root' := by
  intro xsd
  have shown : (Strict.parse xsd).toOption.any (fun root =>
      (root.localName = "schema" ∧ root.uri = some Namespace.xsd) ∧ ofRoot root = {
        errors := [.definedTwice "T", .unresolved "t:U", .undeclaredPrefix "q:T" "q"]
        warnings := [.neverReferenced "U"] }) = true := by
    decide +kernel
  cases parsed : Strict.parse xsd with
  | error fault => rw [parsed] at shown; cases shown
  | ok root =>
    rw [parsed] at shown
    obtain ⟨isSchema, report⟩ := of_decide_eq_true shown
    have tallies := schema_tallies parsed isSchema
    exact ⟨root, rfl, isSchema, tallies.1.trans report, tallies⟩

end XsdInfer.Check
