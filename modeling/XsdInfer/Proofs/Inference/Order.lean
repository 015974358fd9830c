import XsdInfer.Proofs.Inference.Occurrences
import XsdInfer.Proofs.Name.TypeNames

/-!
# The order of a sample

A tree is rearranged (`Element.Rearranged`), if at any of its elements the attributes and the children
are permuted. Main statement: what a schema says of a key does not depend on the order of a sample
(`infer_of_rearranged`). A rearranged tree has the same places but for their order
(`perm_flatMap_placesFrom`), so that of each name the same is observed, in whatever order, and the
common type of observations does not depend on their order.
-/

namespace XsdInfer

open Element (Place Paired placesFrom)
open TypeKey (keyAt typeKeys occurrences)

namespace Element

/-- A tree and the same tree with attributes and children permuted at any of its elements. -/
inductive Rearranged : Element → Element → Prop where
  | intro {e e' : Element} {between : List Element} :
    e.name = e'.name →
    e.attributes.entries.Perm e'.attributes.entries →
    e.text = e'.text →
    e.namespaces = e'.namespaces →
    List.Forall₂ Rearranged e.children between →
    between.Perm e'.children →
    Rearranged e e'

namespace Rearranged

variable {e e' : Element}

/-- Rearranged elements have the same name. -/
lemma name (h : e.Rearranged e') : e.name = e'.name := by
  cases h with
  | intro name => exact name

/-- Rearranged elements have the same local name. -/
lemma localName (h : e.Rearranged e') : e.localName = e'.localName :=
  congrArg Name.localPart h.name

/-- Places that are rearranged have the same key. -/
lemma keyAt_of_paired {p p' : Place} (h : Paired Rearranged p p') {scope : Scope} :
    keyAt scope p = keyAt scope p' :=
  TypeKey.keyAt_eq_of_paired (fun _ _ near => near.localName) h scope

/-- Rearranged elements have the same text. -/
lemma text (h : e.Rearranged e') : e.text = e'.text := by
  cases h with
  | intro _ _ text => exact text

/-- Rearranged elements have the same namespace. -/
lemma namespace? (h : e.Rearranged e') : e.namespace? = e'.namespace? := by
  cases h with
  | intro name _ _ namespaces =>
    rw [Element.namespace?, Element.namespace?, qualifier?, qualifier?, name, namespaces]

/-- Rearranged elements have children of the same names, in some order. -/
lemma childNames (h : e.Rearranged e') : e.childNames.Perm e'.childNames := by
  cases h with
  | @intro _ _ between _ _ _ _ below order =>
    have names : e.childNames = between.map Element.localName :=
      map_localName_eq (fun _ _ => Rearranged.localName) below
    rw [names]
    exact order.map _

/-- The same children of rearranged elements repeat. -/
lemma repeats (h : e.Rearranged e') (n : String) : e.repeats n = e'.repeats n := by
  rw [Element.repeats, Element.repeats, h.childNames.count_eq]

/-- Rearranged elements have attributes of the same types, in some order. -/
lemma attributeTypes (h : e.Rearranged e') (n : String) :
    (e.attributeTypes n).Perm (e'.attributeTypes n) := by
  cases h with
  | intro _ attributes => exact (attributes.filter _).map _

end Rearranged

variable {β : Type} {obs : Place → List β}

mutual

/-- What is observed at the places of a rearranged tree is the same, but for the order. -/
theorem perm_flatMap_placesFrom (same : ∀ p p', Paired Rearranged p p' → (obs p).Perm (obs p'))
    {path path' : List Element} (above : path.head?.map localName = path'.head?.map localName)
    {e e' : Element} (h : e.Rearranged e') :
    ((placesFrom path e).flatMap obs).Perm ((placesFrom path' e').flatMap obs) := by
  have here := same (path, e) (path', e') ⟨above, h⟩
  have around : (e :: path).head?.map localName = (e' :: path').head?.map localName :=
    congrArg some h.localName
  rw [placesFrom_eq path' e', List.flatMap_cons]
  obtain ⟨name, attributes, text, children, namespaces⟩ := e
  cases h with
  | intro _ _ _ _ below order =>
    rw [placesFrom, List.flatMap_cons]
    apply here.append
    apply (perm_flatMap_placesFromAll same around below).trans
    rw [placesFromAll_eq_flatMap]
    exact (order.flatMap_right _).flatMap_right _
termination_by structural e

/-- So it is for trees that are rearranged one by one. -/
theorem perm_flatMap_placesFromAll (same : ∀ p p', Paired Rearranged p p' → (obs p).Perm (obs p'))
    {path path' : List Element} (above : path.head?.map localName = path'.head?.map localName)
    {es es' : List Element} (h : List.Forall₂ Rearranged es es') :
    ((placesFromAll path es).flatMap obs).Perm ((placesFromAll path' es').flatMap obs) := by
  cases es with
  | nil =>
    cases h
    exact .refl _
  | cons e es =>
    cases h with
    | cons first rest =>
      rw [placesFromAll, placesFromAll, List.flatMap_append, List.flatMap_append]
      apply (perm_flatMap_placesFrom same above first).append
      exact perm_flatMap_placesFromAll same above rest
termination_by structural es

end

end Element

namespace Element.Rearranged

variable {β : Type} {root root' : Element} (h : root.Rearranged root') (scope : Scope)

include h

/-- What is observed at the places of rearranged trees is the same, in some order. -/
lemma perm_flatMap_places {obs : Place → List β}
    (same : ∀ p p', Paired Rearranged p p' → (obs p).Perm (obs p')) :
    (root.places.flatMap obs).Perm (root'.places.flatMap obs) := by
  rw [places_eq, places_eq]
  exact perm_flatMap_placesFrom same rfl h

/-- Rearranged trees have types for the same keys. -/
lemma mem_typeKeys_iff (k : TypeKey) : k ∈ typeKeys scope root ↔ k ∈ typeKeys scope root' := by
  have keys : (root.places.flatMap fun p => [keyAt scope p]).Perm
      (root'.places.flatMap fun p => [keyAt scope p]) := by
    exact h.perm_flatMap_places fun p p' paired => by rw [keyAt_of_paired paired]
  rw [TypeKey.mem_typeKeys_iff_keyAt, TypeKey.mem_typeKeys_iff_keyAt]
  simpa [eq_comm] using keys.mem_iff (a := k)

/-- The keys are the same, but for the order. -/
lemma perm_typeKeys : (typeKeys scope root).Perm (typeKeys scope root') :=
  (List.perm_ext_iff_of_nodup (TypeKey.nodup_typeKeys scope root)
    (TypeKey.nodup_typeKeys scope root')).mpr (h.mem_typeKeys_iff scope)

/-- What is observed of a key is the same, but for the order. -/
lemma perm_flatMap_occurrences {f : Element → List β}
    (same : ∀ e e', Rearranged e e' → (f e).Perm (f e')) (k : TypeKey) :
    ((occurrences scope k root.places).flatMap f).Perm
      ((occurrences scope k root'.places).flatMap f) := by
  have flat (ps : List Place) : (occurrences scope k ps).flatMap f =
      ps.flatMap fun p => if keyAt scope p = k then f p.2 else [] := by
    induction ps with
    | nil => rfl
    | cons p ps ih =>
      rw [List.flatMap_cons, ← ih]
      by_cases here : keyAt scope p = k <;> simp [occurrences, here]
  rw [flat, flat]
  refine h.perm_flatMap_places fun p p' paired => ?_
  rw [keyAt_of_paired paired]
  split
  next => exact same _ _ paired.here
  next => exact .refl _

/-- What is the same of rearranged elements is so of all elements of a key, in some order. -/
lemma perm_map_occurrences {f : Element → β} (same : ∀ e e', Rearranged e e' → f e = f e')
    (k : TypeKey) :
    ((occurrences scope k root.places).map f).Perm ((occurrences scope k root'.places).map f) := by
  rw [List.map_eq_flatMap, List.map_eq_flatMap]
  exact h.perm_flatMap_occurrences scope (fun e e' near => by rw [same e e' near]) k

/-- What some element of a key has, some element has after the rearrangement. -/
lemma any_occurrences {f : Element → Bool} (same : ∀ e e', Rearranged e e' → f e = f e')
    (k : TypeKey) :
    (occurrences scope k root.places).any f = (occurrences scope k root'.places).any f := by
  have values : ((occurrences scope k root.places).map f).any id =
      ((occurrences scope k root'.places).map f).any id :=
    (h.perm_map_occurrences scope same k).any_eq
  rwa [List.any_map, List.any_map] at values

end Element.Rearranged

/-! ## What schemas say of a key -/

/-- What is said of a child, where the types of the schema have given keys. -/
def ChildDeclaration.keyed (keys : List TypeKey) (d : ChildDeclaration) :
    Option TypeKey × Nat × MaxOccurs :=
  (keys[d.target]?, d.minOccurs, d.maxOccurs)

/-- Two types that say the same, but for their names, in whatever order. The types of their schemas
have given keys. -/
structure SchemaType.Agrees (keys keys' : List TypeKey) (t t' : SchemaType) : Prop where
  name : t.name = t'.name
  kind : t.kind = t'.kind
  primitive : t.primitive = t'.primitive
  isMixed : t.isMixed = t'.isMixed
  attributes : ∀ n, t.attributes.get? n = t'.attributes.get? n
  children : ∀ n, (t.children.get? n).map (ChildDeclaration.keyed keys) =
    (t'.children.get? n).map (ChildDeclaration.keyed keys')

/-- A type has the name that its key makes, or that name with a number, if another type of the
schema has it. -/
def Schema.NamedFor (s : Schema) (k : TypeKey) (t : SchemaType) : Prop :=
  t.typeName = k.baseName ∨
    k.baseName ∈ s.types.map SchemaType.typeName ∧
      ∃ n ≥ 2, t.typeName = Name.Pool.numbered k.baseName n

/-- Two schemas that say the same of each key. The types of the schemas have given keys. -/
structure Schema.Agrees (keys keys' : List TypeKey) (s s' : Schema) : Prop where
  rootName : s.rootName = s'.rootName
  targetNamespace : s.targetNamespace = s'.targetNamespace
  root : keys[s.root]? = keys'[s'.root]?
  mem_iff : ∀ k, k ∈ keys ↔ k ∈ keys'
  types : ∀ (i i' : Nat) (k : TypeKey), keys[i]? = some k → keys'[i']? = some k →
    ∃ t t', s.types[i]? = some t ∧ s'.types[i']? = some t' ∧ t.Agrees keys keys' t' ∧
      s.NamedFor k t ∧ s'.NamedFor k t'

namespace Evidence

/-- Two pieces of evidence that say the same of each name. -/
structure Agrees (keys keys' : List TypeKey) (v v' : Evidence) : Prop where
  attributes : ∀ n, v.attributes.get? n = v'.attributes.get? n
  children : ∀ n, (v.children.get? n).map (fun c => (keys[c.target]?, c.repeated)) =
    (v'.children.get? n).map (fun c => (keys'[c.target]?, c.repeated))
  text : v.text = v'.text
  hasText : v.hasText = v'.hasText

variable {keys keys' : List TypeKey} {v v' : Evidence} (h : v.Agrees keys keys' v')

include h

/-- Evidence that agrees has attributes on both sides or on neither. -/
lemma Agrees.isEmpty_attributes : v.attributes.entries.isEmpty = v'.attributes.entries.isEmpty := by
  rw [Bool.eq_iff_iff, List.isEmpty_iff, List.isEmpty_iff, Table.entries_eq_nil_iff,
    Table.entries_eq_nil_iff]
  simp only [h.attributes]

/-- Evidence that agrees has children on both sides or on neither. -/
lemma Agrees.isEmpty_children : v.children.entries.isEmpty = v'.children.entries.isEmpty := by
  have absent (n : String) : v.children.get? n = none ↔ v'.children.get? n = none := by
    rw [← Option.map_eq_none_iff, h.children, Option.map_eq_none_iff]
  rw [Bool.eq_iff_iff, List.isEmpty_iff, List.isEmpty_iff, Table.entries_eq_nil_iff,
    Table.entries_eq_nil_iff]
  simp only [absent]

/-- Evidence that agrees makes types of the same kind. -/
lemma Agrees.kind : v.kind = v'.kind := by
  rw [Evidence.kind, Evidence.kind, h.isEmpty_attributes, h.isEmpty_children]

/-- Evidence that agrees makes types that agree. -/
lemma Agrees.schemaType (tag name name' : String) :
    (v.schemaType tag name).Agrees keys keys' (v'.schemaType tag name') where
  name := rfl
  kind := h.kind
  primitive := by
    show v.primitive? = v'.primitive?
    rw [primitive?, primitive?, h.kind, h.isEmpty_children, h.text, h.hasText]
  isMixed := by
    show (_ && _ && _) = (_ && _ && _)
    rw [h.kind, h.isEmpty_children, h.hasText]
  attributes := h.attributes
  children := by
    intro n
    rw [get?_children_schemaType, get?_children_schemaType, Option.map_map, Option.map_map]
    have said := congrArg (Option.map fun x : Option TypeKey × Bool =>
      (x.1, 0, if x.2 then MaxOccurs.unbounded else .bounded 1)) (h.children n)
    rwa [Option.map_map, Option.map_map] at said

end Evidence

/-- The evidence of a key does not depend on the order of a sample. -/
lemma Element.Rearranged.agrees_evidenceOf {root root' : Element} (h : root.Rearranged root')
    (scope : Scope) (k : TypeKey) :
    (Schema.evidenceOf scope (typeKeys scope root) root.places k).Agrees
      (typeKeys scope root) (typeKeys scope root')
      (Schema.evidenceOf scope (typeKeys scope root') root'.places k) where
  attributes := by
    intro n
    rw [Schema.evidenceOf, Schema.evidenceOf, Evidence.get?_attributes_ofElements,
      Evidence.get?_attributes_ofElements]
    exact Primitive.joinAll_perm
      (h.perm_flatMap_occurrences scope (fun e e' near => near.attributeTypes n) k)
  children := by
    intro n
    have names := h.perm_flatMap_occurrences scope (fun e e' near => near.childNames) k
    rw [Schema.evidenceOf, Schema.evidenceOf, Evidence.get?_children_ofElements,
      Evidence.get?_children_ofElements, h.any_occurrences scope (fun e e' near => near.repeats n)]
    -- The keys are numbered otherwise in the other tree, but both numbers of a child are those of its key.
    by_cases child : n ∈ (occurrences scope k root.places).flatMap Element.childNames
    · have child' := names.mem_iff.mp child
      rw [if_pos child, if_pos child']
      simp only [Option.map_some]
      rw [List.getElem?_idxOf (TypeKey.ofNames_mem_typeKeys child),
        List.getElem?_idxOf (TypeKey.ofNames_mem_typeKeys child')]
    · rw [if_neg child, if_neg fun child' => child (names.mem_iff.mpr child')]
      rfl
  text := by
    rw [Schema.evidenceOf, Schema.evidenceOf, Evidence.text_ofElements, Evidence.text_ofElements]
    apply Primitive.joinAll_perm
    exact h.perm_map_occurrences scope
      (fun e e' near => by rw [Element.textType, Element.textType, near.text]) k
  hasText := by
    rw [Schema.evidenceOf, Schema.evidenceOf, Evidence.hasText_ofElements,
      Evidence.hasText_ofElements]
    exact h.any_occurrences scope
      (fun e e' near => by rw [Element.hasText, Element.hasText, near.text]) k

/-- The type of a key in the described schema, with its name. -/
lemma Schema.exists_type_described {scope : Scope} {root : Element} {i : Nat} {k : TypeKey}
    (h : (typeKeys scope root)[i]? = some k) :
    ∃ name, (described scope root).types[i]? =
        some ((evidenceOf scope (typeKeys scope root) root.places k).schemaType k.tag name) ∧
      (described scope root).NamedFor k
        ((evidenceOf scope (typeKeys scope root) root.places k).schemaType k.tag name) := by
  obtain ⟨name, named, type⟩ := getElem?_types_described h
  refine ⟨name, type, ?_⟩
  have both : (k, name) ∈ (typeKeys scope root).zip (typeNames (typeKeys scope root)) :=
    List.mem_of_getElem? (List.getElem?_zip_eq_some.mpr ⟨h, named⟩)
  rw [NamedFor, map_typeName_described]
  exact typeName_cases both

/-- Where there is room for the types of a tree, a tree that is rearranged has a schema that says the
same of each key. -/
theorem infer_of_rearranged {root root' : Element} (h : root.Rearranged root') {scope : Scope}
    {limits : Limits} (room : (typeKeys scope root).length ≤ limits.types) :
    ∃ s s', Schema.infer scope limits root = .ok s ∧ Schema.infer scope limits root' = .ok s' ∧
      s.Describes scope root ∧ s'.Describes scope root' ∧
      s.Agrees (typeKeys scope root) (typeKeys scope root') s' := by
  have keys := h.perm_typeKeys scope
  refine ⟨Schema.described scope root, Schema.described scope root', ?_, ?_,
    Schema.described_describes scope root, Schema.described_describes scope root', ?_⟩
  · rw [Schema.infer_eq, if_pos room]
  · rw [Schema.infer_eq, if_pos (keys.length_eq ▸ room)]
  · refine {
      rootName := h.name
      targetNamespace := h.namespace?
      root := ?_
      mem_iff := h.mem_typeKeys_iff scope
      types := fun i i' k at_i at_i' => ?_ }
    · have roots : Paired Element.Rearranged ([], root) ([], root') := ⟨rfl, h⟩
      have first : keyAt scope ([], root) = keyAt scope ([], root') :=
        Element.Rearranged.keyAt_of_paired roots
      exact (TypeKey.typeKeys_zero scope root).trans
        (first ▸ (TypeKey.typeKeys_zero scope root').symm)
    · obtain ⟨name, type, named⟩ := Schema.exists_type_described at_i
      obtain ⟨name', type', named'⟩ := Schema.exists_type_described at_i'
      exact ⟨_, _, type, type', (h.agrees_evidenceOf scope k).schemaType k.tag name name', named,
        named'⟩

/-- Two keys make the same name, and which of them has it with a number depends on the order. -/
theorem infer_of_rearranged_clashing :
    let outer : Element := { name := "aB", children := [{ name := "c", text := some "1" }] }
    let inner : Element := { name := "a", children := [
      { name := "bC", attributes := ⟨[("k", "2"), ("l", "x")]⟩ }] }
    let inner' : Element := { name := "a", children := [
      { name := "bC", attributes := ⟨[("l", "x"), ("k", "2")]⟩ }] }
    let root : Element := { name := "r", children := [outer, inner] }
    let root' : Element := { name := "r", children := [inner', outer] }
    root.Rearranged root' ∧
      (typeKeys .parent root).length ≤ ({ types := 5 } : Limits).types ∧
      ∃ s s', Schema.infer .parent { types := 5 } root = .ok s ∧
        Schema.infer .parent { types := 5 } root' = .ok s' ∧
        s.Describes .parent root ∧ s'.Describes .parent root' ∧
        s.Agrees (typeKeys .parent root) (typeKeys .parent root') s' := by
  intro outer inner inner' root root'
  have leaf : Element.Rearranged { name := "c", text := some "1" } { name := "c", text := some "1" } :=
    .intro rfl (.refl _) rfl rfl .nil (.refl _)
  have attributes : Element.Rearranged { name := "bC", attributes := ⟨[("k", "2"), ("l", "x")]⟩ }
      { name := "bC", attributes := ⟨[("l", "x"), ("k", "2")]⟩ } :=
    .intro rfl (.swap _ _ _) rfl rfl .nil (.refl _)
  have first : outer.Rearranged outer :=
    .intro rfl (.refl _) rfl rfl (.cons leaf .nil) (.refl _)
  have second : inner.Rearranged inner' :=
    .intro rfl (.refl _) rfl rfl (.cons attributes .nil) (.refl _)
  have rearranged : root.Rearranged root' :=
    .intro rfl (.refl _) rfl rfl (.cons first (.cons second .nil)) (.swap _ _ _)
  have room : (typeKeys .parent root).length ≤ ({ types := 5 } : Limits).types := by
    decide +kernel
  exact ⟨rearranged, room, infer_of_rearranged rearranged room⟩

end XsdInfer
