import XsdInfer.Proofs.Inference.Occurrences

/-!
# The growth of a sample

A tree is extended (`Element.ExtendedBy`), if at any of its elements attributes and children are
added. Main statement: the schema of an extended tree keeps each key of the old one, and says of it
what the old one says, or something wider (`infer_of_extendedBy`). Each place of the old tree has a
place of the new one with the same key (`Element.exists_place_of_extendedBy`), so that of each key at
least as much is observed.
-/

namespace XsdInfer

open Element (Place Paired placesFrom placesFromAll)
open TypeKey (keyAt typeKeys occurrences)

namespace Element

/-- A tree and the same tree with attributes and children added at any of its elements. -/
inductive ExtendedBy : Element → Element → Prop where
  | intro {e e' : Element} {between : List Element} :
    e.localName = e'.localName →
    e.text = e'.text →
    e.attributes.entries ⊆ e'.attributes.entries →
    List.Forall₂ ExtendedBy e.children between →
    between.Sublist e'.children →
    ExtendedBy e e'

namespace ExtendedBy

variable {e e' : Element}

/-- An element that is extended keeps its name. -/
lemma localName (h : e.ExtendedBy e') : e.localName = e'.localName := by
  cases h with
  | intro name => exact name

/-- An element that is extended keeps its text. -/
lemma text (h : e.ExtendedBy e') : e.text = e'.text := by
  cases h with
  | intro _ text => exact text

/-- An element that is extended has text if it had. -/
lemma hasText (h : e.ExtendedBy e') : e.hasText = e'.hasText := by
  rw [Element.hasText, Element.hasText, h.text]

/-- An element that is extended keeps the type of its text. -/
lemma textType (h : e.ExtendedBy e') : e.textType = e'.textType := by
  rw [Element.textType, Element.textType, h.text]

/-- An element that is extended keeps its attributes. -/
lemma attributes (h : e.ExtendedBy e') : e.attributes.entries ⊆ e'.attributes.entries := by
  cases h with
  | intro _ _ attributes => exact attributes

/-- An element that is extended keeps the types of its attributes. -/
lemma attributeTypes (h : e.ExtendedBy e') (n : String) :
    e.attributeTypes n ⊆ e'.attributeTypes n :=
  List.map_subset _ (List.filter_subset _ h.attributes)

/-- An element that is extended keeps its children, in their order. -/
lemma childNames (h : e.ExtendedBy e') : e.childNames.Sublist e'.childNames := by
  cases h with
  | @intro _ _ between _ _ _ below within =>
    have names : e.childNames = between.map Element.localName :=
      map_localName_eq (fun _ _ => ExtendedBy.localName) below
    rw [names]
    exact within.map _

/-- An element that is extended has children if it had. -/
lemma children (h : e.ExtendedBy e') (some : e.children ≠ []) : e'.children ≠ [] := by
  intro none
  have names := h.childNames
  rw [Element.childNames, Element.childNames, none, List.map_nil, List.sublist_nil,
    List.map_eq_nil_iff] at names
  exact some names

/-- A child that repeats does so when the element is extended. -/
lemma repeats (h : e.ExtendedBy e') {n : String} (two : e.repeats n = true) :
    e'.repeats n = true := by
  have many : 1 < e.childNames.count n := of_decide_eq_true two
  exact decide_eq_true (Nat.lt_of_lt_of_le many (h.childNames.count_le n))

end ExtendedBy

mutual

/-- Each place of a tree has a place of the extended tree, with the same local name above. -/
theorem exists_place_of_extendedBy {path path' : List Element}
    (above : path.head?.map localName = path'.head?.map localName) {e e' : Element}
    (h : e.ExtendedBy e') {p : Place} (mem : p ∈ placesFrom path e) :
    ∃ p' ∈ placesFrom path' e', Paired ExtendedBy p p' := by
  have around : (e :: path).head?.map localName = (e' :: path').head?.map localName :=
    congrArg some h.localName
  have here : Paired ExtendedBy (path, e) (path', e') := ⟨above, h⟩
  obtain ⟨name, attributes, text, children, namespaces⟩ := e
  cases h with
  | intro _ _ _ below within =>
    rw [placesFrom] at mem
    cases mem with
    | head => exact ⟨_, self_mem_placesFrom path' e', here⟩
    | tail _ inside =>
      obtain ⟨c, among, p', place, paired⟩ := exists_place_of_extendedByAll around below inside
      refine ⟨p', ?_, paired⟩
      exact mem_placesFrom_iff.mpr (.inr ⟨c, within.subset among, place⟩)
termination_by structural e

/-- So it is for trees that are extended one by one. -/
theorem exists_place_of_extendedByAll {path path' : List Element}
    (above : path.head?.map localName = path'.head?.map localName) {es es' : List Element}
    (h : List.Forall₂ ExtendedBy es es') {p : Place} (mem : p ∈ placesFromAll path es) :
    ∃ e' ∈ es', ∃ p' ∈ placesFrom path' e', Paired ExtendedBy p p' := by
  cases es with
  | nil => cases mem
  | cons e es =>
    cases h with
    | @cons _ e' _ es' first rest =>
      rw [placesFromAll, List.mem_append] at mem
      cases mem with
      | inl inside =>
        exact ⟨e', .head _, exists_place_of_extendedBy above first inside⟩
      | inr inside =>
        obtain ⟨c, among, found⟩ := exists_place_of_extendedByAll above rest inside
        exact ⟨c, .tail _ among, found⟩
termination_by structural es

end

namespace ExtendedBy

variable {root root' : Element} (h : root.ExtendedBy root') (scope : Scope)

include h

/-- Each place of a tree has a place of the extended tree with the same key. -/
lemma exists_place {p : Place} (mem : p ∈ root.places) :
    ∃ p' ∈ root'.places, keyAt scope p' = keyAt scope p ∧ p.2.ExtendedBy p'.2 := by
  rw [places_eq] at mem ⊢
  obtain ⟨p', place, paired⟩ := exists_place_of_extendedBy rfl h mem
  have same := TypeKey.keyAt_eq_of_paired (fun _ _ near => localName near) paired scope
  exact ⟨p', place, same.symm, paired.here⟩

/-- The keys of a tree are keys of the extended tree. -/
lemma typeKeys_subset : typeKeys scope root ⊆ typeKeys scope root' := by
  intro k mem
  obtain ⟨p, place, rfl⟩ := TypeKey.mem_typeKeys_iff_keyAt.mp mem
  obtain ⟨p', place', same, -⟩ := h.exists_place scope place
  exact TypeKey.mem_typeKeys_iff_keyAt.mpr ⟨p', place', same⟩

/-- Each occurrence of a key has an occurrence in the extended tree that extends it. -/
lemma exists_occurrence {k : TypeKey} {e : Element}
    (mem : e ∈ occurrences scope k root.places) :
    ∃ e' ∈ occurrences scope k root'.places, e.ExtendedBy e' := by
  obtain ⟨path, place, rfl⟩ := TypeKey.mem_occurrences_iff.mp mem
  obtain ⟨p', place', same, extended⟩ := h.exists_place scope place
  exact ⟨p'.2, TypeKey.mem_occurrences_iff.mpr ⟨p'.1, place', same⟩, extended⟩

end ExtendedBy

end Element

/-! ## What a wider schema says of a key -/

/-- A type and a wider one. The types of their schemas have given keys. -/
structure SchemaType.WidensTo (keys keys' : List TypeKey) (t t' : SchemaType) : Prop where
  name : t.name = t'.name
  /-- An attribute stays, with its type or as a string. -/
  attributes : ∀ n p, t.attributes.get? n = some p →
    t'.attributes.get? n = some p ∨ t'.attributes.get? n = some .string
  /-- A child stays, with a type for the same key, and may repeat if it might before. -/
  children : ∀ n d, t.children.get? n = some d → ∃ d', t'.children.get? n = some d' ∧
    (∃ k, keys[d.target]? = some k ∧ keys'[d'.target]? = some k) ∧
    (d.maxOccurs = .unbounded → d'.maxOccurs = .unbounded)
  complex : t.kind = .complex → t'.kind = .complex
  isMixed : t.isMixed = true → t'.isMixed = true
  /-- A type that stays simple has its primitive type, or is a string. -/
  primitive : t'.kind = .simple → ∃ p, t.primitive = some p ∧
    (t'.primitive = some p ∨ t'.primitive = some .string)

/-- A schema and one that keeps its keys with wider types. The types of the schemas have given keys. -/
structure Schema.WidensTo (keys keys' : List TypeKey) (s s' : Schema) : Prop where
  subset : keys ⊆ keys'
  types : ∀ (i i' : Nat) (k : TypeKey), keys[i]? = some k → keys'[i']? = some k →
    ∃ t t', s.types[i]? = some t ∧ s'.types[i']? = some t' ∧ t.WidensTo keys keys' t'

section

variable {es es' : List Element} (more : ∀ e ∈ es, ∃ e' ∈ es', e.ExtendedBy e')

include more

/-- What holds of some element, and is kept where it is extended, holds of some element again. -/
lemma exists_of_extendedBy {P : Element → Prop} (kept : ∀ e e' : Element, e.ExtendedBy e' → P e → P e')
    (h : ∃ e ∈ es, P e) : ∃ e' ∈ es', P e' := by
  obtain ⟨e, mem, holds⟩ := h
  obtain ⟨e', mem', near⟩ := more e mem
  exact ⟨e', mem', kept e e' near holds⟩

/-- Where at least as much is observed of each element, the common type stays, or is that of strings. -/
lemma joinAll_of_extendedBy {obs : Element → List Primitive}
    (kept : ∀ e e' : Element, e.ExtendedBy e' → obs e ⊆ obs e') {p : Primitive}
    (h : Primitive.joinAll (es.flatMap obs) = some p) :
    Primitive.joinAll (es'.flatMap obs) = some p ∨
      Primitive.joinAll (es'.flatMap obs) = some .string := by
  apply Primitive.joinAll_of_subset _ h
  intro x seen
  rw [List.mem_flatMap] at seen ⊢
  exact exists_of_extendedBy more (fun e e' near here => kept e e' near here) seen

end

namespace SchemaType.Tells

variable {es es' : List Element} {t t' : SchemaType} (told : t.Tells es) (told' : t'.Tells es')
  (more : ∀ e ∈ es, ∃ e' ∈ es', e.ExtendedBy e')

include told told' more

/-- A complex type stays complex when the sample is extended. -/
lemma complex_of_extendedBy (complex : t.kind = .complex) : t'.kind = .complex := by
  apply told'.complex.mpr
  refine exists_of_extendedBy more (fun e e' near some => ?_) (told.complex.mp complex)
  cases some with
  | inl attributes =>
    exact .inl fun none => attributes (List.subset_nil.mp (none ▸ near.attributes))
  | inr children => exact .inr (near.children children)

/-- A child that may repeat may do so when the sample is extended. -/
lemma mayRepeat_of_extendedBy {n : String} (repeated : t.MayRepeat n) : t'.MayRepeat n :=
  (told'.mayRepeat n).mpr
    (exists_of_extendedBy more (fun _ _ near => near.repeats) ((told.mayRepeat n).mp repeated))

/-- A child is still declared, and may repeat if it might before. -/
lemma exists_child_of_extendedBy {n : String} {d : ChildDeclaration}
    (declared : t.children.get? n = some d) :
    ∃ d', t'.children.get? n = some d' ∧ (d.maxOccurs = .unbounded → d'.maxOccurs = .unbounded) := by
  have child : ∃ e ∈ es, n ∈ e.childNames :=
    (told.childNames n).mp (Table.exists_get?_iff.mp ⟨d, declared⟩)
  have child' : ∃ e' ∈ es', n ∈ e'.childNames :=
    exists_of_extendedBy more (fun _ _ near named => near.childNames.subset named) child
  obtain ⟨d', declared'⟩ := Table.exists_get?_iff.mpr ((told'.childNames n).mpr child')
  refine ⟨d', declared', fun unbounded => ?_⟩
  obtain ⟨d'', again, unbounded'⟩ :=
    told.mayRepeat_of_extendedBy told' more ⟨d, declared, unbounded⟩
  obtain rfl := Option.some.inj (declared'.symm.trans again)
  exact unbounded'

/-- A mixed type stays mixed when the sample is extended. -/
lemma isMixed_of_extendedBy (mixed : t.isMixed = true) : t'.isMixed = true := by
  obtain ⟨text, children⟩ := told.isMixed.mp mixed
  apply told'.isMixed.mpr
  exact ⟨exists_of_extendedBy more (fun _ _ near shown => near.hasText ▸ shown) text,
    exists_of_extendedBy more (fun _ _ near => near.children) children⟩

/-- A type that stays simple has its primitive type, or is a string. -/
lemma primitive_of_extendedBy (simple' : t'.kind = .simple) :
    ∃ p, t.primitive = some p ∧ (t'.primitive = some p ∨ t'.primitive = some .string) := by
  have simple : t.kind = .simple := kind_eq_simple_iff.mpr fun complex =>
    kind_eq_simple_iff.mp simple' (told.complex_of_extendedBy told' more complex)
  obtain ⟨p, common⟩ := Option.ne_none_iff_exists'.mp fun none => told.nonempty
    (List.map_eq_nil_iff.mp (Primitive.joinAll_eq_none_iff.mp none))
  refine ⟨p, (told.primitive_of_simple simple).trans common, ?_⟩
  rw [List.map_eq_flatMap] at common
  rw [told'.primitive_of_simple simple', List.map_eq_flatMap]
  apply joinAll_of_extendedBy more _ common
  intro e e' near
  rw [near.textType]
  exact List.Subset.refl _

/-- Where each element of a type is extended by one of another type, the other type is wider, if its
children are at the places of the same keys. -/
lemma widensTo {keys keys' : List TypeKey} (name : t.name = t'.name)
    (targets : ∀ n d d', t.children.get? n = some d → t'.children.get? n = some d' →
      ∃ k, keys[d.target]? = some k ∧ keys'[d'.target]? = some k) :
    t.WidensTo keys keys' t' where
  name := name
  attributes := by
    intro n p typed
    rw [told.attributes] at typed
    rw [told'.attributes]
    exact joinAll_of_extendedBy more (fun e e' near => near.attributeTypes n) typed
  children := by
    intro n d declared
    obtain ⟨d', declared', unbounded⟩ := told.exists_child_of_extendedBy told' more declared
    exact ⟨d', declared', targets n d d' declared declared', unbounded⟩
  complex := told.complex_of_extendedBy told' more
  isMixed := told.isMixed_of_extendedBy told' more
  primitive := told.primitive_of_extendedBy told' more

end SchemaType.Tells

namespace Schema

/-- The schema of an extended tree is wider. -/
lemma described_widensTo {root root' : Element} (h : root.ExtendedBy root') (scope : Scope) :
    (described scope root).WidensTo (typeKeys scope root) (typeKeys scope root')
      (described scope root') where
  subset := h.typeKeys_subset scope
  types := by
    intro i i' k at_i at_i'
    obtain ⟨t, here, name, told, targets⟩ := exists_tells at_i
    obtain ⟨t', here', name', told', targets'⟩ := exists_tells at_i'
    refine ⟨t, t', here, here', ?_⟩
    apply told.widensTo told' (fun e mem => h.exists_occurrence scope mem)
    · exact name.trans name'.symm
    · intro n d d' declared declared'
      exact ⟨_, targets n d declared, targets' n d' declared'⟩

end Schema

/-- Where there is room for the types, the schema of an extended tree keeps the keys of the old one,
with wider types. -/
theorem infer_of_extendedBy {root root' : Element} (h : root.ExtendedBy root') {scope : Scope}
    {limits limits' : Limits} (room : (typeKeys scope root).length ≤ limits.types)
    (room' : (typeKeys scope root').length ≤ limits'.types) :
    ∃ s s', Schema.infer scope limits root = .ok s ∧ Schema.infer scope limits' root' = .ok s' ∧
      s.Describes scope root ∧ s'.Describes scope root' ∧
      s.WidensTo (typeKeys scope root) (typeKeys scope root') s' := by
  refine ⟨Schema.described scope root, Schema.described scope root', ?_, ?_,
    Schema.described_describes scope root, Schema.described_describes scope root',
    Schema.described_widensTo h scope⟩
  · rw [Schema.infer_eq, if_pos room]
  · rw [Schema.infer_eq, if_pos room']

/-- A new first child moves the places of the types, and a simple type becomes a string. -/
theorem infer_of_extendedBy_shifted :
    let item : Element := { name := "a", text := some "1" }
    let outer : Element := { name := "b", attributes := ⟨[("k", "2")]⟩ }
    let outer' : Element := { name := "b", attributes := ⟨[("l", "x"), ("k", "2")]⟩, children := [item] }
    let word : Element := { name := "a", text := some "x" }
    let root : Element := { name := "r", children := [item, outer] }
    let root' : Element := { name := "p:r", children := [{ name := "c" }, item, word, outer'] }
    root.ExtendedBy root' ∧
      (typeKeys .global root).length ≤ ({ types := 3 } : Limits).types ∧
      (typeKeys .global root').length ≤ ({ types := 4 } : Limits).types ∧
      ∃ s s', Schema.infer .global { types := 3 } root = .ok s ∧
        Schema.infer .global { types := 4 } root' = .ok s' ∧
        s.Describes .global root ∧ s'.Describes .global root' ∧
        s.WidensTo (typeKeys .global root) (typeKeys .global root') s' := by
  intro item outer outer' word root root'
  have first : item.ExtendedBy item :=
    .intro rfl rfl (List.Subset.refl _) .nil (.refl _)
  have second : outer.ExtendedBy outer' :=
    .intro rfl rfl (List.subset_cons_self _ _) .nil (List.nil_sublist _)
  have extended : root.ExtendedBy root' :=
    .intro (by decide +kernel) rfl (List.Subset.refl _) (.cons first (.cons second .nil))
      (.cons _ (.cons_cons _ (.cons _ (.refl _))))
  have room : (typeKeys .global root).length ≤ ({ types := 3 } : Limits).types := by
    decide +kernel
  have room' : (typeKeys .global root').length ≤ ({ types := 4 } : Limits).types := by
    decide +kernel
  exact ⟨extended, room, room', infer_of_extendedBy extended room room'⟩

end XsdInfer
