import XsdInfer.Proofs.Inference.Evidence
import XsdInfer.Proofs.Inference.Structure

/-!
# Types and their occurrences

A type of a schema speaks of the elements that it is the type of. What it says of them depends on no
order and on no number: each field is a condition on some or all of the elements (`SchemaType.Tells`),
and a common type depends on the set of the observed types alone (`Primitive.joinAll_congr`). Main
statement: each type of the described schema tells of the occurrences of its key
(`Schema.exists_tells`), and has its children at the places of their keys.
-/

namespace XsdInfer

open Element (Place)
open TypeKey (keyAt typeKeys occurrences)

namespace Primitive

variable {l m : List Primitive} {t : Primitive}

/-! ## Common types -/

/-- The common type is that of the first observation, unless another observation differs from it. -/
lemma joinAll_cons (t : Primitive) (l : List Primitive) :
    joinAll (t :: l) = some (if ∀ x ∈ l, x = t then t else string) := by
  induction l using List.reverseRecOn with
  | nil => simp [joinAll, join]
  | append_singleton l x ih =>
    rw [← List.cons_append, joinAll_append, ih, List.foldl_cons, List.foldl_nil, join]
    have split : (∀ y ∈ l ++ [x], y = t) ↔ (∀ y ∈ l, y = t) ∧ x = t := by
      simp [or_imp, forall_and]
    by_cases same : ∀ y ∈ l, y = t
    · rw [if_pos same, unify]
      by_cases last : t = x
      · rw [if_pos last, if_pos (split.mpr ⟨same, last.symm⟩)]
      · rw [if_neg last, if_neg fun all => last (split.mp all).2.symm]
    · rw [if_neg same, if_neg fun all => same (split.mp all).1]
      simp [unify]

/-- Only of no types there is no common one. -/
lemma joinAll_eq_none_iff : joinAll l = none ↔ l = [] := by
  cases l with
  | nil => simp [joinAll]
  | cons t l => simp [joinAll_cons]

/-- More observations leave the common type as it is, or make it a string. -/
lemma joinAll_of_subset (more : l ⊆ m) (h : joinAll l = some t) :
    joinAll m = some t ∨ joinAll m = some string := by
  cases l with
  | nil => cases h
  | cons x l =>
    cases m with
    | nil => exact absurd (more (.head l)) List.not_mem_nil
    | cons y m =>
      rw [joinAll_cons] at h ⊢
      by_cases same : ∀ z ∈ m, z = y
      · -- Then all observations are the same.
        have all (z : Primitive) (mem : z ∈ x :: l) : z = y := by
          obtain rfl | mem := List.mem_cons.mp (more mem)
          · rfl
          · exact same z mem
        obtain rfl := all x (.head l)
        have old : ∀ z ∈ l, z = x := fun z mem => all z (.tail x mem)
        rw [if_pos old] at h
        rw [if_pos same]
        exact .inl h
      · rw [if_neg same]
        exact .inr rfl

/-- The common type depends on the set of the observations alone. -/
lemma joinAll_congr (same : ∀ t, t ∈ l ↔ t ∈ m) : joinAll l = joinAll m := by
  cases first : joinAll l with
  | none =>
    obtain rfl := joinAll_eq_none_iff.mp first
    have none : m = [] := List.eq_nil_iff_forall_not_mem.mpr fun t mem =>
      List.not_mem_nil ((same t).mpr mem)
    rw [none]
    rfl
  | some t =>
    obtain second | second := joinAll_of_subset (fun t => (same t).mp) first
    · exact second.symm
    · obtain back | back := joinAll_of_subset (fun t => (same t).mpr) second
      · rw [second, ← back, first]
      · rw [second, ← back, first]

/-- The common type of two lists is that of their common types. -/
lemma joinAll_append_eq_merge (l m : List Primitive) :
    joinAll (l ++ m) = Option.merge unify (joinAll l) (joinAll m) := by
  induction m using List.reverseRecOn with
  | nil => simp [joinAll]
  | append_singleton m t ih =>
    rw [← List.append_assoc, joinAll_append (l ++ m), joinAll_append m, ih]
    cases joinAll l with
    | none => simp
    | some s =>
      cases joinAll m with
      | none => rfl
      | some r => exact congrArg some (unify_assoc s r t)

/-- The common type of common types is that of all observations. -/
lemma joinAll_filterMap_joinAll {γ : Type} (f : γ → List Primitive) (parts : List γ) :
    joinAll (parts.filterMap fun c => joinAll (f c)) = joinAll (parts.flatMap f) := by
  induction parts with
  | nil => rfl
  | cons c parts ih =>
    rw [List.flatMap_cons, joinAll_append_eq_merge, ← ih, List.filterMap_cons]
    cases joinAll (f c) with
    | none => exact Option.merge_none_left.symm
    | some t => exact joinAll_append_eq_merge [t] _

end Primitive

/-! ## What types tell -/

namespace SchemaType

/-- A type that is not complex is simple. -/
lemma kind_eq_simple_iff {t : SchemaType} : t.kind = .simple ↔ t.kind ≠ .complex := by
  cases t.kind with
  | simple => exact iff_of_true rfl nofun
  | complex => exact iff_of_false nofun (not_not_intro rfl)

/-- Whether a type has a child of a given name that may repeat. -/
def MayRepeat (t : SchemaType) (n : String) : Prop :=
  ∃ d, t.children.get? n = some d ∧ d.maxOccurs = .unbounded

/-- What a type says, if it is the type of given elements. -/
structure Tells (es : List Element) (t : SchemaType) : Prop where
  nonempty : es ≠ []
  attributeNames : ∀ n, n ∈ t.attributes.keys ↔
    ∃ e ∈ es, n ∈ e.attributes.keys.map Name.localPart
  attributes : ∀ n, t.attributes.get? n =
    Primitive.joinAll (es.flatMap fun e => e.attributeTypes n)
  childNames : ∀ n, n ∈ t.children.keys ↔ ∃ e ∈ es, n ∈ e.childNames
  mayRepeat : ∀ n, t.MayRepeat n ↔ ∃ e ∈ es, e.repeats n = true
  complex : t.kind = .complex ↔ ∃ e ∈ es, e.attributes.entries ≠ [] ∨ e.children ≠ []
  /-- There is a primitive type where there are no children, and if there are attributes, some
  text. -/
  primitive : ∀ p, t.primitive = some p ↔ Primitive.joinAll (es.map Element.textType) = some p ∧
    (∀ e ∈ es, e.children = []) ∧ (t.kind = .complex → ∃ e ∈ es, e.hasText = true)
  isMixed : t.isMixed = true ↔ (∃ e ∈ es, e.hasText = true) ∧ ∃ e ∈ es, e.children ≠ []

/-- A simple type has the common type of the texts of its elements. -/
lemma Tells.primitive_of_simple {es : List Element} {t : SchemaType} (h : t.Tells es)
    (simple : t.kind = .simple) : t.primitive = Primitive.joinAll (es.map Element.textType) := by
  have childless : ∀ e ∈ es, e.children = [] := fun e mem => by
    by_contra some
    exact kind_eq_simple_iff.mp simple (h.complex.mpr ⟨e, mem, .inr some⟩)
  apply Option.ext
  intro p
  rw [h.primitive, simple]
  exact ⟨And.left, fun common => ⟨common, childless, nofun⟩⟩

end SchemaType

namespace Evidence

variable {placeOf : String → Nat} {es : List Element}

/-- There is no evidence of children if no element has any. -/
lemma children_ofElements_eq_nil_iff :
    (ofElements placeOf es).children.entries = [] ↔ ∀ e ∈ es, e.children = [] := by
  rw [← List.map_eq_nil_iff (f := Prod.fst), ← Table.keys, keys_children_ofElements,
    List.eq_nil_iff_forall_not_mem]
  simp only [List.mem_eraseDups, ← List.eq_nil_iff_forall_not_mem, List.flatMap_eq_nil_iff,
    List.map_eq_nil_iff]

/-- There is no evidence of attributes if no element has any. -/
lemma attributes_ofElements_eq_nil_iff :
    (ofElements placeOf es).attributes.entries = [] ↔ ∀ e ∈ es, e.attributes.entries = [] := by
  rw [← List.map_eq_nil_iff (f := Prod.fst), ← Table.keys, keys_attributes_ofElements,
    List.eq_nil_iff_forall_not_mem]
  simp only [List.mem_eraseDups, ← List.eq_nil_iff_forall_not_mem, List.flatMap_eq_nil_iff,
    List.map_eq_nil_iff, Table.keys]

/-- Evidence of attributes or children makes a type complex. -/
lemma kind_eq_complex_iff (v : Evidence) :
    v.kind = .complex ↔ v.attributes.entries ≠ [] ∨ v.children.entries ≠ [] := by
  rw [kind]
  cases v.attributes.entries <;> cases v.children.entries <;> simp

/-- Some element with attributes or children makes a type complex. -/
lemma kind_ofElements_eq_complex_iff :
    (ofElements placeOf es).kind = .complex ↔
      ∃ e ∈ es, e.attributes.entries ≠ [] ∨ e.children ≠ [] := by
  rw [kind_eq_complex_iff, ne_eq, ne_eq, children_ofElements_eq_nil_iff,
    attributes_ofElements_eq_nil_iff]
  push Not
  simp only [and_or_left, exists_or]

/-- A type has the primitive of its texts if it has no children and, if it is complex, some text. -/
lemma primitive?_eq_some_iff {v : Evidence} {p q : Primitive} (text : v.text = some q) :
    v.primitive? = some p ↔
      q = p ∧ v.children.entries = [] ∧ (v.kind = .complex → v.hasText = true) := by
  have childless (simple : v.kind = .simple) : v.children.entries = [] := by
    by_contra some
    rw [(kind_eq_complex_iff v).mpr (.inr some)] at simple
    cases simple
  rw [primitive?, text]
  cases kind : v.kind with
  | simple => simp [childless kind]
  | complex => cases v.children.entries <;> cases v.hasText <;> simp

/-- A type with the evidence of some elements tells of them. -/
lemma tells_schemaType (nonempty : es ≠ []) (tag name : String) :
    ((ofElements placeOf es).schemaType tag name).Tells es where
  nonempty := nonempty
  attributeNames := by
    intro n
    show n ∈ (ofElements placeOf es).attributes.keys ↔ _
    rw [keys_attributes_ofElements, List.mem_eraseDups, List.mem_flatMap]
  attributes := get?_attributes_ofElements es
  childNames := by
    intro n
    rw [keys_children_schemaType, keys_children_ofElements, List.mem_eraseDups, List.mem_flatMap]
  mayRepeat := by
    intro n
    rw [SchemaType.MayRepeat, get?_children_schemaType, get?_children_ofElements,
      ← List.any_eq_true]
    by_cases child : n ∈ es.flatMap Element.childNames
    · cases two : es.any (Element.repeats · n) <;> simp [child, declaration]
    · have fresh : es.any (Element.repeats · n) = false :=
        List.any_eq_false.mpr fun e mem two => child
          (List.mem_flatMap.mpr ⟨e, mem, Element.mem_childNames_of_repeats two⟩)
      simp [child, fresh]
  complex := kind_ofElements_eq_complex_iff
  primitive := by
    intro p
    -- There is an element, so that some type has been seen, if only that of a missing text.
    obtain ⟨q, text⟩ : ∃ q, (ofElements placeOf es).text = some q := by
      rw [text_ofElements, ← Option.ne_none_iff_exists', ne_eq, Primitive.joinAll_eq_none_iff,
        List.map_eq_nil_iff]
      exact nonempty
    show (ofElements placeOf es).primitive? = some p ↔ _
    rw [primitive?_eq_some_iff text, children_ofElements_eq_nil_iff, hasText_ofElements,
      List.any_eq_true, ← @text_ofElements placeOf, text, Option.some_inj]
    rfl
  isMixed := by
    show ((ofElements placeOf es).kind == .complex && (ofElements placeOf es).hasText
      && !(ofElements placeOf es).children.entries.isEmpty) = true ↔ _
    -- Children make a type complex, so that this part of the condition follows from another one.
    have complex (some : ∃ e ∈ es, e.children ≠ []) : (ofElements placeOf es).kind = .complex := by
      obtain ⟨e, mem, some⟩ := some
      exact kind_ofElements_eq_complex_iff.mpr ⟨e, mem, .inr some⟩
    rw [Bool.and_eq_true, Bool.and_eq_true, beq_iff_eq, Bool.not_eq_true', List.isEmpty_eq_false_iff,
      ne_eq, children_ofElements_eq_nil_iff, hasText_ofElements, List.any_eq_true]
    push Not
    exact ⟨fun h => ⟨h.1.2, h.2⟩, fun h => ⟨⟨complex h.2, h.1⟩, h.2⟩⟩

end Evidence

/-! ## Types of a document -/

/-- The keys of the children of what has a key are keys of the document. -/
lemma TypeKey.ofNames_mem_typeKeys {scope : Scope} {root : Element} {k : TypeKey} {n : String}
    (h : n ∈ (occurrences scope k root.places).flatMap Element.childNames) :
    ofNames scope (some k.tag) n ∈ typeKeys scope root := by
  obtain ⟨e, occurs, child⟩ := List.mem_flatMap.mp h
  obtain ⟨path, place, rfl⟩ := mem_occurrences_iff.mp occurs
  obtain ⟨c, below, rfl⟩ := List.mem_map.mp child
  rw [tag_keyAt]
  exact mem_typeKeys_iff.mpr (.inr ⟨_, place, List.mem_map_of_mem below⟩)

namespace Schema

variable {scope : Scope} {root : Element} {i : Nat} {k : TypeKey}

/-- A key of which there is a type has some element. -/
lemma occurrences_ne_nil (mem : k ∈ typeKeys scope root) : occurrences scope k root.places ≠ [] := by
  obtain ⟨p, place, same⟩ := TypeKey.mem_typeKeys_iff_keyAt.mp mem
  exact List.ne_nil_of_mem (TypeKey.mem_occurrences_iff.mpr ⟨p.1, place, same⟩)

/-- The type of a key tells of the occurrences of the key, and has its children at the places of their
own keys. -/
theorem exists_tells (h : (typeKeys scope root)[i]? = some k) :
    ∃ t, (described scope root).types[i]? = some t ∧ t.name = k.tag ∧
      t.Tells (occurrences scope k root.places) ∧
      ∀ n d, t.children.get? n = some d →
        (typeKeys scope root)[d.target]? = some (.ofNames scope (some k.tag) n) := by
  obtain ⟨name, _, type⟩ := getElem?_types_described h
  refine ⟨_, type, rfl, Evidence.tells_schemaType ?_ _ _, fun n d found => ?_⟩
  · exact occurrences_ne_nil (List.mem_of_getElem? h)
  · rw [Evidence.get?_children_schemaType, evidenceOf, Evidence.get?_children_ofElements] at found
    by_cases child : n ∈ (occurrences scope k root.places).flatMap Element.childNames
    · rw [if_pos child] at found
      cases found
      exact List.getElem?_idxOf (TypeKey.ofNames_mem_typeKeys child)
    · rw [if_neg child] at found
      cases found

/-- Each type of a document is that of one of its keys. -/
lemma exists_key_of_mem_types {t : SchemaType} (mem : t ∈ (described scope root).types) :
    ∃ k ∈ typeKeys scope root, t.name = k.tag ∧ t.Tells (occurrences scope k root.places) := by
  obtain ⟨i, inside, rfl⟩ := List.mem_iff_getElem.mp mem
  have bound : i < (typeKeys scope root).length := length_types_described scope root ▸ inside
  obtain ⟨t, here, name, tells, _⟩ := exists_tells (List.getElem?_eq_getElem bound)
  obtain rfl := Option.some.inj ((List.getElem?_eq_getElem inside).symm.trans here)
  exact ⟨_, List.getElem_mem bound, name, tells⟩

end Schema

end XsdInfer
