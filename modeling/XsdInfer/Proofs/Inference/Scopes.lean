import Mathlib.Data.List.Forall2
import XsdInfer.Proofs.Inference.Occurrences

/-!
# The two scopes

Under the wider scope, the elements of one tag have one type. Under the narrower one they have a type
for each tag that they occur in. Main statement: the type under the wider scope merges the types under
the narrower one (`infer_merges`). The occurrences of a tag are those of the keys with the tag taken
together (`TypeKey.mem_occurrences_global_iff`), and what holds of some elements taken together is known
from what their parts tell (`SchemaType.merges_of_tells`).
-/

namespace XsdInfer

open Element (Place)
open TypeKey (keyAt typeKeys occurrences)

namespace SchemaType

/-- A type that says what some types say together. -/
structure Merges (parts : List SchemaType) (t : SchemaType) : Prop where
  attributeNames : ∀ n, n ∈ t.attributes.keys ↔ ∃ s ∈ parts, n ∈ s.attributes.keys
  attributes : ∀ n, t.attributes.get? n =
    Primitive.joinAll (parts.filterMap fun s => s.attributes.get? n)
  childNames : ∀ n, n ∈ t.children.keys ↔ ∃ s ∈ parts, n ∈ s.children.keys
  mayRepeat : ∀ n, t.MayRepeat n ↔ ∃ s ∈ parts, s.MayRepeat n
  complex : t.kind = .complex ↔ ∃ s ∈ parts, s.kind = .complex
  /-- Where all of them are simple, each has a primitive type. -/
  simple : t.kind = .simple → (∀ s ∈ parts, s.primitive ≠ none) ∧
    t.primitive = Primitive.joinAll (parts.filterMap SchemaType.primitive)
  isMixed : ∀ s ∈ parts, s.isMixed = true → t.isMixed = true

section

variable {α β γ : Type} {R : α → β → Prop} {l : List α} {m : List β}

/-- An item is related to some item of the other list. -/
lemma exists_of_forall₂_of_mem (h : List.Forall₂ R l m) {a : α} (mem : a ∈ l) : ∃ b ∈ m, R a b := by
  induction h with
  | nil => cases mem
  | @cons x b l m first _ ih =>
    cases mem with
    | head => exact ⟨b, .head m, first⟩
    | tail _ mem =>
      obtain ⟨c, inside, related⟩ := ih mem
      exact ⟨c, .tail b inside, related⟩

/-- What is picked from related items in the same way is the same. -/
lemma filterMap_eq_of_forall₂ (h : List.Forall₂ R l m) {f : α → Option γ} {g : β → Option γ}
    (same : ∀ a ∈ l, ∀ b, R a b → f a = g b) : l.filterMap f = m.filterMap g := by
  induction h with
  | nil => rfl
  | @cons a b l m first _ ih =>
    rw [List.filterMap_cons, List.filterMap_cons, same a (.head l) b first,
      ih fun a mem => same a (.tail _ mem)]

end

section

variable {parts : List SchemaType} {groups : List (List Element)} {es : List Element} {t : SchemaType}
  (union : ∀ e, e ∈ es ↔ ∃ group ∈ groups, e ∈ group)

include union

/-- The common type of what is observed in all elements is that of the common types of the groups. -/
lemma joinAll_of_groups (obs : Element → List Primitive) :
    Primitive.joinAll (es.flatMap obs) =
      Primitive.joinAll (groups.filterMap fun group => Primitive.joinAll (group.flatMap obs)) := by
  rw [Primitive.joinAll_filterMap_joinAll]
  refine Primitive.joinAll_congr fun p => ?_
  simp only [List.mem_flatMap, union]
  constructor
  · rintro ⟨e, ⟨group, mem, inside⟩, seen⟩
    exact ⟨group, mem, e, inside, seen⟩
  · rintro ⟨group, mem, e, inside, seen⟩
    exact ⟨e, ⟨group, mem, inside⟩, seen⟩

variable (tells : List.Forall₂ (fun s group => s.Tells group) parts groups)

include tells

/-- What holds of some element is told by some part. -/
lemma exists_iff_of_groups {P : SchemaType → Prop} {Q : Element → Prop}
    (tell : ∀ s group, s.Tells group → (P s ↔ ∃ e ∈ group, Q e)) :
    (∃ e ∈ es, Q e) ↔ ∃ s ∈ parts, P s := by
  rw [exists_mem_iff_of_forall₂ tells tell]
  constructor
  · rintro ⟨e, mem, holds⟩
    obtain ⟨group, known, inside⟩ := (union e).mp mem
    exact ⟨group, known, e, inside, holds⟩
  · rintro ⟨group, known, e, inside, holds⟩
    exact ⟨e, (union e).mpr ⟨group, known, inside⟩, holds⟩

variable (told : t.Tells es)

include told

/-- A type is complex if some of its parts is. -/
lemma complex_iff_of_groups : t.kind = .complex ↔ ∃ s ∈ parts, s.kind = .complex :=
  told.complex.trans (exists_iff_of_groups union tells fun _ _ tell => tell.complex)

/-- A simple type is made of simple types, each of which has the common type of its own texts. -/
lemma primitive_of_groups (simple : t.kind = .simple) :
    (∀ s ∈ parts, s.primitive ≠ none) ∧
      t.primitive = Primitive.joinAll (parts.filterMap SchemaType.primitive) := by
  have simples (s : SchemaType) (mem : s ∈ parts) : s.kind = .simple :=
    kind_eq_simple_iff.mpr fun complex => kind_eq_simple_iff.mp simple
      ((complex_iff_of_groups union tells told).mpr ⟨s, mem, complex⟩)
  have common (s : SchemaType) (mem : s ∈ parts) (group : List Element) (tell : s.Tells group) :
      s.primitive = Primitive.joinAll (group.flatMap fun e => [e.textType]) := by
    rw [tell.primitive_of_simple (simples s mem), List.map_eq_flatMap]
  constructor
  · intro s mem
    obtain ⟨group, -, tell⟩ := exists_of_forall₂_of_mem tells mem
    rw [common s mem group tell, ← List.map_eq_flatMap, ne_eq, Primitive.joinAll_eq_none_iff,
      List.map_eq_nil_iff]
    exact tell.nonempty
  · rw [told.primitive_of_simple simple, List.map_eq_flatMap, joinAll_of_groups union]
    exact congrArg _ (filterMap_eq_of_forall₂ tells common).symm

/-- A type merges other types, if its elements are those of the others taken together. -/
theorem merges_of_tells : t.Merges parts where
  attributeNames := fun n => (told.attributeNames n).trans
    (exists_iff_of_groups union tells fun _ _ tell => tell.attributeNames n)
  attributes := by
    intro n
    rw [told.attributes, joinAll_of_groups union]
    exact congrArg _ (filterMap_eq_of_forall₂ tells fun s _ group tell => tell.attributes n).symm
  childNames := fun n => (told.childNames n).trans
    (exists_iff_of_groups union tells fun _ _ tell => tell.childNames n)
  mayRepeat := fun n => (told.mayRepeat n).trans
    (exists_iff_of_groups union tells fun _ _ tell => tell.mayRepeat n)
  complex := complex_iff_of_groups union tells told
  simple := primitive_of_groups union tells told
  isMixed := by
    intro s mem mixed
    obtain ⟨group, known, tell⟩ := exists_of_forall₂_of_mem tells mem
    obtain ⟨⟨e, text, shown⟩, ⟨e', outer, some⟩⟩ := tell.isMixed.mp mixed
    apply told.isMixed.mpr
    exact ⟨⟨e, (union e).mpr ⟨group, known, text⟩, shown⟩,
      ⟨e', (union e').mpr ⟨group, known, outer⟩, some⟩⟩

end

end SchemaType

/-! ## Keys of the two scopes -/

namespace TypeKey

variable {root : Element} {k : TypeKey}

/-- Under the wider scope, a key is its tag. -/
lemma keyAt_global (p : Place) : keyAt .global p = ⟨none, p.2.localName⟩ := rfl

/-- In the wider scope a key is nothing but its tag. -/
lemma eq_of_mem_typeKeys_global (mem : k ∈ typeKeys .global root) : k = ⟨none, k.tag⟩ := by
  obtain ⟨p, -, rfl⟩ := mem_typeKeys_iff_keyAt.mp mem
  rfl

/-- The occurrences of a tag are those of the keys with the tag. -/
lemma mem_occurrences_global_iff (mem : k ∈ typeKeys .global root) {e : Element} :
    e ∈ occurrences .global k root.places ↔
      ∃ s ∈ typeKeys .parent root, s.tag = k.tag ∧ e ∈ occurrences .parent s root.places := by
  simp only [mem_occurrences_iff, keyAt_global]
  constructor
  · rintro ⟨path, place, rfl⟩
    refine ⟨keyAt .parent (path, e), ?_, tag_keyAt _ _, path, place, rfl⟩
    exact mem_typeKeys_iff_keyAt.mpr ⟨_, place, rfl⟩
  · rintro ⟨s, -, tag, path, place, rfl⟩
    rw [tag_keyAt] at tag
    rw [eq_of_mem_typeKeys_global mem]
    exact ⟨path, place, congrArg _ tag⟩

end TypeKey

namespace Schema

variable {scope : Scope} {root : Element}

/-- The types of a schema tell of its keys one by one. -/
lemma forall₂_tells (scope : Scope) (root : Element) :
    List.Forall₂ (fun t k => t.name = k.tag ∧ t.Tells (occurrences scope k root.places))
      (described scope root).types (typeKeys scope root) := by
  refine List.forall₂_iff_get.mpr ⟨length_types_described scope root, fun i inside bound => ?_⟩
  obtain ⟨t, here, name, tells, -⟩ := exists_tells (List.getElem?_eq_getElem bound)
  obtain rfl := Option.some.inj ((List.getElem?_eq_getElem inside).symm.trans here)
  exact ⟨name, tells⟩

/-- The types have the tags of their keys. -/
lemma map_name_described (scope : Scope) (root : Element) :
    (described scope root).types.map SchemaType.name = (typeKeys scope root).map TypeKey.tag := by
  rw [← List.forall₂_eq_eq_eq, List.forall₂_map_left_iff, List.forall₂_map_right_iff]
  exact (forall₂_tells scope root).imp fun t k told => told.1

/-- Under either scope, the names of the types are the local names of a document. -/
lemma exists_name_described_iff {tag : String} :
    (∃ t ∈ (described scope root).types, t.name = tag) ↔ ∃ p ∈ root.places, p.2.localName = tag := by
  rw [← List.mem_map, map_name_described, List.mem_map]
  constructor
  · rintro ⟨k, mem, rfl⟩
    obtain ⟨p, place, rfl⟩ := TypeKey.mem_typeKeys_iff_keyAt.mp mem
    exact ⟨p, place, (TypeKey.tag_keyAt scope p).symm⟩
  · rintro ⟨p, place, rfl⟩
    exact ⟨_, TypeKey.mem_typeKeys_iff_keyAt.mpr ⟨p, place, rfl⟩, TypeKey.tag_keyAt scope p⟩

/-- The types of a name tell of the keys with the name as tag. -/
lemma forall₂_tells_filter (scope : Scope) (root : Element) (tag : String) :
    List.Forall₂ (fun t group => t.Tells group)
      ((described scope root).types.filter fun t => t.name = tag)
      (((typeKeys scope root).filter fun k => k.tag = tag).map
        fun k => occurrences scope k root.places) := by
  rw [List.forall₂_map_right_iff]
  refine (List.rel_filter ?_ (forall₂_tells scope root)).imp fun t k told => told.2
  intro t k told
  simp [told.1]

/-- A schema with one type for each name of another schema, which merges the types that have the name
there. -/
structure Merges (g p : Schema) : Prop where
  nodup : (g.types.map SchemaType.name).Nodup
  one : ∀ tag, (g.types.map SchemaType.name).count tag = 1 ↔ ∃ s ∈ p.types, s.name = tag
  types : ∀ t ∈ g.types, t.Merges (p.types.filter fun s => s.name = t.name)

/-- Under the wider scope, no two types have one name. -/
lemma nodup_names_global (root : Element) :
    ((described .global root).types.map SchemaType.name).Nodup := by
  rw [map_name_described]
  apply (TypeKey.nodup_typeKeys .global root).map_on
  intro k mem k' mem' same
  rw [TypeKey.eq_of_mem_typeKeys_global mem, TypeKey.eq_of_mem_typeKeys_global mem', same]

/-- The schema in the wider scope merges the one in the narrower scope. -/
lemma described_merges (root : Element) : (described .global root).Merges (described .parent root) where
  nodup := nodup_names_global root
  one := by
    intro tag
    have once : ((described .global root).types.map SchemaType.name).count tag = 1 ↔
        ∃ t ∈ (described .global root).types, t.name = tag := by
      rw [← List.mem_map]
      exact ⟨fun one => List.count_pos_iff.mp (one ▸ Nat.one_pos),
        List.count_eq_one_of_mem (nodup_names_global root)⟩
    rw [once, exists_name_described_iff, exists_name_described_iff]
  types := by
    intro t mem
    obtain ⟨k, known, name, told⟩ := exists_key_of_mem_types mem
    refine SchemaType.merges_of_tells (fun e => ?_) (forall₂_tells_filter .parent root t.name) told
    rw [TypeKey.mem_occurrences_global_iff known, name]
    simp [and_assoc]

end Schema

/-- Where there is room for the types under either scope, the schema under the wider one merges the
schema under the narrower one. -/
theorem infer_merges {root : Element} {wide narrow : Limits}
    (room : (typeKeys .global root).length ≤ wide.types)
    (room' : (typeKeys .parent root).length ≤ narrow.types) :
    ∃ g p, Schema.infer .global wide root = .ok g ∧ Schema.infer .parent narrow root = .ok p ∧
      g.Describes .global root ∧ p.Describes .parent root ∧ g.Merges p := by
  refine ⟨Schema.described .global root, Schema.described .parent root, ?_, ?_,
    Schema.described_describes .global root, Schema.described_describes .parent root,
    Schema.described_merges root⟩
  · rw [Schema.infer_eq, if_pos room]
  · rw [Schema.infer_eq, if_pos room']

/-- A tag with text below one parent, and with attributes and children below another. -/
theorem infer_merges_shared :
    let plain : Element := { name := "a", children := [{ name := "n", text := some "1" }] }
    let nested : Element := { name := "p:n", attributes := ⟨[("k", "2")]⟩, children := [
      { name := "a" }, { name := "a", text := some "x" }] }
    let root : Element := { name := "r", children := [plain, nested] }
    (typeKeys .global root).length ≤ ({ types := 3 } : Limits).types ∧
      (typeKeys .parent root).length ≤ ({ types := 5 } : Limits).types ∧
      ∃ g p, Schema.infer .global { types := 3 } root = .ok g ∧
        Schema.infer .parent { types := 5 } root = .ok p ∧
        g.Describes .global root ∧ p.Describes .parent root ∧ g.Merges p := by
  intro plain nested root
  have wide : (typeKeys .global root).length ≤ ({ types := 3 } : Limits).types := by
    decide +kernel
  have narrow : (typeKeys .parent root).length ≤ ({ types := 5 } : Limits).types := by
    decide +kernel
  exact ⟨wide, narrow, infer_merges wide narrow⟩

end XsdInfer
