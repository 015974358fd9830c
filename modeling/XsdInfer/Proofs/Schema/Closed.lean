import XsdInfer.Proofs.Inference.Structure
import XsdInfer.Proofs.Name.TypeNames
import XsdInfer.Proofs.Sample.Accepted

/-!
# Closed schemas

A schema is closed (`Schema.Closed`), if its types have different names, each place that it refers to
is that of a type, and each type but the root's is that of a child of some type. Main statements: the
schema that a document describes is closed, whatever the names in the document are
(`closed_described`), and its names are solid, if those of the document are qualified
(`solid_described`).
-/

namespace XsdInfer

open TypeKey (keyAt childKeys typeKeys occurrences)
open Name (isSolid)

/-- A schema whose types refer to each other. -/
structure Schema.Closed (s : Schema) : Prop where
  root : s.root < s.types.length
  nodup : (s.types.map SchemaType.typeName).Nodup
  targets : ∀ t ∈ s.types, ∀ c ∈ t.children.entries, c.2.target < s.types.length
  /-- Types with children are complex. -/
  parents : ∀ t ∈ s.types, t.children.entries ≠ [] → t.kind = .complex
  used : ∀ i < s.types.length, i = s.root ∨ ∃ t ∈ s.types, ∃ c ∈ t.children.entries, c.2.target = i

/-- A schema whose names are solid. -/
structure Schema.Solid (s : Schema) : Prop where
  types : ∀ t ∈ s.types, ∀ c ∈ t.typeName.toList, isSolid c = true
  attributes : ∀ t ∈ s.types, ∀ n ∈ t.attributes.keys, ∀ c ∈ n.toList, isSolid c = true
  children : ∀ t ∈ s.types, ∀ n ∈ t.children.keys, ∀ c ∈ (Name.localPart n).toList, isSolid c = true

variable {scope : Scope} {root : Element} {s : Schema} {t : SchemaType} {k : TypeKey}

/-! ## References -/

/-- A child that is declared stands in the sample below an element of the type. -/
lemma SchemaType.Shows.exists_child (h : t.Shows scope root k) {n : String}
    (mem : n ∈ t.children.keys) :
    ∃ p ∈ root.places, keyAt scope p = k ∧ ∃ c ∈ p.2.children, c.localName = n := by
  rw [h.children, List.mem_eraseDups] at mem
  obtain ⟨e, occurs, child⟩ := List.mem_flatMap.mp mem
  obtain ⟨path, place, same⟩ := TypeKey.mem_occurrences_iff.mp occurs
  exact ⟨(path, e), place, same, List.mem_map.mp child⟩

/-- An attribute that is declared stands in the sample. -/
lemma SchemaType.Shows.exists_attribute (h : t.Shows scope root k) {n : String}
    (mem : n ∈ t.attributes.keys) :
    ∃ p ∈ root.places, ∃ a ∈ p.2.attributes.keys, Name.localPart a = n := by
  rw [h.attributes, List.mem_eraseDups] at mem
  obtain ⟨e, occurs, seen⟩ := List.mem_flatMap.mp mem
  obtain ⟨path, place, _⟩ := TypeKey.mem_occurrences_iff.mp occurs
  exact ⟨(path, e), place, List.mem_map.mp seen⟩

/-- A type that declares children is complex. -/
lemma Evidence.kind_of_children {v : Evidence} {tag name : String}
    (some : (v.schemaType tag name).children.entries ≠ []) :
    (v.schemaType tag name).kind = .complex := by
  have filled : v.children.entries.isEmpty = false := by
    rw [List.isEmpty_eq_false_iff]
    exact fun none => some (by rw [schemaType, none, List.map_nil])
  show v.kind = .complex
  simp [kind, filled]

/-- The children in a document with qualified names are declared under simple names. -/
lemma SchemaType.Shows.isSimple_child (h : t.Shows scope root k)
    (named : ∀ p ∈ root.places, p.2.Named) {n : String} (mem : n ∈ t.children.keys) :
    Name.isSimple n.toList = true := by
  obtain ⟨p, place, _, c, below, rfl⟩ := h.exists_child mem
  rw [Element.places_eq] at place named
  have child := named (p.2 :: p.1, c) (Element.child_mem_placesFrom place below)
  exact Name.isSimple_localPart child.name

namespace Schema

/-- Every type of a schema shows the elements of some key. -/
lemma Describes.exists_shows (h : s.Describes scope root) (mem : t ∈ s.types) :
    ∃ k ∈ typeKeys scope root, t.Shows scope root k := by
  obtain ⟨i, inside, rfl⟩ := List.mem_iff_getElem.mp mem
  have bound : i < (typeKeys scope root).length := h.length ▸ inside
  have known := List.getElem?_eq_getElem bound
  obtain ⟨t, here, shown⟩ := h.types i _ known
  obtain rfl := Option.some.inj ((List.getElem?_eq_getElem inside).symm.trans here)
  exact ⟨_, List.getElem_mem _, shown⟩

/-- The type of a child that is declared is there. -/
lemma Describes.target_lt (h : s.Describes scope root) (mem : t ∈ s.types)
    {c : String × ChildDeclaration} (entry : c ∈ t.children.entries) :
    c.2.target < s.types.length := by
  obtain ⟨k, _, shown⟩ := h.exists_shows mem
  obtain ⟨p, place, same, child, below, name⟩ := shown.exists_child (List.mem_map_of_mem entry)
  have at_key := shown.targets p place same child below c.2 (by rwa [name])
  rw [h.length]
  exact (List.getElem?_eq_some_iff.mp at_key).1

/-- Each type but the root's is that of a child of some type. -/
lemma Describes.used (h : s.Describes scope root) {i : Nat} (inside : i < s.types.length) :
    i = s.root ∨ ∃ t ∈ s.types, ∃ c ∈ t.children.entries, c.2.target = i := by
  have bound : i < (typeKeys scope root).length := h.length ▸ inside
  have unique (j : Nat) (same : (typeKeys scope root)[j]? = some (typeKeys scope root)[i]) : j = i := by
    obtain ⟨other, eq⟩ := List.getElem?_eq_some_iff.mp same
    exact (List.Nodup.getElem_inj_iff h.nodup).mp eq
  obtain first | ⟨p, place, child⟩ := TypeKey.mem_typeKeys_iff.mp (List.getElem_mem bound)
  · left
    rw [← unique s.root (h.first.2.trans (by rw [first]))]
  · -- The type of the parent's key declares the child.
    right
    obtain ⟨c, below, same⟩ := List.mem_map.mp child
    obtain ⟨j, at_parent⟩ :=
      List.mem_iff_getElem?.mp ((h.keys (keyAt scope p)).mpr ⟨p, place, rfl⟩)
    obtain ⟨t, at_j, shown⟩ := h.types j _ at_parent
    have name : c.localName ∈ t.children.keys := by
      rw [shown.children, List.mem_eraseDups]
      refine List.mem_flatMap.mpr ⟨p.2, ?_, List.mem_map_of_mem below⟩
      exact TypeKey.mem_occurrences_iff.mpr ⟨p.1, place, rfl⟩
    obtain ⟨⟨n, d⟩, entry, rfl⟩ := List.mem_map.mp name
    refine ⟨t, List.mem_of_getElem? at_j, _, entry, unique d.target ?_⟩
    rw [shown.targets p place rfl c below d entry, same]

/-- The schema that a document describes is closed. -/
theorem closed_described (scope : Scope) (root : Element) : (described scope root).Closed where
  root := by
    have h := described_describes scope root
    rw [h.length]
    exact (List.getElem?_eq_some_iff.mp h.first.2).1
  nodup := by
    rw [map_typeName_described]
    exact nodup_typeNames _
  targets := fun _ mem _ entry => (described_describes scope root).target_lt mem entry
  parents := by
    intro t mem some
    obtain ⟨⟨k, name⟩, _, rfl⟩ := List.mem_map.mp mem
    exact Evidence.kind_of_children some
  used := fun _ inside => (described_describes scope root).used inside

/-! ## Names -/

variable (named : ∀ p ∈ root.places, p.2.Named)

include named

/-- The keys of a document with qualified names are made of simple names. -/
lemma isSimple_of_mem_typeKeys (scope : Scope) : ∀ k ∈ typeKeys scope root, k.IsSimple := by
  intro k mem
  have simple (p : Element.Place) (place : p ∈ root.places) :
      Name.isSimple p.2.localName.toList = true := Name.isSimple_localPart (named p place).name
  rw [Element.places_eq] at simple
  obtain rfl | ⟨p, place, child⟩ := TypeKey.mem_typeKeys_iff.mp mem
  · refine ⟨?_, fun parent at_root => ?_⟩
    · rw [TypeKey.tag_keyAt]
      exact simple ([], root) (Element.self_mem_placesFrom [] root)
    · cases scope <;> cases at_root
  · obtain ⟨c, below, rfl⟩ := List.mem_map.mp child
    rw [Element.places_eq] at place
    refine ⟨?_, fun parent at_child => ?_⟩
    · rw [TypeKey.tag_keyAt]
      exact simple (p.2 :: p.1, c) (Element.child_mem_placesFrom place below)
    · -- Only under the narrower scope is the tag around a part of the key.
      cases scope with
      | global => cases at_child
      | parent =>
        cases at_child
        exact simple p place

/-- The names of the schema that a document with qualified names describes are solid. -/
theorem solid_described (scope : Scope) : (described scope root).Solid where
  types := by
    intro t mem
    apply isSolid_of_mem_typeNames (isSimple_of_mem_typeKeys named scope) t.typeName
    rw [← map_typeName_described]
    exact List.mem_map_of_mem mem
  attributes := by
    intro t mem n known
    obtain ⟨k, _, shown⟩ := (described_describes scope root).exists_shows mem
    obtain ⟨p, place, a, seen, rfl⟩ := shown.exists_attribute known
    exact Name.isSolid_of_isSimple (Name.isSimple_localPart ((named p place).attributes a seen))
  children := by
    intro t mem n known
    obtain ⟨k, _, shown⟩ := (described_describes scope root).exists_shows mem
    have simple := shown.isSimple_child named known
    rw [Name.localPart_of_isSimple simple]
    exact Name.isSolid_of_isSimple simple

end Schema

/-- The local name of the root of a sample that is read is solid. -/
lemma Sample.isSolid_root_of_parse {limits : Limits} {xml : String} {root : Element}
    (parsed : Sample.parse limits xml = .ok root) :
    ∀ c ∈ (Name.localPart root.name).toList, isSolid c = true := by
  have named := Sample.named_of_parse parsed
  rw [Element.places_eq] at named
  have here := named ([], root) (Element.self_mem_placesFrom [] root)
  exact Name.isSolid_of_isSimple (Name.isSimple_localPart here.name)

end XsdInfer
