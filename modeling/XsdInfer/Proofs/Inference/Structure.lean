import XsdInfer.Proofs.Inference.Ledger

/-!
# The structure of an inferred schema

A sample is walked with a stack of places still to be observed, where the children of an element are
put before what waits already (`Ledger.drain`); this is the walk by recursion (`ofRoot_eq_drain`).
Main statement: what comes out has one type for each distinct key, in the order in which the keys
are first met, and each type declares just the attributes and children of the occurrences of its key
(`infer_describes`).
-/

namespace XsdInfer

open Element (Place placesFrom)
open TypeKey (keyAt childKeys metKeys typeKeys occurrences)

namespace Ledger

/-- Observes the element at the first place that waits, and lets its children wait before the other
places, until none waits. -/
def drain (scope : Scope) (limits : Limits) (l : Ledger) : List Place → Except Breach Ledger
  | [] => .ok l
  | p :: work => do
    let l ← l.observe scope limits p.1 p.2
    l.drain scope limits (Element.childPlaces p ++ work)
termination_by work => (work.flatMap fun p => placesFrom p.1 p.2).length
decreasing_by
  rw [List.flatMap_append, List.flatMap_cons, Element.placesFrom_eq_childPlaces p]
  simp only [List.length_append, List.length_cons]
  omega

/-- A stack of places is observed in document order. -/
lemma drain_eq_foldlM (scope : Scope) (limits : Limits) (l : Ledger) (work : List Place) :
    l.drain scope limits work =
      (work.flatMap fun p => placesFrom p.1 p.2).foldlM
        (fun l p => l.observe scope limits p.1 p.2) l := by
  induction l, work using drain.induct with
  | case1 l => rw [drain]; rfl
  | case2 l p work ih =>
    rw [drain, List.flatMap_cons, Element.placesFrom_eq_childPlaces, List.cons_append,
      List.foldlM_cons]
    -- The places below the first come before what waits, as they do in document order.
    apply bind_congr
    intro l
    rw [ih, List.flatMap_append]

/-- The walk by recursion is the walk with a stack. -/
lemma ofRoot_eq_drain (scope : Scope) (limits : Limits) (root : Element) :
    ofRoot scope limits root =
      (({} : Ledger).enter limits (keyAt scope ([], root))).bind
        fun l => l.drain scope limits [([], root)] := by
  simp only [drain_eq_foldlM, List.flatMap_cons, List.flatMap_nil, List.append_nil,
    ofRoot_eq_foldlM, Element.places_eq]

end Ledger

/-- What the type of a key says, if it says what the occurrences of the key in a document show. -/
structure SchemaType.Shows (scope : Scope) (root : Element) (k : TypeKey) (t : SchemaType) :
    Prop where
  name : t.name = k.tag
  attributes : t.attributes.keys =
    ((occurrences scope k root.places).flatMap
      fun e => e.attributes.keys.map Name.localPart).eraseDups
  children : t.children.keys =
    ((occurrences scope k root.places).flatMap fun e => e.children.map Element.localName).eraseDups
  /-- Each child is at the place of its own key, wherever it occurs. -/
  targets : ∀ p ∈ root.places, keyAt scope p = k → ∀ c ∈ p.2.children, ∀ d,
    (c.localName, d) ∈ t.children.entries →
      (typeKeys scope root)[d.target]? = some (keyAt scope (p.2 :: p.1, c))

/-- What a schema says, if it says what a document shows. -/
structure Schema.Describes (scope : Scope) (root : Element) (s : Schema) : Prop where
  /-- The keys are those of the elements, each of them once. -/
  keys : ∀ k, k ∈ typeKeys scope root ↔ ∃ p ∈ root.places, keyAt scope p = k
  nodup : (typeKeys scope root).Nodup
  /-- The first type is that of the root. -/
  first : s.root = 0 ∧ (typeKeys scope root)[s.root]? = some (keyAt scope ([], root))
  length : s.types.length = (typeKeys scope root).length
  /-- The types are in the order of the keys. -/
  types : ∀ (i : Nat) (k : TypeKey), (typeKeys scope root)[i]? = some k →
    ∃ t, s.types[i]? = some t ∧ t.Shows scope root k

/-- A type declares the children of which there is evidence, in their order. -/
lemma Evidence.keys_children_schemaType (v : Evidence) (tag name : String) :
    (v.schemaType tag name).children.keys = v.children.keys := by
  rw [schemaType, Table.keys, List.map_map]
  rfl

/-- The type with the evidence of a key shows it. -/
lemma Schema.shows_schemaType (scope : Scope) (root : Element) (k : TypeKey) (name : String) :
    ((evidenceOf scope (typeKeys scope root) root.places k).schemaType k.tag name).Shows
      scope root k where
  name := rfl
  attributes := Evidence.keys_attributes_ofElements _ _
  children := by
    rw [Evidence.keys_children_schemaType]
    exact Evidence.keys_children_ofElements _ _
  targets := by
    rintro p mem rfl c child d entry
    obtain ⟨⟨n, v⟩, seen, same⟩ := List.mem_map.mp entry
    obtain ⟨rfl, rfl⟩ := Prod.mk.inj same
    have target := Evidence.target_of_mem_ofElements seen
    have known : keyAt scope (p.2 :: p.1, c) ∈ typeKeys scope root :=
      TypeKey.mem_typeKeys_iff.mpr (.inr ⟨p, mem, List.mem_map_of_mem child⟩)
    simp only [TypeKey.tag_keyAt, ← TypeKey.keyAt_child] at target
    rw [Evidence.declaration, target, List.getElem?_eq_getElem (List.idxOf_lt_length_of_mem known),
      List.getElem_idxOf]

/-- The schema of a tree describes it. -/
lemma Schema.described_describes (scope : Scope) (root : Element) :
    (described scope root).Describes scope root where
  keys := fun _ => TypeKey.mem_typeKeys_iff_keyAt
  nodup := TypeKey.nodup_typeKeys scope root
  first := ⟨rfl, TypeKey.typeKeys_zero scope root⟩
  length := length_types_described scope root
  types := by
    intro i k at_i
    obtain ⟨name, _, type⟩ := getElem?_types_described at_i
    exact ⟨_, type, shows_schemaType scope root k name⟩

/-- Where there is room for its types, a tree of any names and texts has a schema: the stack of
places is drained, and the types that are then in the ledger say what the tree shows. -/
theorem infer_describes {scope : Scope} {limits : Limits} {root : Element}
    (room : (typeKeys scope root).length ≤ limits.types) :
    ∃ l, (({} : Ledger).enter limits (keyAt scope ([], root))).bind
        (fun l => l.drain scope limits [([], root)]) = .ok l ∧
      Schema.infer scope limits root = .ok ⟨root.name, root.namespace?, 0, l.types⟩ ∧
      Schema.Describes scope root ⟨root.name, root.namespace?, 0, l.types⟩ := by
  refine ⟨Ledger.run scope root root.places, ?_, ?_, ?_⟩
  · rw [← Ledger.ofRoot_eq_drain, Ledger.ofRoot_eq, Ledger.length_entries_run, if_pos room]
  · rw [Schema.infer_eq, if_pos room, Ledger.types_run]
    rfl
  · rw [Ledger.types_run]
    exact Schema.described_describes scope root

/-- A tag that recurs below itself, with different prefixes, needs three types where parents count. -/
theorem infer_describes_recurring :
    let root : Element := { name := "p:a", children := [{ name := "b" },
      { name := "q:a", children := [{ name := "b" }] }] }
    (typeKeys .parent root).length ≤ ({ types := 3 } : Limits).types ∧
      ∃ l, (({} : Ledger).enter { types := 3 } (keyAt .parent ([], root))).bind
          (fun l => l.drain .parent { types := 3 } [([], root)]) = .ok l ∧
        Schema.infer .parent { types := 3 } root =
          .ok ⟨root.name, root.namespace?, 0, l.types⟩ ∧
        Schema.Describes .parent root ⟨root.name, root.namespace?, 0, l.types⟩ := by
  intro root
  have room : (typeKeys .parent root).length ≤ ({ types := 3 } : Limits).types := by
    decide +kernel
  exact ⟨room, infer_describes room⟩

end XsdInfer
