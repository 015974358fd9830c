import XsdInfer.Proofs.Element.Places
import XsdInfer.Proofs.FirstSeen
import XsdInfer.Schema.Inference

/-!
# The schema that a tree describes

A tree describes a schema without any ledger: its types are the keys of its places in the order of
first sight, and the type of a key shows the evidence of the occurrences of the key
(`Schema.described`). Main statements: the attributes and children of that evidence are those of the
occurrences in the order of first sight, and each child is at the place of its own key.
-/

namespace XsdInfer

open Element (Place)

namespace TypeKey

/-- The key of the element at a place. -/
def keyAt (scope : Scope) (p : Place) : TypeKey :=
  ofPlace scope p.1 p.2

/-- The keys of the children of the element at a place. -/
def childKeys (scope : Scope) (p : Place) : List TypeKey :=
  p.2.children.map fun c => keyAt scope (p.2 :: p.1, c)

/-- The keys that are met when the root is met and then, place by place, the children there. -/
def metKeys (scope : Scope) (root : Element) (ps : List Place) : List TypeKey :=
  keyAt scope ([], root) :: ps.flatMap (childKeys scope)

/-- The keys of the types of a document. -/
def typeKeys (scope : Scope) (root : Element) : List TypeKey :=
  (metKeys scope root root.places).eraseDups

/-- The elements with a given key, at some places. -/
def occurrences (scope : Scope) (k : TypeKey) (ps : List Place) : List Element :=
  (ps.filter fun p => keyAt scope p = k).map Prod.snd

/-- The key of a child comes from the name of its parent and its own. -/
lemma keyAt_child (scope : Scope) (p : Place) (c : Element) :
    keyAt scope (p.2 :: p.1, c) = ofNames scope (some p.2.localName) c.localName := rfl

/-- The keys of the children of a place come from their names. -/
lemma childKeys_eq (scope : Scope) (p : Place) :
    childKeys scope p =
      (p.2.children.map Element.localName).map (ofNames scope (some p.2.localName)) := by
  rw [childKeys, List.map_map]
  rfl

/-- A key has the tag for which it was made. -/
@[simp]
lemma tag_ofNames (scope : Scope) (parent : Option String) (tag : String) :
    (ofNames scope parent tag).tag = tag := by
  cases scope <;> rfl

/-- The key at a place has the name of the element there. -/
@[simp]
lemma tag_keyAt (scope : Scope) (p : Place) : (keyAt scope p).tag = p.2.localName :=
  tag_ofNames scope _ _

/-- The key of a place depends on the local names there and above alone. -/
lemma keyAt_eq_of_paired {R : Element → Element → Prop}
    (names : ∀ e e', R e e' → e.localName = e'.localName) {p p' : Place}
    (h : Element.Paired R p p') (scope : Scope) : keyAt scope p = keyAt scope p' := by
  rw [keyAt, keyAt, ofPlace, ofPlace, h.above, names _ _ h.here]

/-- Under one tag, the tags of children tell their keys apart. -/
lemma ofNames_injective (scope : Scope) (parent : Option String) :
    Function.Injective (ofNames scope parent) := by
  intro a b same
  rw [← tag_ofNames scope parent a, same, tag_ofNames]

/-- At one more place, the keys of its children are met. -/
lemma metKeys_concat (scope : Scope) (root : Element) (ps : List Place) (p : Place) :
    metKeys scope root (ps ++ [p]) = metKeys scope root ps ++ childKeys scope p := by
  simp [metKeys]

/-- At one more place, there is one more element of the key that is there. -/
lemma occurrences_concat (scope : Scope) (k : TypeKey) (ps : List Place) (p : Place) :
    occurrences scope k (ps ++ [p]) =
      occurrences scope k ps ++ if keyAt scope p = k then [p.2] else [] := by
  by_cases h : keyAt scope p = k <;> simp [occurrences, h]

/-- An element occurs under the key of its place. -/
lemma mem_occurrences_iff {scope : Scope} {k : TypeKey} {ps : List Place} {e : Element} :
    e ∈ occurrences scope k ps ↔ ∃ path, (path, e) ∈ ps ∧ keyAt scope (path, e) = k := by
  simp [occurrences]

/-- No key has two types. -/
lemma nodup_typeKeys (scope : Scope) (root : Element) : (typeKeys scope root).Nodup :=
  FirstSeen.nodup_eraseDups _

/-- The first type is that of the root. -/
lemma typeKeys_zero (scope : Scope) (root : Element) :
    (typeKeys scope root)[0]? = some (keyAt scope ([], root)) := by
  rw [typeKeys, metKeys, List.eraseDups_cons, List.getElem?_cons_zero]

/-- There is a type for the key of the root and for those of the children at each place. -/
lemma mem_typeKeys_iff {scope : Scope} {root : Element} {k : TypeKey} :
    k ∈ typeKeys scope root ↔
      k = keyAt scope ([], root) ∨ ∃ p ∈ root.places, k ∈ childKeys scope p := by
  simp [typeKeys, metKeys]

/-- The keys of a document are those of its places. -/
lemma mem_typeKeys_iff_keyAt {scope : Scope} {root : Element} {k : TypeKey} :
    k ∈ typeKeys scope root ↔ ∃ p ∈ root.places, keyAt scope p = k := by
  rw [mem_typeKeys_iff, Element.places_eq]
  constructor
  · rintro (rfl | ⟨p, mem, child⟩)
    · exact ⟨_, Element.self_mem_placesFrom [] root, rfl⟩
    · obtain ⟨c, below, rfl⟩ := List.mem_map.mp child
      exact ⟨_, Element.child_mem_placesFrom mem below, rfl⟩
  · -- Each place but the root's is that of a child of an earlier one.
    rintro ⟨p, mem, rfl⟩
    obtain ⟨before, after, split⟩ := List.append_of_mem mem
    obtain rfl | ⟨q, earlier, path, below⟩ := Element.parent_of_split split
    · exact .inl rfl
    · refine .inr ⟨q, by rw [split]; exact List.mem_append_left _ earlier, ?_⟩
      refine List.mem_map.mpr ⟨p.2, below, ?_⟩
      rw [← path]

end TypeKey

namespace Evidence

/-- The evidence of some elements, the places of whose children are known by name. -/
def ofElements (placeOf : String → Nat) (es : List Element) : Evidence :=
  es.foldl (fun v e => v.see placeOf e) {}

/-- The evidence of one more element is added to that of the others. -/
lemma ofElements_concat (placeOf : String → Nat) (es : List Element) (e : Element) :
    ofElements placeOf (es ++ [e]) = (ofElements placeOf es).see placeOf e := by
  simp [ofElements]

/-- The evidence of children depends on their own places alone. -/
lemma foldl_seeChildren_congr {f g : String → Nat} {counts : List (String × Nat)}
    (h : ∀ c ∈ counts, f c.1 = g c.1) (t : Table String ChildEvidence) :
    counts.foldl (seeChildren f) t = counts.foldl (seeChildren g) t :=
  List.foldl_ext _ _ t fun t c mem => by simp only [seeChildren, h c mem]

/-- The evidence of an element depends on the places of its own children alone. -/
lemma see_congr {f g : String → Nat} {e : Element} (h : ∀ n ∈ e.childCounts.keys, f n = g n)
    (v : Evidence) : v.see f e = v.see g e := by
  rw [see, see, foldl_seeChildren_congr fun c mem => h c.1 (List.mem_map_of_mem mem)]

/-- The children of an element are counted by name, in the order in which the names are first seen. -/
lemma keys_childCounts (e : Element) :
    e.childCounts.keys = (e.children.map Element.localName).eraseDups := by
  have start : ({} : Table String Nat).keys = [].eraseDups := rfl
  have := Table.keys_foldl_alter start Element.localName (fun _ n => n.getD 0 + 1) e.children
  rwa [List.nil_append] at this

/-- There is evidence of the attributes by name, in the order in which the names are first seen. -/
lemma keys_attributes_ofElements (placeOf : String → Nat) (es : List Element) :
    (ofElements placeOf es).attributes.keys =
      (es.flatMap fun e => e.attributes.keys.map Name.localPart).eraseDups := by
  induction es using List.reverseRecOn with
  | nil => rfl
  | append_singleton es e ih =>
    rw [ofElements_concat, see]
    have := Table.keys_foldl_alter ih (fun a : String × String => Name.localPart a.1)
      (fun a => Primitive.join (Primitive.infer a.2)) e.attributes.entries
    simp only [List.flatMap_append, List.flatMap_cons, List.flatMap_nil, List.append_nil]
    rw [show e.attributes.keys.map Name.localPart =
      e.attributes.entries.map (fun a => Name.localPart a.1) from List.map_map]
    exact this

/-- There is evidence of the children by name, in the order in which the names are first seen. -/
lemma keys_children_ofElements (placeOf : String → Nat) (es : List Element) :
    (ofElements placeOf es).children.keys =
      (es.flatMap fun e => e.children.map Element.localName).eraseDups := by
  induction es using List.reverseRecOn with
  | nil => rfl
  | append_singleton es e ih =>
    rw [ofElements_concat, see]
    have step : (e.childCounts.entries.foldl (seeChildren placeOf)
        (ofElements placeOf es).children).keys = _ :=
      Table.keys_foldl_alter ih Prod.fst (fun c => _) e.childCounts.entries
    simp only [List.flatMap_append, List.flatMap_cons, List.flatMap_nil, List.append_nil]
    rw [step, ← FirstSeen.eraseDups_append_eraseDups _ (e.children.map Element.localName),
      ← keys_childCounts, Table.keys]

/-- The evidence of a child points to the place of its name. -/
lemma target_of_mem_ofElements {placeOf : String → Nat} {es : List Element}
    {c : String × ChildEvidence} (h : c ∈ (ofElements placeOf es).children.entries) :
    c.2.target = placeOf c.1 := by
  induction es using List.reverseRecOn generalizing c with
  | nil => cases h
  | append_singleton es e ih =>
    rw [ofElements_concat, see] at h
    -- New entries point there, and the others keep the place that they point to.
    have kept (counts : List (String × Nat)) (t : Table String ChildEvidence)
        (start : ∀ c ∈ t.entries, c.2.target = placeOf c.1) :
        ∀ c ∈ (counts.foldl (seeChildren placeOf) t).entries, c.2.target = placeOf c.1 := by
      induction counts generalizing t with
      | nil => exact start
      | cons n counts ih =>
        refine ih _ (Table.forall_mem_alter (P := fun n (v : ChildEvidence) => v.target = placeOf n)
          start rfl ?_)
        exact fun v same => same
    exact kept _ _ (fun _ mem => ih mem) c h

end Evidence

namespace Schema

/-- The pool that has handed out names for given bases. -/
def pool (bases : List String) : Name.Pool :=
  bases.foldl (fun p base => (p.assign base).2) {}

/-- The names of the types with given keys. -/
def typeNames (keys : List TypeKey) : List String :=
  (pool (keys.map TypeKey.baseName)).taken.reverse

/-- The evidence of the type with a given key at some places, where the types of the document have
given keys. -/
def evidenceOf (scope : Scope) (keys : List TypeKey) (ps : List Place) (k : TypeKey) : Evidence :=
  .ofElements (fun n => keys.idxOf (.ofNames scope (some k.tag) n)) (TypeKey.occurrences scope k ps)

/-- The schema that a document describes. -/
def described (scope : Scope) (root : Element) : Schema where
  rootName := root.name
  targetNamespace := root.namespace?
  root := 0
  types :=
    let keys := TypeKey.typeKeys scope root
    (keys.zip (typeNames keys)).map fun (k, name) =>
      (evidenceOf scope keys root.places k).schemaType k.tag name

/-- Trees with the same keys and the same evidence describe the same types. -/
lemma types_described_congr {scope : Scope} {root root' : Element}
    (keys : TypeKey.typeKeys scope root = TypeKey.typeKeys scope root')
    (evidence : ∀ placeOf k, Evidence.ofElements placeOf (TypeKey.occurrences scope k root.places) =
      Evidence.ofElements placeOf (TypeKey.occurrences scope k root'.places)) :
    (described scope root).types = (described scope root').types := by
  simp only [described, keys, evidenceOf, evidence]

/-- The last name is handed out by the pool of those before it. -/
lemma pool_concat (bases : List String) (base : String) :
    pool (bases ++ [base]) = ((pool bases).assign base).2 := by
  simp [pool]

/-- As many names have been handed out as were asked for. -/
lemma length_taken_pool (bases : List String) : (pool bases).taken.length = bases.length := by
  induction bases using List.reverseRecOn with
  | nil => rfl
  | append_singleton bases base ih =>
    rw [pool_concat, Name.Pool.taken_assign, List.length_cons, ih, List.length_append,
      List.length_singleton]

/-- Every key gets a name. -/
lemma length_typeNames (keys : List TypeKey) : (typeNames keys).length = keys.length := by
  rw [typeNames, List.length_reverse, length_taken_pool, List.length_map]

/-- One more key gets its name after the others. -/
lemma typeNames_concat (keys : List TypeKey) (k : TypeKey) :
    typeNames (keys ++ [k]) =
      typeNames keys ++ [((pool (keys.map TypeKey.baseName)).assign k.baseName).1] := by
  rw [typeNames, List.map_append, List.map_singleton, pool_concat, Name.Pool.taken_assign,
    List.reverse_cons, typeNames]

/-- There is one type for each key. -/
lemma length_types_described (scope : Scope) (root : Element) :
    (described scope root).types.length = (TypeKey.typeKeys scope root).length := by
  simp [described, length_typeNames]

/-- The types have the names that are handed out to the keys. -/
lemma map_typeName_described (scope : Scope) (root : Element) :
    (described scope root).types.map SchemaType.typeName =
      typeNames (TypeKey.typeKeys scope root) := by
  have names : ((TypeKey.typeKeys scope root).zip
      (typeNames (TypeKey.typeKeys scope root))).map Prod.snd = _ :=
    List.map_snd_zip (Nat.le_of_eq (length_typeNames _))
  rw [described, List.map_map]
  exact names

/-- The type of a key is made of the evidence of its elements and the name that is handed out to it. -/
lemma getElem?_types_described {scope : Scope} {root : Element} {i : Nat} {k : TypeKey}
    (h : (TypeKey.typeKeys scope root)[i]? = some k) :
    ∃ name, (typeNames (TypeKey.typeKeys scope root))[i]? = some name ∧
      (described scope root).types[i]? = some
        ((evidenceOf scope (TypeKey.typeKeys scope root) root.places k).schemaType k.tag name) := by
  obtain ⟨inside, _⟩ := List.getElem?_eq_some_iff.mp h
  rw [← length_typeNames] at inside
  have name := List.getElem?_eq_getElem inside
  have both : ((TypeKey.typeKeys scope root).zip (typeNames (TypeKey.typeKeys scope root)))[i]? =
      some (k, _) := List.getElem?_zip_eq_some.mpr ⟨h, name⟩
  refine ⟨_, name, ?_⟩
  simp only [described, List.getElem?_map, both, Option.map_some]

end Schema

end XsdInfer
