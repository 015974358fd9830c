import XsdInfer.Proofs.Inference.Occurrences

/-!
# What a type says of its occurrences

What a type says of a child or of a value is decided by the occurrences of its key alone. Main
statements: a child may repeat just if a single occurrence has two of it (`infer_bounds`), and a
primitive type is that of all observed values, or a string if they differ (`infer_settles`). Both are
known of each type from what it tells of its elements (`SchemaType.Tells`).
-/

namespace XsdInfer

open TypeKey (typeKeys occurrences)

namespace Primitive

/-- The common type of some observations: the type that all of them are, or a string if there is no
such type. -/
structure Common (observed : List Primitive) (p : Primitive) : Prop where
  same : ∀ t, (∀ x ∈ observed, x = t) → p = t
  other : (∀ t, ∃ x ∈ observed, x ≠ t) → p = string

variable {l m : List Primitive} {p : Primitive}

/-- The type that a running unification comes to is the common type. -/
lemma common_of_joinAll (h : joinAll l = some p) : Common l p := by
  cases l with
  | nil => cases h
  | cons t l =>
    rw [joinAll_cons, Option.some_inj] at h
    subst h
    constructor
    · intro s all
      have first : t = s := all t (.head l)
      have rest : ∀ x ∈ l, x = t := fun x mem => (all x (.tail t mem)).trans first.symm
      rw [if_pos rest]
      exact first
    · intro differ
      obtain ⟨x, mem, other⟩ := differ t
      refine if_neg fun rest => ?_
      cases mem with
      | head => exact other rfl
      | tail _ mem => exact other (rest x mem)

end Primitive

namespace SchemaType

variable {es : List Element} {t : SchemaType}

/-! ## Bounds of children -/

/-- The bounds of the children that a type declares, if it is the type of given elements: no child
has to occur, and a child may repeat just if one of the elements has two of it. -/
structure Bounds (es : List Element) (t : SchemaType) : Prop where
  names : ∀ n, n ∈ t.children.keys ↔ ∃ e ∈ es, n ∈ e.childNames
  least : ∀ n d, t.children.get? n = some d → d.minOccurs = 0
  unbounded : ∀ n d, t.children.get? n = some d →
    (d.maxOccurs = .unbounded ↔ ∃ e ∈ es, 2 ≤ e.childNames.count n)
  /-- However many elements have the child, it occurs once if none of them has two of it. -/
  once : ∀ n d, t.children.get? n = some d →
    (d.maxOccurs = .bounded 1 ↔ ∀ e ∈ es, e.childNames.count n ≤ 1)

/-- A declaration says that a child need not occur, and occurs once or without bound. -/
lemma declaration_cases (c : ChildEvidence) :
    (Evidence.declaration c).minOccurs = 0 ∧
      ((Evidence.declaration c).maxOccurs = .unbounded ∨
        (Evidence.declaration c).maxOccurs = .bounded 1) := by
  cases repeated : c.repeated with
  | true => exact ⟨rfl, .inl (by rw [Evidence.declaration, repeated]; rfl)⟩
  | false => exact ⟨rfl, .inr (by rw [Evidence.declaration, repeated]; rfl)⟩

/-- Each child of a type with some evidence is declared by what was observed of it. -/
lemma exists_declaration {v : Evidence} {tag name n : String} {d : ChildDeclaration}
    (h : (v.schemaType tag name).children.get? n = some d) : ∃ c, d = Evidence.declaration c := by
  rw [Evidence.get?_children_schemaType] at h
  obtain ⟨c, -, same⟩ := Option.map_eq_some_iff.mp h
  exact ⟨c, same.symm⟩

/-- What a type tells of some elements bounds its children. -/
lemma Tells.bounds (told : t.Tells es)
    (declared : ∀ n d, t.children.get? n = some d → ∃ c, d = Evidence.declaration c) :
    t.Bounds es := by
  have unbounded (n : String) (d : ChildDeclaration) (child : t.children.get? n = some d) :
      d.maxOccurs = .unbounded ↔ ∃ e ∈ es, 2 ≤ e.childNames.count n := by
    have may : t.MayRepeat n ↔ d.maxOccurs = .unbounded := by
      simp only [MayRepeat, child, Option.some_inj, exists_eq_left']
    rw [← may, told.mayRepeat]
    simp only [Element.repeats, decide_eq_true_eq, Nat.lt_iff_add_one_le]
  refine ⟨told.childNames, ?_, unbounded, ?_⟩
  · intro n d child
    obtain ⟨c, rfl⟩ := declared n d child
    exact (declaration_cases c).1
  · intro n d child
    have never : (∀ e ∈ es, e.childNames.count n ≤ 1) ↔ d.maxOccurs ≠ .unbounded := by
      rw [ne_eq, unbounded n d child]
      push Not
      exact forall₂_congr fun e _ => by omega
    obtain ⟨c, rfl⟩ := declared n d child
    rw [never]
    obtain many | once := (declaration_cases c).2
    · rw [many]
      exact iff_of_false (by decide) (not_not_intro rfl)
    · rw [once]
      exact iff_of_true rfl (by decide)

/-! ## Types of values -/

/-- The types of the values that a type gives to the attributes and to the text, if it is the type of
given elements. -/
structure Settles (es : List Element) (t : SchemaType) : Prop where
  /-- An attribute has the common type of its values, whatever the prefixes of its names. -/
  attributes : ∀ n p, t.attributes.get? n = some p →
    Primitive.Common (es.flatMap fun e => e.attributeTypes n) p
  /-- The values of an attribute may be unified in any order, and any number of times. -/
  anyOrder : ∀ n l, (∀ p, p ∈ l ↔ p ∈ es.flatMap fun e => e.attributeTypes n) →
    t.attributes.get? n = Primitive.joinAll l
  /-- A simple type, or simple content, has the common type of the texts. -/
  text : t.kind = .simple ∨ (∃ base, t.content? = some (.simple base)) →
    ∃ p, t.primitive = some p ∧ Primitive.Common (es.map Element.textType) p
  base : ∀ base, t.content? = some (.simple base) → t.primitive = some base
  /-- The texts may be unified in any order, and any number of times. -/
  anyTextOrder : ∀ p l, t.primitive = some p → (∀ p, p ∈ l ↔ p ∈ es.map Element.textType) →
    Primitive.joinAll l = some p

/-- What a content says of the other fields of a complex type. -/
def IsContent (t : SchemaType) : Content → Prop
  | .empty => t.children.entries = [] ∧ t.primitive = none
  | .simple base => t.children.entries = [] ∧ t.primitive = some base
  | .elements => t.children.entries ≠ [] ∧ t.isMixed = false
  | .mixed => t.children.entries ≠ [] ∧ t.isMixed = true

/-- Only complex types have content, and it is decided by the other fields. -/
lemma content_eq_some_iff {content : Content} :
    t.content? = some content ↔ t.kind = .complex ∧ t.IsContent content := by
  rw [content?]
  cases t.kind with
  | simple => simp
  | complex =>
    by_cases childless : t.children.entries = []
    · cases typed : t.primitive <;> cases content <;> simp [IsContent, childless, typed]
    · cases mixed : t.isMixed <;> cases content <;> simp [IsContent, childless, mixed]

/-- Simple content has the primitive type of the type. -/
lemma primitive_of_content {base : Primitive} (h : t.content? = some (.simple base)) :
    t.primitive = some base :=
  (content_eq_some_iff.mp h).2.2

/-- A type that tells of elements has some type for their texts. -/
lemma Tells.exists_joinAll (told : t.Tells es) :
    ∃ p, Primitive.joinAll (es.map Element.textType) = some p :=
  Option.ne_none_iff_exists'.mp fun none =>
    told.nonempty (List.map_eq_nil_iff.mp (Primitive.joinAll_eq_none_iff.mp none))

/-- What a type tells of some elements settles the types of their values. -/
lemma Tells.settles (told : t.Tells es) : t.Settles es where
  attributes := fun n p typed => Primitive.common_of_joinAll (told.attributes n ▸ typed)
  anyOrder := fun n l same => (told.attributes n).trans (Primitive.joinAll_congr same).symm
  text := by
    have common (p : Primitive) (typed : t.primitive = some p) :
        Primitive.Common (es.map Element.textType) p :=
      Primitive.common_of_joinAll ((told.primitive p).mp typed).1
    rintro (simple | ⟨base, content⟩)
    · obtain ⟨p, joined⟩ := told.exists_joinAll
      have typed : t.primitive = some p := (told.primitive_of_simple simple).trans joined
      exact ⟨p, typed, common p typed⟩
    · exact ⟨base, primitive_of_content content, common base (primitive_of_content content)⟩
  base := fun _ content => primitive_of_content content
  anyTextOrder := fun p l typed same =>
    (Primitive.joinAll_congr same).trans ((told.primitive p).mp typed).1

end SchemaType

/-! ## Types of a document -/

namespace Schema

variable {scope : Scope} {root : Element} {i : Nat} {k : TypeKey}

/-- The type of a key bounds its children by the occurrences of the key. -/
lemma exists_bounds (h : (typeKeys scope root)[i]? = some k) :
    ∃ t, (described scope root).types[i]? = some t ∧ t.Bounds (occurrences scope k root.places) := by
  obtain ⟨t, here, -, told, -⟩ := exists_tells h
  obtain ⟨name, -, type⟩ := getElem?_types_described h
  refine ⟨t, here, told.bounds fun n d child => ?_⟩
  obtain rfl := Option.some.inj (here.symm.trans type)
  exact SchemaType.exists_declaration child

end Schema

/-- Where there is room for the types, each type declares the children of the occurrences of its key:
none of them has to occur, and one may repeat just if a single occurrence has two of it, whatever
their prefixes. -/
theorem infer_bounds {scope : Scope} {limits : Limits} {root : Element}
    (room : (typeKeys scope root).length ≤ limits.types) :
    ∃ s, Schema.infer scope limits root = .ok s ∧ s.Describes scope root ∧
      ∀ (i : Nat) (k : TypeKey), (typeKeys scope root)[i]? = some k →
        ∃ t, s.types[i]? = some t ∧ t.Bounds (occurrences scope k root.places) := by
  refine ⟨Schema.described scope root, ?_, Schema.described_describes scope root, ?_⟩
  · rw [Schema.infer_eq, if_pos room]
  · exact fun i k here => Schema.exists_bounds here

/-- A tag that occurs under three parents, and twice under one of them with two prefixes. -/
theorem infer_bounds_scattered :
    let item : Element := { name := "p:item" }
    let pair : Element := { name := "box", children := [item, { name := "note" }, { name := "q:item" }] }
    let root : Element := { name := "r", children := [
      { name := "box", children := [item, { name := "note" }] }, { name := "r", children := [pair] },
      { name := "bag", children := [item] }] }
    (typeKeys .parent root).length ≤ ({ types := 8 } : Limits).types ∧
      ∃ s, Schema.infer .parent { types := 8 } root = .ok s ∧ s.Describes .parent root ∧
        ∀ (i : Nat) (k : TypeKey), (typeKeys .parent root)[i]? = some k →
          ∃ t, s.types[i]? = some t ∧ t.Bounds (occurrences .parent k root.places) := by
  intro item pair root
  have room : (typeKeys .parent root).length ≤ ({ types := 8 } : Limits).types := by
    decide +kernel
  exact ⟨room, infer_bounds room⟩

/-- Where there is room for the types, each type gives an attribute the common type of its values on
the occurrences of its key, and a simple value that of the texts, and a string if these differ. -/
theorem infer_settles {scope : Scope} {limits : Limits} {root : Element}
    (room : (typeKeys scope root).length ≤ limits.types) :
    ∃ s, Schema.infer scope limits root = .ok s ∧ s.Describes scope root ∧
      ∀ (i : Nat) (k : TypeKey), (typeKeys scope root)[i]? = some k →
        ∃ t, s.types[i]? = some t ∧ t.Settles (occurrences scope k root.places) := by
  refine ⟨Schema.described scope root, ?_, Schema.described_describes scope root, ?_⟩
  · rw [Schema.infer_eq, if_pos room]
  · intro i k here
    obtain ⟨t, type, -, told, -⟩ := Schema.exists_tells here
    exact ⟨t, type, told.settles⟩

/-- Two attributes of one local name on one element, and texts that differ. -/
theorem infer_settles_differing :
    let first : Element := { name := "v", attributes := ⟨[("p:k", "1"), ("k", "-2")]⟩, text := some "7" }
    let second : Element := { name := "q:v", attributes := ⟨[("k", "3")]⟩, text := some "true" }
    let root : Element := { name := "r", children := [first, { name := "w", children := [second] }, first] }
    (typeKeys .global root).length ≤ ({ types := 3 } : Limits).types ∧
      ∃ s, Schema.infer .global { types := 3 } root = .ok s ∧ s.Describes .global root ∧
        ∀ (i : Nat) (k : TypeKey), (typeKeys .global root)[i]? = some k →
          ∃ t, s.types[i]? = some t ∧ t.Settles (occurrences .global k root.places) := by
  intro first second root
  have room : (typeKeys .global root).length ≤ ({ types := 3 } : Limits).types := by
    decide +kernel
  exact ⟨room, infer_settles room⟩

end XsdInfer
