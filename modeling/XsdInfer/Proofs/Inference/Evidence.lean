import Mathlib.Data.List.Forall2
import XsdInfer.Proofs.Inference.Described

/-!
# What evidence says of a name

Evidence is gathered element by element, but what it says of a name depends on the observations of
that name alone. Main statements: an attribute has the common type of all its values
(`Evidence.get?_attributes_ofElements`), a child repeats if a single element has two of it
(`Evidence.get?_children_ofElements`), and the text has the common type of all texts
(`Evidence.text_ofElements`).
-/

namespace XsdInfer

/-- What some member of a list shows, some member shows of a list that corresponds to it. -/
lemma exists_mem_iff_of_forall₂ {α β : Type} {R : α → β → Prop} {l : List α} {m : List β}
    (h : List.Forall₂ R l m) {P : α → Prop} {Q : β → Prop} (same : ∀ a b, R a b → (P a ↔ Q b)) :
    (∃ a ∈ l, P a) ↔ ∃ b ∈ m, Q b := by
  induction h with
  | nil => simp
  | @cons a b l m first _ ih =>
    rw [List.exists_mem_cons_iff, List.exists_mem_cons_iff, ih, same a b first]

namespace Table

variable {α β γ : Type} [DecidableEq α]

/-- What a table that is filled in a loop says of a key depends on the members for that key. -/
lemma get?_foldl_alter (key : γ → α) (f : γ → Option β → β) (l : List γ) (t : Table α β) (k : α) :
    (l.foldl (fun t c => t.alter (key c) (f c)) t).get? k =
      (l.filter fun c => key c = k).foldl (fun v c => some (f c v)) (t.get? k) := by
  induction l generalizing t with
  | nil => rfl
  | cons c l ih =>
    rw [List.foldl_cons, ih, get?_alter]
    by_cases here : key c = k
    · simp [here]
    · simp [here, Ne.symm here]

/-- A key that is entered once has at most one entry. -/
lemma filter_entries {t : Table α β} (h : t.keys.Nodup) (k : α) :
    (t.entries.filter fun c => c.1 = k) = ((t.get? k).map fun v => (k, v)).toList := by
  cases found : t.get? k with
  | none =>
    refine List.filter_eq_nil_iff.mpr fun c mem same => ?_
    have other : k ≠ c.1 := by simpa using List.lookup_eq_none_iff.mp found c mem
    exact other (of_decide_eq_true same).symm
  | some v => exact FirstSeen.filter_eq_singleton h (mem_of_lookup found)

/-- An entry of a table without repeated keys is found under its key. -/
lemma get?_of_mem {t : Table α β} (h : t.keys.Nodup) {k : α} {v : β} (mem : (k, v) ∈ t.entries) :
    t.get? k = some v := by
  have kept : (k, v) ∈ t.entries.filter fun c => c.1 = k :=
    List.mem_filter.mpr ⟨mem, decide_eq_true rfl⟩
  rw [filter_entries h k] at kept
  simpa using kept

/-- A table is empty if it says nothing of any key. -/
lemma entries_eq_nil_iff {t : Table α β} : t.entries = [] ↔ ∀ k, t.get? k = none := by
  obtain ⟨entries⟩ := t
  cases entries with
  | nil => simp [get?]
  | cons c entries =>
    refine ⟨nofun, fun h => ?_⟩
    have here := h c.1
    simp [get?] at here

/-- The entries of a table are its keys with their values. -/
lemma entries_eq {t : Table α β} (nodup : t.keys.Nodup) :
    t.entries = t.keys.filterMap fun k => (t.get? k).map fun v => (k, v) := by
  obtain ⟨entries⟩ := t
  show entries = (entries.map Prod.fst).filterMap fun k => (entries.lookup k).map fun v => (k, v)
  induction entries with
  | nil => rfl
  | cons c entries ih =>
    obtain ⟨new, nodup⟩ := List.nodup_cons.mp nodup
    have behind : ∀ k ∈ entries.map Prod.fst,
        ((c :: entries).lookup k).map (fun v => (k, v)) = (entries.lookup k).map fun v => (k, v) := by
      intro k mem
      have other : k ≠ c.1 := fun same => new (same ▸ mem)
      rw [List.lookup_cons, beq_false_of_ne other]
    rw [List.map_cons, List.filterMap_cons_some (by rw [List.lookup_cons_self]; rfl),
      List.filterMap_congr behind, ← ih nodup]

/-- Two tables are the same, if they have the same keys in order and say the same of each. -/
lemma ext_of_keys {t t' : Table α β} (nodup : t.keys.Nodup) (keys : t.keys = t'.keys)
    (values : ∀ k, t.get? k = t'.get? k) : t = t' := by
  have entries : t.entries = t'.entries := by
    rw [entries_eq nodup, entries_eq (keys ▸ nodup), keys]
    simp only [values]
  cases t
  cases t'
  exact congrArg Table.mk entries

/-- A table has a value for each of its keys, and for no other. -/
lemma exists_get?_iff {t : Table α β} {k : α} : (∃ v, t.get? k = some v) ↔ k ∈ t.keys := by
  obtain ⟨entries⟩ := t
  show (∃ v, entries.lookup k = some v) ↔ k ∈ entries.map Prod.fst
  induction entries with
  | nil => simp
  | cons c entries ih =>
    rw [List.map_cons, List.mem_cons, ← ih, List.lookup_cons]
    by_cases here : k = c.1
    · simp [here]
    · simp [here, beq_false_of_ne here]

/-- What is found in a list whose values are changed is changed in the same way. -/
lemma lookup_map {δ : Type} (g : β → δ) (l : List (α × β)) (k : α) :
    (l.map fun c => (c.1, g c.2)).lookup k = (l.lookup k).map g := by
  induction l with
  | nil => rfl
  | cons c l ih =>
    rw [List.map_cons, List.lookup_cons, List.lookup_cons, ih]
    cases k == c.1 <;> rfl

end Table

namespace Primitive

/-- The common type of some observations, if there are any. -/
def joinAll (observed : List Primitive) : Option Primitive :=
  observed.foldl (fun soFar t => some (join t soFar)) none

/-- The types of two lists are joined one after another. -/
lemma joinAll_append (l m : List Primitive) :
    joinAll (l ++ m) = m.foldl (fun soFar t => some (join t soFar)) (joinAll l) :=
  List.foldl_append

/-- It does not matter in which order two types are joined to what is known. -/
lemma join_right_comm (s t : Primitive) (soFar : Option Primitive) :
    join t (some (join s soFar)) = join s (some (join t soFar)) := by
  cases soFar with
  | none => exact unify_comm s t
  | some r =>
    show unify (unify r s) t = unify (unify r t) s
    rw [unify_assoc, unify_comm s t, ← unify_assoc]

/-- The common type does not depend on the order of the observations. -/
lemma joinAll_perm {l m : List Primitive} (h : l.Perm m) : joinAll l = joinAll m :=
  h.foldl_eq' (fun s _ t _ soFar => congrArg some (join_right_comm s t soFar)) none

end Primitive

namespace Element

/-- The local names of the children. -/
abbrev childNames (e : Element) : List String :=
  e.children.map localName

/-- Elements that correspond one by one have the same local names in order. -/
lemma map_localName_eq {R : Element → Element → Prop}
    (names : ∀ e e', R e e' → e.localName = e'.localName) {es es' : List Element}
    (h : List.Forall₂ R es es') : es.map localName = es'.map localName := by
  induction h with
  | nil => rfl
  | @cons e e' _ _ first _ ih => rw [List.map_cons, List.map_cons, names e e' first, ih]

/-- The types of the values of the attributes with a given local name. -/
def attributeTypes (e : Element) (n : String) : List Primitive :=
  (e.attributes.entries.filter fun a => Name.localPart a.1 = n).map fun a => Primitive.infer a.2

/-- Whether there are two children or more with a given local name. -/
def repeats (e : Element) (n : String) : Bool :=
  decide (1 < e.childNames.count n)

/-- A child that repeats is a child. -/
lemma mem_childNames_of_repeats {e : Element} {n : String} (h : e.repeats n = true) :
    n ∈ e.childNames := by
  have two : 1 < e.childNames.count n := of_decide_eq_true h
  exact List.count_pos_iff.mp (by omega)

/-- A child is counted as often as its name occurs. -/
lemma get?_childCounts (e : Element) (n : String) :
    e.childCounts.get? n = if n ∈ e.childNames then some (e.childNames.count n) else none := by
  rw [childCounts, childNames]
  generalize e.children = cs
  induction cs using List.reverseRecOn with
  | nil => rfl
  | append_singleton cs c ih =>
    rw [List.foldl_append, List.foldl_cons, List.foldl_nil, Table.get?_alter, List.map_append,
      List.map_singleton, List.count_append]
    by_cases here : n = c.localName
    · rw [← here, ih]
      by_cases old : n ∈ cs.map localName
      · simp [old]
      · simp [old, List.count_eq_zero.mpr old]
    · simp [here, Ne.symm here, ih]

end Element

namespace Evidence

variable {placeOf : String → Nat}

/-- The evidence of a child with one more element that has it added. -/
def seeChild (placeOf : String → Nat) (e : Element) (n : String) :
    Option ChildEvidence → ChildEvidence
  | some v => { v with repeated := v.repeated || e.repeats n }
  | none => ⟨placeOf n, e.repeats n⟩

/-- What is known of a child after one more element, if it has that child or not. -/
lemma get?_children_see (e : Element) (v : Evidence) (n : String) :
    (v.see placeOf e).children.get? n =
      if n ∈ e.childNames then some (seeChild placeOf e n (v.children.get? n))
      else v.children.get? n := by
  have nodup : e.childCounts.keys.Nodup := by
    rw [keys_childCounts]
    exact FirstSeen.nodup_eraseDups _
  have step : (v.see placeOf e).children.get? n = _ :=
    Table.get?_foldl_alter Prod.fst (fun c => _) e.childCounts.entries v.children n
  rw [step, Table.filter_entries nodup, Element.get?_childCounts]
  by_cases mem : n ∈ e.childNames
  · rw [if_pos mem, if_pos mem]
    cases v.children.get? n <;> rfl
  · rw [if_neg mem, if_neg mem]
    rfl

/-- A child that some element has is at the place that is given for its name, and repeats if a
single element has two of it. -/
lemma get?_children_ofElements (es : List Element) (n : String) :
    (ofElements placeOf es).children.get? n =
      if n ∈ es.flatMap Element.childNames
      then some ⟨placeOf n, es.any (Element.repeats · n)⟩ else none := by
  induction es using List.reverseRecOn with
  | nil => rfl
  | append_singleton es e ih =>
    rw [ofElements_concat, get?_children_see, ih]
    have fresh (absent : n ∉ es.flatMap Element.childNames) :
        es.any (Element.repeats · n) = false := by
      refine List.any_eq_false.mpr fun e mem two => absent ?_
      exact List.mem_flatMap.mpr ⟨e, mem, Element.mem_childNames_of_repeats two⟩
    have once (absent : n ∉ e.childNames) : e.repeats n = false :=
      Bool.eq_false_iff.mpr fun two => absent (Element.mem_childNames_of_repeats two)
    simp only [List.flatMap_append, List.flatMap_cons, List.flatMap_nil, List.append_nil,
      List.mem_append, List.any_append, List.any_cons, List.any_nil, Bool.or_false]
    by_cases old : n ∈ es.flatMap Element.childNames <;> by_cases new : n ∈ e.childNames
    · simp [old, new, seeChild]
    · simp [old, new, once]
    · simp [old, new, fresh, seeChild]
    · simp [old, new]

/-- An attribute has the common type of its values on all elements. -/
lemma get?_attributes_ofElements (es : List Element) (n : String) :
    (ofElements placeOf es).attributes.get? n =
      Primitive.joinAll (es.flatMap fun e => e.attributeTypes n) := by
  induction es using List.reverseRecOn with
  | nil => rfl
  | append_singleton es e ih =>
    have step : ((ofElements placeOf es).see placeOf e).attributes.get? n = _ :=
      Table.get?_foldl_alter (fun a : String × String => Name.localPart a.1)
        (fun a => Primitive.join (Primitive.infer a.2)) e.attributes.entries _ n
    rw [ofElements_concat, step, ih, List.flatMap_append, List.flatMap_singleton,
      Primitive.joinAll_append, Element.attributeTypes, List.foldl_map]

/-- The text has the common type of the texts of all elements. -/
lemma text_ofElements (es : List Element) :
    (ofElements placeOf es).text = Primitive.joinAll (es.map Element.textType) := by
  induction es using List.reverseRecOn with
  | nil => rfl
  | append_singleton es e ih =>
    rw [ofElements_concat, see, ih, List.map_append, Primitive.joinAll_append]
    rfl

/-- There is evidence of text if some element has it. -/
lemma hasText_ofElements (es : List Element) :
    (ofElements placeOf es).hasText = es.any Element.hasText := by
  induction es using List.reverseRecOn with
  | nil => rfl
  | append_singleton es e ih =>
    rw [ofElements_concat, see, ih, List.any_append, List.any_cons, List.any_nil, Bool.or_false]

/-- A type declares each child of which there is evidence. -/
lemma get?_children_schemaType (v : Evidence) (tag name n : String) :
    (v.schemaType tag name).children.get? n = (v.children.get? n).map declaration :=
  Table.lookup_map declaration v.children.entries n

end Evidence

end XsdInfer
