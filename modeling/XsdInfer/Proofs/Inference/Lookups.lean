import Mathlib.Data.Finset.Card
import XsdInfer.Proofs.Inference.Structure

/-!
# Types by place

The walk can be made with lookups that may fail: an index has the places of the types by their keys,
each element that waits has the place of its own type with it, what is observed goes to the type at
that place, and the places of the types of children are looked up by the names of the children
(`Schema.inferByPlaces`). Apart from a lack of room, this can fail if there is no type at a place,
or no place noted for a name (`Failure`). While the index is sound, the walk goes along with the one
by keys, where there are no such lookups (`Sound.build`). Main statement: a schema comes out just
when the distinct keys are within the limit, and otherwise the error is that of one type beyond it
(`infer_exact`).
-/

namespace XsdInfer

open Element (Place)
open TypeKey (keyAt typeKeys)

/-- Why a walk by places fails. -/
inductive Failure where
  /-- There is no room for one more type. -/
  | breach (b : Breach)
  /-- There is no type at a place. -/
  | noType (place : Nat)
  /-- No place was noted for the type of the children of a name. -/
  | noPlace (name : String)
deriving DecidableEq, Repr

/-- A ledger with an index, which has the places of the types by their keys. -/
structure IndexedLedger where
  ledger : Ledger := {}
  index : Table TypeKey Nat := {}

namespace IndexedLedger

/-- The place of the type with a given key, which is entered if the index does not have it. -/
def enroll (limits : Limits) (l : IndexedLedger) (k : TypeKey) :
    Except Failure (IndexedLedger × Nat) :=
  match l.index.get? k with
  | some place => .ok (l, place)
  | none => do
    let place := l.ledger.entries.length
    (limits.check .types (place + 1)).mapError .breach
    let (typeName, names) := l.ledger.names.assign k.baseName
    return (⟨⟨l.ledger.entries ++ [{ key := k, typeName }], names⟩, l.index.insert k place⟩, place)

/-- Renews the evidence of the type at a place. -/
def amend (l : IndexedLedger) (place : Nat) (f : Evidence → Evidence) :
    Except Failure IndexedLedger :=
  if place < l.ledger.entries.length then
    .ok { l with ledger := { l.ledger with
      entries := l.ledger.entries.modify place fun x => { x with evidence := f x.evidence } } }
  else .error (.noType place)

/-- Enters the type of the children of a name, notes its place, and adds the children to the
evidence of the type at the place of their parent. -/
def recordChildren (scope : Scope) (limits : Limits) (parent : String) (place : Nat)
    (s : IndexedLedger × Table String Nat) (c : String × Nat) :
    Except Failure (IndexedLedger × Table String Nat) := do
  let (l, child) ← s.1.enroll limits (.ofNames scope (some parent) c.1)
  let l ← l.amend place fun v =>
    { v with children := Evidence.seeChildren (fun _ => child) v.children c }
  return (l, s.2.insert c.1 child)

/-- Adds an element to the evidence of the type at a place. The places of the types of its children
are noted by name. -/
def record (scope : Scope) (limits : Limits) (l : IndexedLedger) (e : Element) (place : Nat) :
    Except Failure (IndexedLedger × Table String Nat) := do
  let (l, noted) ←
    e.childCounts.entries.foldlM (recordChildren scope limits e.localName place) (l, {})
  let l ← l.amend place fun v =>
    { v with
      attributes := e.attributes.entries.foldl Evidence.seeAttribute v.attributes
      text := some (Primitive.join e.textType v.text)
      hasText := v.hasText || e.hasText }
  return (l, noted)

/-- The place that is noted for a name. -/
def find (noted : Table String Nat) (name : String) : Except Failure Nat :=
  match noted.get? name with
  | some place => .ok place
  | none => .error (.noPlace name)

/-- The elements with a place are no more than all of them. -/
lemma length_zip_le (es : List Element) (places : List Nat) :
    ((es.zip places).flatMap fun w => w.1.selfAndBelow).length ≤
      (es.flatMap Element.selfAndBelow).length := by
  induction es generalizing places with
  | nil => exact Nat.zero_le _
  | cons e es ih =>
    cases places with
    | nil => exact Nat.zero_le _
    | cons place places =>
      rw [List.zip_cons_cons, List.flatMap_cons, List.flatMap_cons, List.length_append,
        List.length_append]
      exact Nat.add_le_add_left (ih places) _

/-- Records the first element that waits, and lets its children wait before the others, until none
waits. -/
def build (scope : Scope) (limits : Limits) (l : IndexedLedger) :
    List (Element × Nat) → Except Failure IndexedLedger
  | [] => .ok l
  | (e, place) :: work => do
    let (l, noted) ← l.record scope limits e place
    let places ← e.children.mapM fun c => find noted c.localName
    l.build scope limits (e.children.zip places ++ work)
termination_by work => (work.flatMap fun w => w.1.selfAndBelow).length
decreasing_by
  have children := length_zip_le e.children places
  rw [List.flatMap_append, List.flatMap_cons, Element.selfAndBelow_eq]
  simp only [List.length_append, List.length_cons]
  omega

end IndexedLedger

/-- The schema of a sample by a walk by places. -/
def Schema.inferByPlaces (scope : Scope) (limits : Limits) (root : Element) :
    Except Failure Schema := do
  let (l, place) ← ({} : IndexedLedger).enroll limits (.ofNames scope none root.localName)
  let l ← l.build scope limits [(root, place)]
  return ⟨root.name, root.namespace?, place, l.ledger.types⟩

/-! ## Two walks side by side -/

section Abreast

variable {α α' β β' γ : Type}

/-- A walk by places comes to an end that is related to the end of another walk, or there is no room
in either. -/
inductive Abreast (R : α → β → Prop) : Except Failure α → Except Breach β → Prop where
  | ok {a : α} {b : β} (related : R a b) : Abreast R (.ok a) (.ok b)
  | breach (b : Breach) : Abreast R (.error (.breach b)) (.error b)

/-- Two runs stay abreast if their first steps do and the rest from any related results. -/
lemma Abreast.bind {R : α → β → Prop} {S : α' → β' → Prop} {x : Except Failure α}
    {y : Except Breach β} {f : α → Except Failure α'} {g : β → Except Breach β'}
    (first : Abreast R x y) (rest : ∀ a b, R a b → Abreast S (f a) (g b)) :
    Abreast S (x >>= f) (y >>= g) := by
  cases first with
  | ok related => exact rest _ _ related
  | breach b => exact .breach b

/-- Loops go abreast if their steps do, where the relation may know of the steps so far. -/
lemma Abreast.foldlM {R : List γ → α → β → Prop} {f : α → γ → Except Failure α}
    {g : β → γ → Except Breach β}
    (step : ∀ done c a b, R done a b → Abreast (R (done ++ [c])) (f a c) (g b c))
    (l : List γ) {done : List γ} {a : α} {b : β} (start : R done a b) :
    Abreast (R (done ++ l)) (l.foldlM f a) (l.foldlM g b) := by
  induction l generalizing done a b with
  | nil => rw [List.append_nil]; exact .ok start
  | cons c l ih =>
    rw [List.foldlM_cons, List.foldlM_cons, List.append_cons]
    exact (step done c a b start).bind fun a b related => ih related

/-- A run stays abreast of itself when its breaches are taken for failures. -/
lemma Abreast.mapError (y : Except Breach α) : Abreast Eq (y.mapError .breach) y := by
  cases y with
  | ok a => exact .ok rfl
  | error b => exact .breach b

/-- A run is abreast of another one if it is so up to a function of its result. -/
lemma Abreast.of_map {R : α → β' → Prop} {x : Except Failure α} {y : Except Breach β} {f : β → β'}
    (h : Abreast R x (y.map f)) : Abreast (fun a b => R a (f b)) x y := by
  cases y with
  | ok b => cases h with | ok related => exact .ok related
  | error b => cases h with | breach b => exact .breach b

/-- Walks to the same end have the same outcome. -/
lemma Abreast.eq_mapError {x : Except Failure α} {y : Except Breach α} (h : Abreast Eq x y) :
    x = y.mapError .breach := by
  cases h with
  | ok same => rw [same]; rfl
  | breach b => rfl

end Abreast

namespace Ledger

variable {limits : Limits} {l : Ledger} {k key : TypeKey}

/-- One more entry has its key behind the others. -/
lemma keys_concat (l : Ledger) (x : Entry) (names : Name.Pool) :
    (⟨l.entries ++ [x], names⟩ : Ledger).keys = l.keys ++ [x.key] :=
  List.map_append

/-- Two updates of one key are one. -/
lemma update_update (f g : Evidence → Evidence) :
    (l.update key f).update key g = l.update key (g ∘ f) := by
  rw [update, update, update, List.map_map]
  congr 1
  refine List.map_congr_left fun x _ => ?_
  by_cases here : x.key = key
  · simp [here]
  · simp [here]

/-- An update that changes nothing leaves the ledger as it is. -/
lemma update_id (l : Ledger) (k : TypeKey) : l.update k id = l := by
  have same (x : Entry) : (if x.key = k then { x with evidence := id x.evidence } else x) = x :=
    ite_self x
  simp only [update, same, List.map_id']

/-- Entering a type and renewing the evidence of another one can change places. -/
lemma enter_update (known : key ∈ l.keys) (f : Evidence → Evidence) :
    (l.update key f).enter limits k = (l.enter limits k).map (·.update key f) := by
  rw [enter, enter, has_eq, has_eq, keys_update, length_update]
  by_cases old : k ∈ l.keys
  · simp [old, Except.map]
  · have other : k ≠ key := fun same => old (same ▸ known)
    cases room : limits.check .types (l.entries.length + 1) with
    | error b => simp [old, Except.map, bind, Except.bind]
    | ok _ => simp [old, Except.map, bind, Except.bind, update, other, pure, Except.pure]

end Ledger

/-! ## The walk by places goes along with the walk by keys -/

namespace IndexedLedger

variable {limits : Limits} {l : IndexedLedger} {k : TypeKey} {place : Nat}

/-- An item of a list with one more is one of those before or the last. -/
lemma getElem?_concat_eq_some_iff {α : Type} {l : List α} {a b : α} {i : Nat} :
    (l ++ [a])[i]? = some b ↔ l[i]? = some b ∨ i = l.length ∧ b = a := by
  grind

/-- An item at the front of a list is in the list. -/
lemma getElem?_of_prefix {α : Type} {l m : List α} (h : l <+: m) {i : Nat} {a : α}
    (here : l[i]? = some a) : m[i]? = some a := by
  obtain ⟨rest, rfl⟩ := h
  rw [List.getElem?_append_left (List.getElem?_eq_some_iff.mp here).1, here]

/-- An index is sound if it has just the places of the types by their keys. -/
def Sound (l : IndexedLedger) : Prop :=
  ∀ k place, l.index.get? k = some place ↔ l.ledger.keys[place]? = some k

/-- In a sound index, a key is at one place. -/
lemma Sound.idxOf_keys (sound : l.Sound) (here : l.ledger.keys[place]? = some k) :
    l.ledger.keys.idxOf k = place := by
  have first := (sound k _).mpr (List.getElem?_idxOf (List.mem_of_getElem? here))
  rw [(sound k place).mpr here] at first
  exact (Option.some.inj first).symm

/-- An update leaves the index right. -/
lemma Sound.update (sound : l.Sound) (k : TypeKey) (f : Evidence → Evidence) :
    Sound ⟨l.ledger.update k f, l.index⟩ := by
  intro k' place
  rw [Ledger.keys_update]
  exact sound k' place

/-- What is known when the type with a given key is enrolled on both sides. -/
structure Enrolled (before : List TypeKey) (k : TypeKey) (s : IndexedLedger × Nat) (m : Ledger) :
    Prop where
  ledger : s.1.ledger = m
  sound : s.1.Sound
  place : s.2 = before.idxOf k
  here : m.keys[s.2]? = some k
  kept : before <+: m.keys

/-- The index has a key just when the ledger has it, and a type that is entered stands behind all
others. -/
lemma Sound.enroll (sound : l.Sound) (limits : Limits) (k : TypeKey) :
    Abreast (Enrolled l.ledger.keys k) (l.enroll limits k) (l.ledger.enter limits k) := by
  rw [IndexedLedger.enroll, Ledger.enter, Ledger.has_eq]
  cases found : l.index.get? k with
  | some place =>
    have here := (sound k place).mp found
    rw [decide_eq_true (List.mem_of_getElem? here), if_pos rfl]
    exact .ok ⟨rfl, sound, (sound.idxOf_keys here).symm, here, List.prefix_rfl⟩
  | none =>
    have new : k ∉ l.ledger.keys := fun old => by
      obtain ⟨place, here⟩ := List.mem_iff_getElem?.mp old
      rw [(sound k place).mpr here] at found
      cases found
    rw [decide_eq_false new, if_neg Bool.false_ne_true]
    refine (Abreast.mapError _).bind fun _ _ _ => .ok ⟨rfl, fun k' place => ?_, ?_, ?_, ?_⟩
    · rw [Table.get?_insert, Ledger.keys_concat, getElem?_concat_eq_some_iff, Ledger.length_keys,
        ← sound k' place]
      by_cases same : k' = k
      · simp [same, found, eq_comm]
      · simp [same]
    · rw [List.idxOf_eq_length new, Ledger.length_keys]
    · rw [Ledger.keys_concat, getElem?_concat_eq_some_iff, Ledger.length_keys]
      exact .inr ⟨rfl, rfl⟩
    · rw [Ledger.keys_concat]
      exact List.prefix_append _ _

/-- At the place of a key, the evidence of the type with the key is renewed. -/
lemma Sound.amend (sound : l.Sound) (here : l.ledger.keys[place]? = some k)
    (f : Evidence → Evidence) : l.amend place f = .ok ⟨l.ledger.update k f, l.index⟩ := by
  have inside : place < l.ledger.entries.length := by
    rw [← Ledger.length_keys]
    exact (List.getElem?_eq_some_iff.mp here).1
  have entries : (l.ledger.entries.modify place fun x => { x with evidence := f x.evidence }) =
      l.ledger.entries.map fun x => if x.key = k then { x with evidence := f x.evidence } else x := by
    refine List.ext_getElem? fun i => ?_
    rw [List.getElem?_modify, List.getElem?_map]
    cases at_i : l.ledger.entries[i]? with
    | none => rfl
    | some x =>
      have key : l.ledger.keys[i]? = some x.key := by rw [Ledger.keys, List.getElem?_map, at_i]; rfl
      by_cases same : place = i
      · subst same
        rw [here] at key
        simp [Option.some.inj key]
      · have other : x.key ≠ k := fun eq => by
          rw [← sound.idxOf_keys here, ← sound.idxOf_keys key, eq] at same
          exact same rfl
        simp [same, other]
  rw [IndexedLedger.amend, if_pos inside, entries, Ledger.update]

/-- The evidence with the children of some names added. -/
def addChildren (placeOf : String → Nat) (counts : List (String × Nat)) (v : Evidence) : Evidence :=
  { v with children := counts.foldl (Evidence.seeChildren placeOf) v.children }

section Record

/-- The key of the children of one name of the element at a place. -/
abbrev childKey (scope : Scope) (p : Place) (name : String) : TypeKey :=
  .ofNames scope (some p.2.localName) name

/-- The place of the type of the children of one name. -/
def childPlace (scope : Scope) (p : Place) (m : Ledger) (name : String) : Nat :=
  m.placeOf (childKey scope p name)

/-- The place of the type of the children of one name is noted. -/
def Notes (scope : Scope) (p : Place) (keys : List TypeKey) (noted : Table String Nat)
    (name : String) : Prop :=
  ∃ i, noted.get? name = some i ∧ keys[i]? = some (childKey scope p name)

variable {scope : Scope} {p : Place} {before : List TypeKey} {done : List (String × Nat)}
  {s : IndexedLedger × Table String Nat} {m m' : Ledger} {noted : Table String Nat} {name : String}

/-- A place that is noted is that of the same type in a longer ledger. -/
lemma Notes.mono (h : Notes scope p m.keys noted name) (grown : m.keys <+: m'.keys) :
    Notes scope p m'.keys noted name := by
  obtain ⟨i, found, here⟩ := h
  exact ⟨i, found, getElem?_of_prefix grown here⟩

/-- The place that is noted for a child stays the same when more keys are met. -/
lemma Notes.childPlace_eq (h : Notes scope p m.keys noted name) (grown : m.keys <+: m'.keys) :
    childPlace scope p m name = childPlace scope p m' name := by
  obtain ⟨_, _, here⟩ := h
  obtain ⟨rest, longer⟩ := grown
  rw [childPlace, childPlace, Ledger.placeOf_eq, Ledger.placeOf_eq, ← longer,
    List.idxOf_append_of_mem (List.mem_of_getElem? here)]

/-- Noting the place of one more type leaves what is noted of other names. -/
lemma Notes.insert {keys : List TypeKey} {child : Nat} {n : String}
    (here : keys[child]? = some (childKey scope p name))
    (h : n ≠ name → Notes scope p keys noted n) :
    Notes scope p keys (noted.insert name child) n := by
  rw [Notes, Table.get?_insert]
  by_cases same : n = name
  · exact ⟨child, if_pos same, same ▸ here⟩
  · rw [if_neg same]
    exact h same

/-- How far a loop over the children of an element has come on both sides. On the side of the walk by
keys, the children are not yet in the evidence. -/
structure Recorded (scope : Scope) (p : Place) (place : Nat) (before : List TypeKey)
    (done : List (String × Nat)) (s : IndexedLedger × Table String Nat) (m : Ledger) : Prop where
  sound : s.1.Sound
  ledger : s.1.ledger = m.update (keyAt scope p) (addChildren (childPlace scope p m) done)
  here : m.keys[place]? = some (keyAt scope p)
  kept : before <+: m.keys
  noted : ∀ c ∈ done, Notes scope p m.keys s.2 c.1

/-- One more child is recorded in step with the entry of its key. -/
lemma Recorded.step (h : Recorded scope p place before done s m) (limits : Limits)
    (c : String × Nat) :
    Abreast (Recorded scope p place before (done ++ [c]))
      (recordChildren scope limits p.2.localName place s c)
      (m.enter limits (childKey scope p c.1)) := by
  have known : keyAt scope p ∈ m.keys := List.mem_of_getElem? h.here
  -- The key is enrolled behind the update of its parent, which does not change the list of keys.
  have first := h.sound.enroll limits (childKey scope p c.1)
  rw [h.ledger, Ledger.keys_update, Ledger.enter_update known] at first
  rw [recordChildren, ← bind_pure (m.enter _ _)]
  refine first.of_map.bind fun r m' enrolled => ?_
  obtain ⟨l, child⟩ := r
  obtain ⟨ledger, sound, -, at_child, grown⟩ := enrolled
  have keys : l.ledger.keys = m'.keys := by rw [ledger, Ledger.keys_update]
  rw [Ledger.keys_update] at at_child grown
  have here : m'.keys[place]? = some (keyAt scope p) := getElem?_of_prefix grown h.here
  have amended := sound.amend (keys ▸ here) fun v =>
    { v with children := Evidence.seeChildren (fun _ => child) v.children c }
  simp only [amended]
  refine .ok ⟨sound.update _ _, ?_, here, h.kept.trans grown, fun c' mem => ?_⟩
  · -- The places of the children so far are the same in the longer ledger.
    have old : ∀ c ∈ done, childPlace scope p m c.1 = childPlace scope p m' c.1 :=
      fun c mem => (h.noted c mem).childPlace_eq grown
    have target : childPlace scope p m' c.1 = child := by
      rw [childPlace, Ledger.placeOf_eq, ← keys, sound.idxOf_keys (keys ▸ at_child)]
    dsimp only
    rw [ledger, Ledger.update_update]
    congr 1
    funext v
    simp only [addChildren, Function.comp_apply, List.foldl_append, List.foldl_cons, List.foldl_nil,
      Evidence.foldl_seeChildren_congr old, Evidence.seeChildren, target]
  · refine Notes.insert at_child fun other => ?_
    obtain old | new := List.mem_append.mp mem
    · exact (h.noted c' old).mono grown
    · exact absurd (congrArg Prod.fst (List.mem_singleton.mp new)) other

/-- What is known when an element is observed on both sides. -/
structure Observed (scope : Scope) (p : Place) (before : List TypeKey)
    (s : IndexedLedger × Table String Nat) (m : Ledger) : Prop where
  ledger : s.1.ledger = m
  sound : s.1.Sound
  kept : before <+: m.keys
  noted : ∀ c ∈ p.2.children, Notes scope p m.keys s.2 c.localName

/-- An element is recorded at the place of its type just as it is observed. -/
lemma Sound.record (sound : l.Sound) (limits : Limits)
    (here : l.ledger.keys[place]? = some (keyAt scope p)) :
    Abreast (Observed scope p l.ledger.keys) (l.record scope limits p.2 place)
      (l.ledger.observe scope limits p.1 p.2) := by
  have start : Recorded scope p place l.ledger.keys [] (l, {}) l.ledger :=
    ⟨sound, (Ledger.update_id _ _).symm, here, List.prefix_rfl, List.forall_mem_nil _⟩
  -- Both loops go through the names of the children, and what has been noted so far keeps them in step.
  have loop := Abreast.foldlM (R := Recorded scope p place l.ledger.keys)
    (g := fun (m : Ledger) c => m.enter limits (childKey scope p c.1))
    (fun done c s m related => related.step limits c) p.2.childCounts.entries start
  rw [IndexedLedger.record, Ledger.observe, Table.keys, List.map_map, List.foldlM_map]
  refine loop.bind fun r m recorded => ?_
  obtain ⟨l', noted⟩ := r
  obtain ⟨sound, ledger, here, kept, found⟩ := recorded
  have keys : l'.ledger.keys = m.keys := by rw [ledger, Ledger.keys_update]
  have amended := sound.amend (keys ▸ here) fun v =>
    { v with
      attributes := p.2.attributes.entries.foldl Evidence.seeAttribute v.attributes
      text := some (Primitive.join p.2.textType v.text)
      hasText := v.hasText || p.2.hasText }
  simp only [amended]
  refine .ok ⟨?_, sound.update _ _, ?_, fun c child => ?_⟩
  · dsimp only
    rw [ledger, Ledger.update_update]
    rfl
  · rw [Ledger.keys_update]
    exact kept
  · have counted : c.localName ∈ p.2.childCounts.keys := by
      rw [Evidence.keys_childCounts, List.mem_eraseDups]
      exact List.mem_map_of_mem child
    obtain ⟨c', mem, same⟩ := List.mem_map.mp counted
    rw [Ledger.keys_update, ← same]
    exact found c' mem

/-- An element waits at the place of the type with the key of its place. -/
def Waits (scope : Scope) (m : Ledger) (w : Element × Nat) (p : Place) : Prop :=
  w.1 = p.2 ∧ m.keys[w.2]? = some (keyAt scope p)

/-- Where the places of all children are noted, each child is found. -/
lemma exists_mapM_find {cs : List Element}
    (h : ∀ c ∈ cs, Notes scope p m.keys noted c.localName) :
    ∃ places, cs.mapM (fun c => find noted c.localName) = .ok places ∧
      List.Forall₂ (Waits scope m) (cs.zip places) (cs.map fun c => (p.2 :: p.1, c)) := by
  induction cs with
  | nil => exact ⟨[], rfl, .nil⟩
  | cons c cs ih =>
    obtain ⟨first, rest⟩ := List.forall_mem_cons.mp h
    obtain ⟨i, found, here⟩ := first
    obtain ⟨places, all, waits⟩ := ih rest
    refine ⟨i :: places, ?_, .cons ⟨rfl, here⟩ waits⟩
    rw [List.mapM_cons, find, found, all]
    rfl

end Record

/-- The walk by places goes along with the one by keys. -/
lemma Sound.build {scope : Scope} {limits : Limits} {m : Ledger} {work : List Place}
    {l : IndexedLedger} (sound : l.Sound) (ledger : l.ledger = m) {waiting : List (Element × Nat)}
    (waits : List.Forall₂ (Waits scope m) waiting work) :
    Abreast (fun l m => l.ledger = m) (l.build scope limits waiting) (m.drain scope limits work) := by
  -- By the recursion of the walk by keys: what waits on one side has its place on the other, also when
  -- places are added.
  induction m, work using Ledger.drain.induct generalizing l waiting with
  | case1 m =>
    cases waits
    rw [IndexedLedger.build, Ledger.drain]
    exact .ok ledger
  | case2 m p work ih =>
    subst ledger
    cases waits with
    | @cons w _ waiting _ first rest =>
      obtain ⟨e, place⟩ := w
      obtain ⟨rfl, here⟩ := first
      rw [IndexedLedger.build, Ledger.drain]
      refine (sound.record limits here).bind fun r m observed => ?_
      obtain ⟨l', noted⟩ := r
      obtain ⟨places, found, children⟩ := exists_mapM_find observed.noted
      simp only [found]
      refine ih m observed.sound observed.ledger (List.rel_append children ?_)
      refine rest.imp fun w p waits => ⟨waits.1, ?_⟩
      exact getElem?_of_prefix observed.kept waits.2

end IndexedLedger

/-- No lookup fails: the walk by places and the one by keys have the same outcome. -/
lemma Schema.inferByPlaces_eq (scope : Scope) (limits : Limits) (root : Element) :
    Schema.inferByPlaces scope limits root = (Schema.infer scope limits root).mapError .breach := by
  have start : ({} : IndexedLedger).Sound := fun k place =>
    iff_of_false (by simp [Table.get?]) (by simp [Ledger.keys])
  have whole : Schema.infer scope limits root =
      (({} : Ledger).enter limits (keyAt scope ([], root))) >>= fun l =>
        l.drain scope limits [([], root)] >>= fun l =>
          pure ⟨root.name, root.namespace?, 0, l.types⟩ := by
    rw [Schema.infer, Ledger.ofRoot_eq_drain]
    exact bind_assoc _ _ _
  apply Abreast.eq_mapError
  rw [whole, Schema.inferByPlaces]
  refine (start.enroll limits _).bind fun r m enrolled => ?_
  obtain ⟨l, place⟩ := r
  obtain ⟨ledger, sound, place, here, -⟩ := enrolled
  cases place
  refine (sound.build ledger (.cons ⟨rfl, here⟩ .nil)).bind fun l m same => ?_
  rw [same]
  exact .ok rfl

/-- A tree of any names and texts has a schema just when its distinct keys are within the limit, and
otherwise it has one type more than the limit. No lookup of a type or a place fails. -/
theorem infer_exact (c : Conversion) (root : Element) :
    let keys := (root.places.map (keyAt c.scope)).toFinset
    ((∃ s, Schema.inferByPlaces c.scope c.limits root = .ok s ∧ c.inferTree root = .ok s) ↔
        keys.card ≤ c.limits.types) ∧
      ((Schema.inferByPlaces c.scope c.limits root =
            .error (.breach ⟨.types, c.limits.types + 1, c.limits.types⟩) ∧
          c.inferTree root = .error (.limit
            s!"Schema type count {c.limits.types + 1} exceeds maximum {c.limits.types}")) ↔
        c.limits.types < keys.card) := by
  intro keys
  have count : (typeKeys c.scope root).length = keys.card := by
    rw [← List.toFinset_card_of_nodup (TypeKey.nodup_typeKeys c.scope root)]
    congr 1
    ext k
    rw [List.mem_toFinset, List.mem_toFinset, TypeKey.mem_typeKeys_iff_keyAt, List.mem_map]
  rw [Conversion.inferTree, Schema.inferByPlaces_eq, Schema.infer_eq, count]
  by_cases room : keys.card ≤ c.limits.types
  · rw [if_pos room]
    exact ⟨iff_of_true ⟨_, rfl, rfl⟩ room,
      iff_of_false (fun failed => by cases failed.1) (Nat.not_lt.mpr room)⟩
  · rw [if_neg room]
    refine ⟨iff_of_false ?_ room, iff_of_true ⟨rfl, rfl⟩ (Nat.lt_of_not_le room)⟩
    rintro ⟨s, done, _⟩
    cases done

end XsdInfer
