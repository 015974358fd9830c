import Mathlib.Data.List.Basic
import XsdInfer.Element

/-!
# Places of a document

The places of a document are its elements in document order, each with its ancestors. Here they are
given by recursion on the tree (`placesFrom`): `walk_eq_foldl` makes every walk a loop over the
places, and `parent_of_split` says that in document order the parent of an element comes before it.
`mem_placesFrom_iff` is membership by descent.
-/

namespace XsdInfer.Element

/-- An element of a document with its ancestors, from the parent on. -/
abbrev Place := List Element × Element

mutual

/-- The places of an element inside of others: its own first, and then those below it. -/
def placesFrom (path : List Element) : Element → List Place
  | ⟨name, attributes, text, children, namespaces⟩ =>
    (path, ⟨name, attributes, text, children, namespaces⟩)
      :: placesFromAll (⟨name, attributes, text, children, namespaces⟩ :: path) children

/-- The places of elements one after another. -/
def placesFromAll (path : List Element) : List Element → List Place
  | [] => []
  | e :: es => placesFrom path e ++ placesFromAll path es

end

/-- The places of elements side by side are those of one after another. -/
lemma placesFromAll_eq_flatMap (path : List Element) (es : List Element) :
    placesFromAll path es = es.flatMap (placesFrom path) := by
  induction es with
  | nil => rfl
  | cons e es ih => simp [placesFromAll, ih]

/-- The places of an element are its own and those of its children. -/
lemma placesFrom_eq (path : List Element) (e : Element) :
    placesFrom path e = (path, e) :: e.children.flatMap (placesFrom (e :: path)) := by
  obtain ⟨name, attributes, text, children, namespaces⟩ := e
  rw [placesFrom, placesFromAll_eq_flatMap]

mutual

/-- A walk below a path is a loop over the places below it. -/
theorem walk_eq_foldl {σ : Type} (visit : σ → List Element → Element → σ) (path : List Element)
    (s : σ) (e : Element) :
    walk visit path s e = (placesFrom path e).foldl (fun s p => visit s p.1 p.2) s := by
  obtain ⟨name, attributes, text, children, namespaces⟩ := e
  rw [walk, placesFrom, List.foldl_cons]
  exact walkAll_eq_foldl visit _ _ children

/-- A walk over several elements is a loop over all their places. -/
theorem walkAll_eq_foldl {σ : Type} (visit : σ → List Element → Element → σ)
    (path : List Element) (s : σ) (es : List Element) :
    walkAll visit path s es = (placesFromAll path es).foldl (fun s p => visit s p.1 p.2) s := by
  cases es with
  | nil => rfl
  | cons e es =>
    rw [walkAll, placesFromAll, List.foldl_append, walk_eq_foldl visit path s e]
    exact walkAll_eq_foldl visit path _ es

end

/-- The places of the children of the element at a place. -/
def childPlaces (p : Place) : List Place :=
  p.2.children.map fun c => (p.2 :: p.1, c)

/-- Behind the place of an element come the places of its children, each with those below. -/
lemma placesFrom_eq_childPlaces (p : Place) :
    placesFrom p.1 p.2 = p :: (childPlaces p).flatMap fun p => placesFrom p.1 p.2 := by
  rw [placesFrom_eq, childPlaces, List.flatMap_map]

/-- The places of a tree are those from its root on. -/
lemma places_eq (e : Element) : e.places = placesFrom [] e := by
  rw [places, walk_eq_foldl, List.foldl_flip_cons_eq_append', List.append_nil,
    List.reverse_reverse]

/-- A place of an element is its own or lies below a child. -/
lemma mem_placesFrom_iff {path : List Element} {e : Element} {p : Place} :
    p ∈ placesFrom path e ↔ p = (path, e) ∨ ∃ c ∈ e.children, p ∈ placesFrom (e :: path) c := by
  simp [placesFrom_eq path e]

/-- An element has a place of its own. -/
lemma self_mem_placesFrom (path : List Element) (e : Element) : (path, e) ∈ placesFrom path e :=
  mem_placesFrom_iff.mpr (.inl rfl)

mutual

/-- With a place, the places of its children are below the same path. -/
theorem child_mem_placesFrom {path : List Element} {e : Element} {p : Place}
    (h : p ∈ placesFrom path e) {c : Element} (child : c ∈ p.2.children) :
    (p.2 :: p.1, c) ∈ placesFrom path e := by
  obtain ⟨name, attributes, text, children, namespaces⟩ := e
  rw [placesFrom] at h ⊢
  cases List.mem_cons.mp h with
  | inl here =>
    subst here
    rw [placesFromAll_eq_flatMap]
    exact .tail _ (List.mem_flatMap.mpr ⟨c, child, self_mem_placesFrom _ c⟩)
  | inr below => exact .tail _ (child_mem_placesFromAll below child)

/-- With a place among those of several elements, the places of its children are among them. -/
theorem child_mem_placesFromAll {path : List Element} {es : List Element} {p : Place}
    (h : p ∈ placesFromAll path es) {c : Element} (child : c ∈ p.2.children) :
    (p.2 :: p.1, c) ∈ placesFromAll path es := by
  cases es with
  | nil => cases h
  | cons e es =>
    rw [placesFromAll, List.mem_append] at h ⊢
    exact h.imp (child_mem_placesFrom · child) (child_mem_placesFromAll · child)

end

mutual

/-- Which elements there are does not depend on what is above them. -/
theorem map_snd_placesFrom (path path' : List Element) (e : Element) :
    (placesFrom path e).map Prod.snd = (placesFrom path' e).map Prod.snd := by
  obtain ⟨name, attributes, text, children, namespaces⟩ := e
  rw [placesFrom, placesFrom, List.map_cons, List.map_cons]
  exact congrArg _ (map_snd_placesFromAll _ _ children)

/-- The elements at the places do not depend on the path to them. -/
theorem map_snd_placesFromAll (path path' : List Element) (es : List Element) :
    (placesFromAll path es).map Prod.snd = (placesFromAll path' es).map Prod.snd := by
  cases es with
  | nil => rfl
  | cons e es =>
    rw [placesFromAll, placesFromAll, List.map_append, List.map_append,
      map_snd_placesFrom path path' e, map_snd_placesFromAll path path' es]

end

/-- The element and all elements below it, in document order. -/
def selfAndBelow (e : Element) : List Element :=
  e.places.map Prod.snd

/-- The elements of a tree are its root and those of the trees below. -/
lemma selfAndBelow_eq (e : Element) :
    e.selfAndBelow = e :: e.children.flatMap selfAndBelow := by
  rw [selfAndBelow, places_eq, placesFrom_eq, List.map_cons, List.map_flatMap]
  refine congrArg _ (List.flatMap_congr fun c _ => ?_)
  rw [selfAndBelow, places_eq, map_snd_placesFrom]

/-- Two places below elements of one local name, if any, at which elements in a relation stand. -/
structure Paired (R : Element → Element → Prop) (p p' : Place) : Prop where
  above : p.1.head?.map localName = p'.1.head?.map localName
  here : R p.2 p'.2

/-- The parent of a place is a place that has it among its children. -/
def IsParent (q p : Place) : Prop :=
  p.1 = q.2 :: q.1 ∧ p.2 ∈ q.2.children

mutual

/-- In document order, each place but the first has its parent before it. -/
theorem parent_of_split {path : List Element} {e : Element} {before after : List Place} {p : Place}
    (h : placesFrom path e = before ++ p :: after) :
    p = (path, e) ∨ ∃ q ∈ before, IsParent q p := by
  obtain ⟨name, attributes, text, children, namespaces⟩ := e
  rw [placesFrom] at h
  cases before with
  | nil => exact .inl (List.cons.inj h).1.symm
  | cons first before =>
    obtain ⟨rfl, below⟩ := List.cons.inj h
    right
    cases parent_of_splitAll below with
    | inl top => exact ⟨_, .head _, top⟩
    | inr found =>
      obtain ⟨q, mem, parent⟩ := found
      exact ⟨q, .tail _ mem, parent⟩

/-- Among the places of several elements, each place is that of one of the elements or has its parent
before it. -/
theorem parent_of_splitAll {path : List Element} {es : List Element} {before after : List Place}
    {p : Place} (h : placesFromAll path es = before ++ p :: after) :
    (p.1 = path ∧ p.2 ∈ es) ∨ ∃ q ∈ before, IsParent q p := by
  cases es with
  | nil => simp [placesFromAll] at h
  | cons e es =>
    rw [placesFromAll, List.append_eq_append_iff] at h
    obtain ⟨mid, rfl, rest⟩ | ⟨mid, first, rest⟩ := h
    · -- The place is behind those of the first element.
      cases parent_of_splitAll rest with
      | inl top => exact .inl ⟨top.1, .tail _ top.2⟩
      | inr found =>
        obtain ⟨q, mem, parent⟩ := found
        exact .inr ⟨q, List.mem_append_right _ mem, parent⟩
    · cases mid with
      | nil =>
        -- The place is the first behind those of the first element.
        rw [List.nil_append] at rest
        have split : placesFromAll path es = [] ++ p :: after := rest.symm
        cases parent_of_splitAll split with
        | inl top => exact .inl ⟨top.1, .tail _ top.2⟩
        | inr found => obtain ⟨q, mem, _⟩ := found; cases mem
      | cons p' mid =>
        obtain ⟨rfl, _⟩ := List.cons.inj rest
        cases parent_of_split first with
        | inl top => exact .inl ⟨by rw [top], by rw [top]; exact .head _⟩
        | inr found => exact .inr found

end

end XsdInfer.Element
