import XsdInfer.Proofs.Inference.Occurrences
import XsdInfer.Proofs.Inference.Shape

/-!
# Copies of children that repeat

A copy of a child of which an element has two already, put anywhere behind that child
(`Element.Copied`), tells inference nothing new. Main statement: the schema of the tree with the copy is
the schema of the tree, and where there is no room for the one, there is none for the other, with the
same breach (`infer_of_copied`). In document order the places of the copy come behind the same places
(`Recurs`), and whatever is kept by first sight does not change when something comes again
(`Recurs.eraseDups_flatMap`).
-/

namespace XsdInfer

open Element (Place Paired SameShape placesFrom)
open TypeKey (keyAt childKeys metKeys typeKeys occurrences)

/-! ## Lists in which something comes again -/

/-- The members of a list correspond in order to those of another one, in which some come again. -/
def Recurs {α : Type} (R : α → α → Prop) (l l' : List α) : Prop :=
  ∃ front again rest, l' = front ++ again ++ rest ∧ again ⊆ front ∧ List.Forall₂ R l (front ++ rest)

namespace Recurs

variable {α β : Type} {R : α → α → Prop} {l l' m m' : List α}

/-- Items recur behind others that are related one by one. -/
lemma append_left (before : List.Forall₂ R m m') (h : Recurs R l l') :
    Recurs R (m ++ l) (m' ++ l') := by
  obtain ⟨front, again, rest, rfl, old, matched⟩ := h
  refine ⟨m' ++ front, again, rest, ?_, ?_, ?_⟩
  · rw [List.append_assoc, List.append_assoc, List.append_assoc]
  · exact fun a mem => List.mem_append_right m' (old mem)
  · rw [List.append_assoc]
    exact List.rel_append before matched

/-- Items recur in front of others that are related one by one. -/
lemma append_right (h : Recurs R l l') (behind : List.Forall₂ R m m') :
    Recurs R (l ++ m) (l' ++ m') := by
  obtain ⟨front, again, rest, rfl, old, matched⟩ := h
  refine ⟨front, again, rest ++ m', ?_, old, ?_⟩
  · rw [List.append_assoc _ rest]
  · rw [← List.append_assoc]
    exact List.rel_append matched behind

/-- What some member shows, some member shows when something comes again. -/
lemma exists_mem_iff (h : Recurs R l l') {P : α → Prop} (same : ∀ a a', R a a' → (P a ↔ P a')) :
    (∃ a ∈ l, P a) ↔ ∃ a ∈ l', P a := by
  obtain ⟨front, again, rest, rfl, old, matched⟩ := h
  rw [exists_mem_iff_of_forall₂ matched same]
  constructor
  · rintro ⟨a, mem, holds⟩
    obtain mem | mem := List.mem_append.mp mem
    · exact ⟨a, List.mem_append_left _ (List.mem_append_left _ mem), holds⟩
    · exact ⟨a, List.mem_append_right _ mem, holds⟩
  · rintro ⟨a, mem, holds⟩
    obtain (mem | mem) | mem := List.mem_append.mp mem |>.imp_left List.mem_append.mp
    · exact ⟨a, List.mem_append_left _ mem, holds⟩
    · exact ⟨a, List.mem_append_left _ (old mem), holds⟩
    · exact ⟨a, List.mem_append_right _ mem, holds⟩

variable [DecidableEq β]

/-- What is seen first does not change when something comes again. -/
lemma eraseDups_flatMap (h : Recurs R l l') {f : α → List β}
    (same : ∀ a a', R a a' → (f a).eraseDups = (f a').eraseDups) :
    (l.flatMap f).eraseDups = (l'.flatMap f).eraseDups := by
  obtain ⟨front, again, rest, rfl, old, matched⟩ := h
  have first {l m : List α} (matched : List.Forall₂ R l m) :
      (l.flatMap f).eraseDups = (m.flatMap f).eraseDups := by
    induction matched with
    | nil => rfl
    | @cons a a' _ _ here _ ih =>
      rw [List.flatMap_cons, List.flatMap_cons]
      exact FirstSeen.eraseDups_append_congr (same a a' here) ih
  -- What is shown again has been shown in front, so that it is not seen first there.
  have seen : again.flatMap f ⊆ front.flatMap f := by
    intro b mem
    obtain ⟨a, inside, shown⟩ := List.mem_flatMap.mp mem
    exact List.mem_flatMap.mpr ⟨a, old inside, shown⟩
  rw [first matched, List.flatMap_append, List.flatMap_append, List.flatMap_append]
  apply FirstSeen.eraseDups_append_congr _ rfl
  rw [FirstSeen.eraseDups_append_of_subset seen]

end Recurs

/-! ## Trees with a copy -/

namespace Element

/-- A tree, and the same tree with a copy of a child at one of its elements: the element has two
children of the name or more, and the copy stands somewhere behind the child. -/
inductive Copied : Element → Element → Prop where
  | here {e c : Element} {front rest : List Element} :
    e.children = front ++ rest →
    c ∈ front →
    2 ≤ e.childNames.count c.localName →
    Copied e { e with children := front ++ c :: rest }
  | inside {e c c' : Element} {before behind : List Element} :
    e.children = before ++ c :: behind →
    Copied c c' →
    Copied e { e with children := before ++ c' :: behind }

/-- Elements of which inference sees the same, but for the number of children that repeat. -/
structure Resembles (e e' : Element) : Prop where
  localName : e.localName = e'.localName
  attributes : e.observedAttributes = e'.observedAttributes
  textType : e.textType = e'.textType
  hasText : e.hasText = e'.hasText
  childNames : e.childNames.eraseDups = e'.childNames.eraseDups
  repeats : ∀ n, e.repeats n = e'.repeats n

/-- Elements of the same shape resemble each other. -/
lemma SameShape.resembles {e e' : Element} (h : e.SameShape e') : e.Resembles e' where
  localName := h.localName
  attributes := by cases h with | intro _ attributes => exact attributes
  textType := by cases h with | intro _ _ textType => exact textType
  hasText := by cases h with | intro _ _ _ hasText => exact hasText
  childNames := by rw [h.childNames]
  repeats := fun n => by rw [Element.repeats, Element.repeats, h.childNames]

mutual

/-- A tree has its own shape. -/
theorem sameShape_refl (e : Element) : e.SameShape e := by
  obtain ⟨name, attributes, text, children, namespaces⟩ := e
  exact .intro rfl rfl rfl rfl (forall₂_sameShape_refl children)
termination_by structural e

/-- So do trees one by one. -/
theorem forall₂_sameShape_refl (es : List Element) : List.Forall₂ SameShape es es := by
  cases es with
  | nil => exact .nil
  | cons e es => exact .cons (sameShape_refl e) (forall₂_sameShape_refl es)
termination_by structural es

end

/-- The same elements below paths of one local name have places that resemble each other. -/
lemma forall₂_resembles {path path' : List Element}
    (above : path.head?.map localName = path'.head?.map localName) (es : List Element) :
    List.Forall₂ (Paired Resembles) (es.flatMap (placesFrom path)) (es.flatMap (placesFrom path')) := by
  rw [← placesFromAll_eq_flatMap, ← placesFromAll_eq_flatMap]
  exact (forall₂_placesFromAll above (forall₂_sameShape_refl es)).imp
    fun _ _ paired => ⟨paired.above, paired.here.resembles⟩

namespace Copied

variable {e e' : Element}

/-- A copy inside of an element leaves its name. -/
lemma localName (h : e.Copied e') : e.localName = e'.localName := by
  cases h with
  | here => rfl
  | inside => rfl

/-- An element resembles itself with a copy of a child that repeats. -/
lemma resembles_here {c : Element} {front rest : List Element} (children : e.children = front ++ rest)
    (mem : c ∈ front) (two : 2 ≤ e.childNames.count c.localName) :
    e.Resembles { e with children := front ++ c :: rest } where
  localName := rfl
  attributes := rfl
  textType := rfl
  hasText := rfl
  childNames := by
    have old : [c.localName] ⊆ front.map Element.localName :=
      List.cons_subset.mpr ⟨List.mem_map_of_mem mem, List.nil_subset _⟩
    simp only [childNames, children, List.map_append, List.map_cons]
    rw [List.append_cons]
    apply FirstSeen.eraseDups_append_congr _ rfl
    rw [FirstSeen.eraseDups_append_of_subset old]
  repeats := by
    intro n
    rw [childNames, children, List.map_append, List.count_append] at two
    simp only [Element.repeats, childNames, children, List.map_append, List.map_cons,
      List.count_append, List.count_cons, decide_eq_decide]
    by_cases here : c.localName = n
    · subst here
      simp only [beq_self_eq_true, if_true]
      omega
    · simp [here]

/-- An element resembles itself with a copy below one of its children. -/
lemma resembles_inside {c c' : Element} {before behind : List Element}
    (children : e.children = before ++ c :: behind) (h : c.Copied c') :
    e.Resembles { e with children := before ++ c' :: behind } := by
  have names : e.childNames = (before ++ c' :: behind).map Element.localName := by
    rw [childNames, children, List.map_append, List.map_cons, h.localName, List.map_append,
      List.map_cons]
  exact {
    localName := rfl
    attributes := rfl
    textType := rfl
    hasText := rfl
    childNames := congrArg List.eraseDups names
    repeats := fun n => by rw [Element.repeats, names]; rfl }

/-- Behind the places of a child, those of its copy come again. -/
lemma recurs_here {c : Element} {front rest : List Element} {path path' : List Element}
    (top : Paired Resembles (path, e) (path', e')) (children : e.children = front ++ rest)
    (children' : e'.children = front ++ c :: rest) (mem : c ∈ front) :
    Recurs (Paired Resembles) (placesFrom path e) (placesFrom path' e') := by
  have around : (e :: path).head?.map Element.localName = (e' :: path').head?.map Element.localName :=
    congrArg some top.here.localName
  have split : placesFrom path' e' = ((path', e') :: front.flatMap (placesFrom (e' :: path'))) ++
      placesFrom (e' :: path') c ++ rest.flatMap (placesFrom (e' :: path')) := by
    rw [placesFrom_eq path', children', List.flatMap_append, List.flatMap_cons, List.cons_append,
      List.cons_append, List.append_assoc]
  refine ⟨_, _, _, split, fun p inner => .tail _ (List.mem_flatMap.mpr ⟨c, mem, inner⟩), ?_⟩
  rw [placesFrom_eq path, children, List.cons_append, ← List.flatMap_append]
  exact .cons top (forall₂_resembles around (front ++ rest))

/-- If places come again among those of one child, they do among those of the element. -/
lemma recurs_inside {c c' : Element} {before behind : List Element} {path path' : List Element}
    (top : Paired Resembles (path, e) (path', e')) (children : e.children = before ++ c :: behind)
    (children' : e'.children = before ++ c' :: behind)
    (inner : Recurs (Paired Resembles) (placesFrom (e :: path) c) (placesFrom (e' :: path') c')) :
    Recurs (Paired Resembles) (placesFrom path e) (placesFrom path' e') := by
  have around : (e :: path).head?.map Element.localName = (e' :: path').head?.map Element.localName :=
    congrArg some top.here.localName
  rw [placesFrom_eq path, placesFrom_eq path', children, children', List.flatMap_append,
    List.flatMap_append, List.flatMap_cons, List.flatMap_cons]
  have inner := inner.append_right (forall₂_resembles around behind)
  exact (inner.append_left (forall₂_resembles around before)).append_left (.cons top .nil)

/-- The places of a tree are those of the tree with the copy, where the places of the copied child come
again. -/
lemma recurs (h : e.Copied e') {path path' : List Element}
    (above : path.head?.map Element.localName = path'.head?.map Element.localName) :
    Recurs (Paired Resembles) (placesFrom path e) (placesFrom path' e') := by
  induction h generalizing path path' with
  | here children mem two =>
    exact recurs_here ⟨above, resembles_here children mem two⟩ children rfl mem
  | inside children inner ih =>
    exact recurs_inside ⟨above, resembles_inside children inner⟩ children rfl (ih rfl)

end Copied

end Element

open Element (Resembles)

/-! ## What is seen of a tree with a copy -/

namespace Element.Resembles

variable {e e' : Element} (h : e.Resembles e')

include h

/-- Elements that resemble each other have attributes of the same names. -/
lemma attributeNames :
    e.attributes.keys.map Name.localPart = e'.attributes.keys.map Name.localPart := by
  have names (e : Element) :
      e.attributes.keys.map Name.localPart = e.observedAttributes.map Prod.fst := by
    rw [observedAttributes, Table.keys, List.map_map, List.map_map]
    rfl
  rw [names, names, h.attributes]

/-- Elements that resemble each other have attributes of the same types. -/
lemma attributeTypes (n : String) : e.attributeTypes n = e'.attributeTypes n := by
  have types (e : Element) :
      e.attributeTypes n = (e.observedAttributes.filter fun a => a.1 = n).map Prod.snd := by
    rw [Element.attributeTypes, observedAttributes, List.filter_map, List.map_map]
    rfl
  rw [types, types, h.attributes]

end Element.Resembles

attribute [ext] Evidence

section

variable {es es' : List Element} (h : Recurs Resembles es es')

include h

/-- Common types do not change when elements come again. -/
lemma Recurs.joinAll_eq {obs : Element → List Primitive}
    (same : ∀ e e', e.Resembles e' → obs e = obs e') :
    Primitive.joinAll (es.flatMap obs) = Primitive.joinAll (es'.flatMap obs) := by
  refine Primitive.joinAll_congr fun p => ?_
  simp only [List.mem_flatMap]
  exact h.exists_mem_iff fun e e' near => by rw [same e e' near]

/-- Evidence does not change when elements come again. -/
lemma Evidence.ofElements_of_recurs (placeOf : String → Nat) :
    ofElements placeOf es = ofElements placeOf es' := by
  -- A table is known from its keys in order and what it has for each of them.
  have attributes : (ofElements placeOf es).attributes = (ofElements placeOf es').attributes := by
    apply Table.ext_of_keys
    · rw [keys_attributes_ofElements]
      exact FirstSeen.nodup_eraseDups _
    · rw [keys_attributes_ofElements, keys_attributes_ofElements]
      exact h.eraseDups_flatMap fun e e' near => by rw [near.attributeNames]
    · intro n
      rw [get?_attributes_ofElements, get?_attributes_ofElements]
      exact h.joinAll_eq fun e e' near => near.attributeTypes n
  have children : (ofElements placeOf es).children = (ofElements placeOf es').children := by
    apply Table.ext_of_keys
    · rw [keys_children_ofElements]
      exact FirstSeen.nodup_eraseDups _
    · rw [keys_children_ofElements, keys_children_ofElements]
      exact h.eraseDups_flatMap fun e e' near => near.childNames
    · intro n
      have named : n ∈ es.flatMap Element.childNames ↔ n ∈ es'.flatMap Element.childNames := by
        rw [← List.mem_eraseDups, h.eraseDups_flatMap fun e e' near => near.childNames,
          List.mem_eraseDups]
      have repeated : es.any (Element.repeats · n) = es'.any (Element.repeats · n) := by
        rw [Bool.eq_iff_iff, List.any_eq_true, List.any_eq_true]
        exact h.exists_mem_iff fun e e' near => by rw [near.repeats n]
      rw [get?_children_ofElements, get?_children_ofElements, repeated]
      simp only [named]
  have text : (ofElements placeOf es).text = (ofElements placeOf es').text := by
    rw [text_ofElements, text_ofElements, List.map_eq_flatMap, List.map_eq_flatMap]
    exact h.joinAll_eq fun e e' near => by rw [near.textType]
  have hasText : (ofElements placeOf es).hasText = (ofElements placeOf es').hasText := by
    rw [hasText_ofElements, hasText_ofElements, Bool.eq_iff_iff, List.any_eq_true, List.any_eq_true]
    exact h.exists_mem_iff fun e e' near => by rw [near.hasText]
  exact Evidence.ext attributes children text hasText

end

namespace Element.Copied

variable {root root' : Element} (h : root.Copied root') (scope : Scope)

include h

/-- The places of a copy recur among those that were there. -/
lemma recurs_places : Recurs (Paired Resembles) root.places root'.places := by
  rw [places_eq, places_eq]
  exact h.recurs rfl

/-- No key is new, and none is met earlier. -/
lemma typeKeys_eq : typeKeys scope root = typeKeys scope root' := by
  have first : keyAt scope ([], root) = keyAt scope ([], root') := by
    rw [keyAt, keyAt, TypeKey.ofPlace, TypeKey.ofPlace, h.localName]
  have children (p p' : Place) (paired : Paired Resembles p p') :
      (childKeys scope p).eraseDups = (childKeys scope p').eraseDups := by
    have inj := TypeKey.ofNames_injective scope
    have names : (p.2.children.map Element.localName).eraseDups =
        (p'.2.children.map Element.localName).eraseDups := paired.here.childNames
    rw [TypeKey.childKeys_eq, TypeKey.childKeys_eq, ← FirstSeen.map_eraseDups (inj _),
      ← FirstSeen.map_eraseDups (inj _), names, paired.here.localName]
  have met := h.recurs_places.eraseDups_flatMap children
  rw [typeKeys, typeKeys, metKeys, metKeys, first, ← List.singleton_append, ← List.singleton_append]
  exact FirstSeen.eraseDups_append_congr rfl met

/-- The occurrences of a key come again at most. -/
lemma recurs_occurrences (k : TypeKey) :
    Recurs Resembles (occurrences scope k root.places) (occurrences scope k root'.places) := by
  obtain ⟨front, again, rest, split, old, matched⟩ := h.recurs_places
  have joined (ps qs : List Place) :
      occurrences scope k (ps ++ qs) = occurrences scope k ps ++ occurrences scope k qs := by
    rw [occurrences, List.filter_append, List.map_append]
    rfl
  refine ⟨occurrences scope k front, occurrences scope k again, occurrences scope k rest, ?_, ?_, ?_⟩
  · rw [split, joined, joined]
  · exact List.map_subset _ (List.filter_subset _ old)
  · rw [← joined]
    exact TypeKey.forall₂_occurrences (fun _ _ near => near.localName) matched k

/-- A copy leaves the types of the schema as they are. -/
lemma types_described :
    (Schema.described scope root).types = (Schema.described scope root').types :=
  Schema.types_described_congr (h.typeKeys_eq scope) fun placeOf k =>
    Evidence.ofElements_of_recurs (h.recurs_occurrences scope k) placeOf

/-- The root keeps its name and its namespace. -/
lemma root_eq : root.name = root'.name ∧ root.namespace? = root'.namespace? := by
  cases h with
  | here => exact ⟨rfl, rfl⟩
  | inside => exact ⟨rfl, rfl⟩

end Element.Copied

/-- A copy of a child of which an element has two or more, put behind the child, changes neither the
schema nor its text, and where there is no room for the types, the same breach is told. -/
theorem infer_of_copied {root root' : Element} (h : root.Copied root') (scope : Scope)
    (limits : Limits) :
    Schema.infer scope limits root' = Schema.infer scope limits root ∧
      (Schema.infer scope limits root').map Schema.xsd =
        (Schema.infer scope limits root).map Schema.xsd := by
  have described : Schema.described scope root' = Schema.described scope root := by
    obtain ⟨name, namespaces⟩ := h.root_eq
    show Schema.mk _ _ _ (Schema.described scope root').types =
      Schema.mk _ _ _ (Schema.described scope root).types
    rw [h.types_described scope, name, namespaces]
  have same : Schema.infer scope limits root' = Schema.infer scope limits root := by
    rw [Schema.infer_eq, Schema.infer_eq, h.typeKeys_eq scope, described]
  exact ⟨same, congrArg (Except.map Schema.xsd) same⟩

/-- A child is copied behind a sibling that shows more of its type, somewhere below the root. -/
theorem infer_of_copied_below :
    let item : Element := { name := "p:item", attributes := ⟨[("no", "1")]⟩, children := [
      { name := "sub", text := some "7" }] }
    let other : Element := { name := "item", attributes := ⟨[("q:no", "x"), ("on", "true")]⟩ }
    let note : Element := { name := "note", children := [{ name := "item" }] }
    let list : Element := { name := "list", children := [item, note] ++ [other] }
    let list' : Element := { name := "list", children := [item, note] ++ item :: [other] }
    let root : Element := { name := "r", children := [{ name := "sub" }] ++ list :: [note] }
    let root' : Element := { name := "r", children := [{ name := "sub" }] ++ list' :: [note] }
    root.Copied root' ∧
      Schema.infer .parent { types := 7 } root' = Schema.infer .parent { types := 7 } root ∧
      (Schema.infer .parent { types := 7 } root').map Schema.xsd =
        (Schema.infer .parent { types := 7 } root).map Schema.xsd := by
  intro item other note list list' root root'
  have two : 2 ≤ list.childNames.count item.localName := by decide +kernel
  have copied : list.Copied list' := .here (e := list) rfl (.head _) two
  have below : root.Copied root' := .inside (e := root) rfl copied
  exact ⟨below, infer_of_copied below .parent { types := 7 }⟩

end XsdInfer
