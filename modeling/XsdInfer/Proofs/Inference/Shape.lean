import XsdInfer.Proofs.Inference.Evidence
import XsdInfer.Proofs.Inference.Ledger
import XsdInfer.Schema.Xsd

/-!
# The shape of a sample

Two trees have the same shape (`Element.SameShape`), if they have the same form and elements that
correspond have the same local names, the same types of values, and text or none. Main statement:
inference sees of a tree no more than its shape and the namespace of its root
(`infer_of_sameShape`). The places of two trees of one shape correspond in order
(`forall₂_placesFrom`), with the same keys and the same evidence.
-/

namespace XsdInfer

open Element (Place Paired placesFrom placesFromAll)
open TypeKey (keyAt childKeys metKeys typeKeys occurrences)

namespace Element

/-- The attributes as inference sees them: their local names with the types of their values. -/
def observedAttributes (e : Element) : List (String × Primitive) :=
  e.attributes.entries.map fun a => (Name.localPart a.1, Primitive.infer a.2)

/-- Two trees of the same form, in which inference sees the same of elements that correspond. -/
inductive SameShape : Element → Element → Prop where
  | intro {e e' : Element} :
    e.localName = e'.localName →
    e.observedAttributes = e'.observedAttributes →
    e.textType = e'.textType →
    e.hasText = e'.hasText →
    List.Forall₂ SameShape e.children e'.children →
    SameShape e e'

namespace SameShape

variable {e e' : Element}

/-- Elements of the same shape have the same name. -/
lemma localName (h : e.SameShape e') : e.localName = e'.localName := by
  cases h with
  | intro name => exact name

/-- Elements of the same shape have children of the same names. -/
lemma childNames (h : e.SameShape e') : e.childNames = e'.childNames := by
  cases h with
  | intro _ _ _ _ below => exact map_localName_eq (fun _ _ => SameShape.localName) below

/-- Places of the same shape have the same key. -/
lemma keyAt_of_paired {p p' : Place} (h : Paired SameShape p p') {scope : Scope} :
    keyAt scope p = keyAt scope p' :=
  TypeKey.keyAt_eq_of_paired (fun _ _ same => same.localName) h scope

end SameShape

mutual

/-- The places of two trees of one shape correspond in order. -/
theorem forall₂_placesFrom {path path' : List Element}
    (above : path.head?.map localName = path'.head?.map localName) {e e' : Element}
    (h : e.SameShape e') :
    List.Forall₂ (Paired SameShape) (placesFrom path e) (placesFrom path' e') := by
  have here : Paired SameShape (path, e) (path', e') := ⟨above, h⟩
  have around : (e :: path).head?.map localName = (e' :: path').head?.map localName :=
    congrArg some h.localName
  rw [placesFrom_eq path' e', ← placesFromAll_eq_flatMap]
  obtain ⟨name, attributes, text, children, namespaces⟩ := e
  cases h with
  | intro _ _ _ _ below => exact .cons here (forall₂_placesFromAll around below)
termination_by structural e

/-- So do those of trees that have the same shapes one by one. -/
theorem forall₂_placesFromAll {path path' : List Element}
    (above : path.head?.map localName = path'.head?.map localName) {es es' : List Element}
    (h : List.Forall₂ SameShape es es') :
    List.Forall₂ (Paired SameShape) (placesFromAll path es) (placesFromAll path' es') := by
  cases es with
  | nil =>
    cases h
    exact .nil
  | cons e es =>
    cases h with
    | cons first rest =>
      rw [placesFromAll, placesFromAll]
      exact List.rel_append (forall₂_placesFrom above first) (forall₂_placesFromAll above rest)
termination_by structural es

end

end Element

open Element (SameShape)

namespace Evidence

/-- What is seen of an element, written out by what is observed of it. -/
lemma see_eq (placeOf : String → Nat) (e : Element) (v : Evidence) :
    v.see placeOf e = {
      attributes := e.observedAttributes.foldl (fun t a => t.alter a.1 (Primitive.join a.2))
        v.attributes
      children := (e.childNames.foldl (fun t n => t.alter n fun c => c.getD 0 + 1)
        ({} : Table String Nat)).entries.foldl (seeChildren placeOf) v.children
      text := some (Primitive.join e.textType v.text)
      hasText := v.hasText || e.hasText } := by
  rw [see, Element.childCounts, Element.observedAttributes, Element.childNames, List.foldl_map,
    List.foldl_map]
  rfl

/-- Elements of one shape are the same evidence. -/
lemma see_of_sameShape {e e' : Element} (h : e.SameShape e') (placeOf : String → Nat)
    (v : Evidence) : v.see placeOf e = v.see placeOf e' := by
  rw [see_eq, see_eq, h.childNames]
  cases h with
  | intro _ attributes text hasText => rw [attributes, text, hasText]

/-- Elements of the same shape give the same evidence. -/
lemma ofElements_of_sameShape {es es' : List Element} (h : List.Forall₂ SameShape es es')
    (placeOf : String → Nat) : ofElements placeOf es = ofElements placeOf es' := by
  have loop (v : Evidence) :
      es.foldl (fun v e => v.see placeOf e) v = es'.foldl (fun v e => v.see placeOf e) v := by
    induction h generalizing v with
    | nil => rfl
    | cons first _ ih => rw [List.foldl_cons, List.foldl_cons, see_of_sameShape first, ih]
  exact loop {}

end Evidence

namespace TypeKey

variable {scope : Scope} {ps ps' : List Place}

/-- The children at places of the same shape have the same keys. -/
lemma flatMap_childKeys_of_paired (h : List.Forall₂ (Paired SameShape) ps ps') :
    ps.flatMap (childKeys scope) = ps'.flatMap (childKeys scope) := by
  induction h with
  | nil => rfl
  | @cons p p' _ _ first _ ih =>
    have names : p.2.children.map Element.localName = p'.2.children.map Element.localName :=
      first.here.childNames
    rw [List.flatMap_cons, List.flatMap_cons, ih, childKeys_eq, childKeys_eq, names,
      first.here.localName]

/-- The elements of one key correspond, if all elements of two lists of places do. -/
lemma forall₂_occurrences {R : Element → Element → Prop}
    (names : ∀ e e', R e e' → e.localName = e'.localName) (h : List.Forall₂ (Paired R) ps ps')
    (k : TypeKey) : List.Forall₂ R (occurrences scope k ps) (occurrences scope k ps') := by
  induction h with
  | nil => exact .nil
  | @cons p p' ps ps' first _ ih =>
    have key : keyAt scope p = keyAt scope p' := keyAt_eq_of_paired names first scope
    rw [occurrences, occurrences, List.filter_cons, List.filter_cons, key]
    split
    next => exact .cons first.here ih
    next => exact ih

end TypeKey

section

variable {root root' : Element} (h : root.SameShape root') (scope : Scope)

include h

/-- Trees of the same shape have places of the same shape. -/
lemma Element.SameShape.forall₂_places :
    List.Forall₂ (Paired SameShape) root.places root'.places := by
  rw [places_eq, places_eq]
  exact forall₂_placesFrom rfl h

/-- Trees of the same shape have types for the same keys. -/
lemma Element.SameShape.typeKeys_eq : typeKeys scope root = typeKeys scope root' := by
  have roots : Paired SameShape ([], root) ([], root') := ⟨rfl, h⟩
  have first : keyAt scope ([], root) = keyAt scope ([], root') := keyAt_of_paired roots
  rw [typeKeys, typeKeys, metKeys, metKeys, first,
    TypeKey.flatMap_childKeys_of_paired h.forall₂_places]

/-- Trees of the same shape have the same types. -/
lemma Element.SameShape.types_described :
    (Schema.described scope root).types = (Schema.described scope root').types :=
  Schema.types_described_congr (h.typeKeys_eq scope) fun placeOf k =>
    Evidence.ofElements_of_sameShape
      (TypeKey.forall₂_occurrences (fun _ _ same => same.localName) h.forall₂_places k) placeOf

end

/-- Inference depends on the shape of a tree and the namespace of its root alone. Only the name of
the root is kept as it stands, and it is not written. -/
theorem infer_of_sameShape {root root' : Element} (h : root.SameShape root')
    (namespaces : root.namespace? = root'.namespace?) (scope : Scope) (limits : Limits) :
    (∃ b, Schema.infer scope limits root = .error b ∧ Schema.infer scope limits root' = .error b) ∨
      ∃ s, Schema.infer scope limits root = .ok s ∧
        Schema.infer scope limits root' = .ok { s with rootName := root'.name } ∧
        ({ s with rootName := root'.name } : Schema).xsd = s.xsd := by
  rw [Schema.infer_eq, Schema.infer_eq, h.typeKeys_eq scope]
  by_cases room : (typeKeys scope root').length ≤ limits.types
  · rw [if_pos room, if_pos room]
    have same : Schema.described scope root' =
        { Schema.described scope root with rootName := root'.name } := by
      show Schema.mk _ _ _ (Schema.described scope root').types = _
      rw [← h.types_described scope, ← namespaces]
      rfl
    refine .inr ⟨_, rfl, congrArg Except.ok same, ?_⟩
    -- A schema is written with the local name of the root.
    have name : Name.localPart root'.name = Name.localPart root.name := h.localName.symm
    show Schema.render _ root'.name _ = Schema.render _ root.name _
    rw [Schema.render, Schema.render, Schema.layout, Schema.layout, name]
    rfl
  · rw [if_neg room, if_neg room]
    exact .inl ⟨_, rfl, rfl⟩

/-- Two trees with different prefixes, values and texts are of one shape. -/
theorem infer_of_sameShape_prefixed :
    let root : Element := { name := "p:order", namespaces := ⟨⟨[("p", "urn:o")]⟩, none⟩, children := [
      { name := "p:line", attributes := ⟨[("p:no", "1"), ("on", "2024-01-31")]⟩ },
      { name := "note", text := some "" }] }
    let root' : Element := { name := "order", namespaces := ⟨{}, some "urn:o"⟩, children := [
      { name := "x:line", attributes := ⟨[("no", "-07"), ("y:on", "1999-12-01")]⟩ },
      { name := "note", text := some "paid" }] }
    root.SameShape root' ∧ root.namespace? = root'.namespace? ∧
      ((∃ b, Schema.infer .parent {} root = .error b ∧ Schema.infer .parent {} root' = .error b) ∨
        ∃ s, Schema.infer .parent {} root = .ok s ∧
          Schema.infer .parent {} root' = .ok { s with rootName := root'.name } ∧
          ({ s with rootName := root'.name } : Schema).xsd = s.xsd) := by
  intro root root'
  have line : SameShape
      { name := "p:line", attributes := ⟨[("p:no", "1"), ("on", "2024-01-31")]⟩ }
      { name := "x:line", attributes := ⟨[("no", "-07"), ("y:on", "1999-12-01")]⟩ } :=
    .intro (by decide +kernel) (by decide +kernel) rfl rfl .nil
  have note : SameShape { name := "note", text := some "" } { name := "note", text := some "paid" } :=
    .intro rfl rfl (by decide +kernel) rfl .nil
  have same : root.SameShape root' :=
    .intro (by decide +kernel) rfl rfl rfl (.cons line (.cons note .nil))
  have namespaces : root.namespace? = root'.namespace? := by decide +kernel
  exact ⟨same, namespaces, infer_of_sameShape same namespaces .parent {}⟩

end XsdInfer
