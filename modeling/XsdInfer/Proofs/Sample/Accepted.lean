import XsdInfer.Proofs.Element.Places
import XsdInfer.Proofs.FirstSeen
import XsdInfer.Proofs.Name.Characters
import XsdInfer.Proofs.Sample.Moves

/-!
# Names of accepted samples

Main statement: the elements of a sample that is read have names that are qualified names, and so have
their attributes (`named_of_parse`). A tag is refused otherwise, and a draft keeps this of the elements
in it with each event (`Draft.Sound.of_moves`).
-/

namespace XsdInfer

open Element (Place placesFrom)
open Steps (eq_ok_of_mapError)

namespace Element

/-- An element whose own name and whose attributes have qualified names. -/
structure Named (e : Element) : Prop where
  name : Name.isQualified e.name = true
  attributes : ∀ n ∈ e.attributes.keys, Name.isQualified n = true

/-- A tree, all elements of which have qualified names. -/
def AllNamed (e : Element) : Prop :=
  ∀ path, ∀ p ∈ placesFrom path e, p.2.Named

/-- An element with a name is named throughout if its children are. -/
lemma allNamed_of_children {e : Element} (named : e.Named) (below : ∀ c ∈ e.children, c.AllNamed) :
    e.AllNamed := by
  intro path p mem
  obtain rfl | ⟨c, child, inside⟩ := mem_placesFrom_iff.mp mem
  · exact named
  · exact below c child _ p inside

end Element

namespace Sample

/-- Attributes are collected only under qualified names. -/
lemma Collected.isQualified_of_foldlM {as : List RawAttribute} {c : Collected}
    (h : as.foldlM addRaw {} = .ok c) : ∀ a ∈ c.plain, Name.isQualified a.1 = true := by
  refine Steps.keeps_foldlM (P := fun c : Collected => ∀ a ∈ c.plain, Name.isQualified a.1 = true)
    (fun c a c' named added => ?_) (fun _ mem => absurd mem List.not_mem_nil) h
  unfold addRaw at added
  split at added
  next value _ =>
    unfold add at added
    split at added
    next => cases added; exact named
    next =>
      split at added
      next => cases added; exact named
      next =>
        split at added
        next qualified =>
          cases added
          exact List.forall_mem_cons.mpr ⟨qualified, named⟩
        next => cases added
  next => cases added

/-- An element stays named when it gets attributes with names. -/
lemma named_foldl_withAttribute {as : List (String × String)}
    (h : ∀ a ∈ as, Name.isQualified a.1 = true) {e : Element} (named : e.Named) :
    (as.foldl (fun e a => e.withAttribute a.1 a.2) e).Named := by
  induction as generalizing e with
  | nil => exact named
  | cons a as ih =>
    refine ih (fun a mem => h a (.tail _ mem)) ⟨named.name, fun n mem => ?_⟩
    have mem : n ∈ (e.attributes.insert a.1 a.2).keys := mem
    rw [Table.insert, Table.keys_alter] at mem
    split at mem
    next => exact named.attributes n mem
    next =>
      obtain old | new := List.mem_append.mp mem
      · exact named.attributes n old
      · obtain rfl := List.mem_singleton.mp new
        exact h a (.head _)

/-- A tag that is opened has qualified names. -/
lemma named_of_openTag {limits : Limits} {around : List Namespace.Declarations} {tag : Tag}
    {e : Element} (h : openTag limits around tag = .ok e) : e.Named := by
  obtain ⟨c, opens, rfl⟩ := openTag_eq_ok_iff.mp h
  have plain := Collected.isQualified_of_foldlM opens.collected
  refine named_foldl_withAttribute (fun a mem => ?_) ⟨opens.named, fun _ mem => ?_⟩
  · exact plain a (List.mem_reverse.mp (List.mem_filter.mp mem).1)
  · cases mem

namespace Draft

/-- A draft, all elements of which have qualified names. -/
structure Sound (d : Draft) : Prop where
  stack : ∀ f ∈ d.stack, f.element.Named ∧ ∀ c ∈ f.children, c.AllNamed
  root : ∀ e ∈ d.root, e.AllNamed

variable {limits : Limits} {d d' : Draft} {event : Event}

/-- A draft stays sound when an element goes to its place that is named throughout. -/
lemma Sound.of_attached (h : d.Sound) {e : Element} (named : e.AllNamed) (attached : Attached e d d') :
    d'.Sound := by
  cases attached with
  | inside =>
    obtain ⟨inner, outer⟩ := List.forall_mem_cons.mp h.stack
    refine ⟨List.forall_mem_cons.mpr ⟨⟨inner.1, ?_⟩, outer⟩, h.root⟩
    exact List.forall_mem_cons.mpr ⟨named, inner.2⟩
  | root => exact ⟨h.stack, fun _ mem => Option.mem_some.mp mem ▸ named⟩

/-- Each event keeps a draft sound. -/
theorem Sound.of_moves (h : d.Sound) (moves : Moves limits d event d') : d'.Sound := by
  cases moves with
  | start _ opens _ =>
    have named := named_of_openTag opens
    exact ⟨List.forall_mem_cons.mpr ⟨⟨named, fun _ mem => absurd mem List.not_mem_nil⟩, h.stack⟩,
      h.root⟩
  | empty opens _ attached =>
    refine h.of_attached (Element.allNamed_of_children (named_of_openTag opens) fun c mem => ?_) attached
    rw [(plain_of_openTag opens).2] at mem
    cases mem
  | @stop f stack root _ attached =>
    obtain ⟨inner, outer⟩ := List.forall_mem_cons.mp h.stack
    have around : Draft.Sound ⟨stack, root⟩ := ⟨outer, h.root⟩
    have closed : f.close.Named := ⟨inner.1.name, inner.1.attributes⟩
    refine around.of_attached (Element.allNamed_of_children closed fun c mem => ?_) attached
    exact inner.2 c (List.mem_reverse.mp mem)
  | @data _ data f stack root _ =>
    obtain ⟨inner, outer⟩ := List.forall_mem_cons.mp h.stack
    have named : (f.addText data).element.Named := by
      rw [Frame.addText, Element.appendText]
      cases Text.trim data with
      | nil => exact inner.1
      | cons c run => cases f.element.text <;> exact ⟨inner.1.name, inner.1.attributes⟩
    exact ⟨List.forall_mem_cons.mpr ⟨⟨named, inner.2⟩, outer⟩, h.root⟩
  | blank _ _ => exact h
  | aside => exact h

end Draft

/-- The elements of a sample that is read have qualified names. -/
theorem named_of_parse {limits : Limits} {xml : String} {root : Element}
    (h : parse limits xml = .ok root) : ∀ p ∈ root.places, p.2.Named := by
  obtain ⟨-, events⟩ := Reading.document_eq_ok_iff.mp (eq_ok_of_mapError h)
  have sound : Draft.Sound ⟨[], some root⟩ := by
    refine Steps.keeps_foldlM (fun d e d' sound done => ?_) ⟨by simp, by simp⟩ events
    exact Draft.Sound.of_moves sound (Draft.step_eq_ok_iff.mp done)
  rw [Element.places_eq]
  exact sound.root root rfl []

end Sample

end XsdInfer
