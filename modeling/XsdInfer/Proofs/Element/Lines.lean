import Mathlib.Data.List.Forall2
import XsdInfer.Proofs.Inference.Shape
import XsdInfer.Proofs.Primitive.Lines
import XsdInfer.Proofs.Sample.Filling

/-!
# Trees with the same lines

Two trees have the same lines (`Element.SameLines`), if they differ at most in the line ends of values
and texts. What makes elements out of parts keeps this. Main statement: such trees have the same shape
(`Element.SameLines.sameShape`), because types of values do not depend on line ends.
-/

namespace XsdInfer

open Text (SameLines)

/-- Two values with the same lines. -/
def Text.Alike (v w : String) : Prop :=
  SameLines v.toList w.toList

namespace Text.Alike

variable {v w : String}

/-- A value is like itself. -/
lemma refl (v : String) : Alike v v :=
  SameLines.refl _

/-- A value without line ends stands on both sides or on none. -/
lemma eq_iff {u : String} (inner : ∀ c ∈ u.toList, SameLines.Inner c) (h : Alike v w) :
    v = u ↔ w = u := by
  constructor
  · rintro rfl
    exact String.toList_inj.mp (SameLines.eq_of_left h fun mem => (inner _ mem).1 rfl)
  · rintro rfl
    exact (String.toList_inj.mp (SameLines.eq_of_right h fun mem => (inner _ mem).2 rfl)).symm

/-- A value without line feeds stays as it is. -/
lemma eq_of_left (plain : '\n' ∉ v.toList) (h : Alike v w) : w = v :=
  String.toList_inj.mp (SameLines.eq_of_left h plain)

/-- Values that are put together from like parts are alike. -/
lemma append {v' w' : String} (h : Alike v w) (h' : Alike v' w') : Alike (v ++ v') (w ++ w') := by
  rw [Alike, String.toList_append, String.toList_append]
  exact SameLines.append h h'

/-- Of two values that are alike, one is there if the other is. -/
lemma isSome_eq {x y : Option String} (h : Option.Rel Alike x y) : x.isSome = y.isSome := by
  cases h with
  | none => rfl
  | some => rfl

end Text.Alike

open Text (Alike)

/-! ## Tables -/

/-- Entries with one key, and values with the same lines. -/
def AlikeEntries (a b : String × String) : Prop :=
  a.1 = b.1 ∧ Alike a.2 b.2

/-- Tables with the same keys in the same order, and values with the same lines. -/
def Table.SameLines (t u : Table String String) : Prop :=
  List.Forall₂ AlikeEntries t.entries u.entries

namespace Table.SameLines

variable {t u : Table String String} {k v w : String}

/-- Like values under the same key leave the tables alike. -/
lemma insert (h : t.SameLines u) (value : Alike v w) : (t.insert k v).SameLines (u.insert k w) := by
  have entries {l m : List (String × String)} (h : List.Forall₂ AlikeEntries l m) :
      List.Forall₂ AlikeEntries (alterEntries k (fun _ => v) l) (alterEntries k (fun _ => w) m) := by
    induction h with
    | nil => exact .cons ⟨rfl, value⟩ .nil
    | @cons a b l m first rest ih =>
      obtain ⟨key, old⟩ := first
      rw [alterEntries, alterEntries, key]
      split
      next => exact .cons ⟨rfl, value⟩ rest
      next => exact .cons ⟨rfl, old⟩ ih
  exact entries h

/-- The same key finds like values. -/
lemma get? (h : t.SameLines u) (k : String) : Option.Rel Alike (t.get? k) (u.get? k) := by
  have entries {l m : List (String × String)} (h : List.Forall₂ AlikeEntries l m) :
      Option.Rel Alike (l.lookup k) (m.lookup k) := by
    induction h with
    | nil => exact .none
    | @cons a b l m first rest ih =>
      obtain ⟨name, v⟩ := a
      obtain ⟨name', w⟩ := b
      obtain ⟨key, value⟩ := first
      obtain rfl : name = name' := key
      rw [List.lookup_cons, List.lookup_cons]
      split
      next => exact .some value
      next => exact ih
  exact entries h

/-- Like tables have the same size. -/
lemma size (h : t.SameLines u) : t.size = u.size :=
  h.length_eq

end Table.SameLines

/-! ## Namespaces -/

namespace Namespace.Declarations

/-- Declarations of the same prefixes, with names of namespaces that have the same lines. -/
structure SameLines (d e : Declarations) : Prop where
  prefixed : d.prefixed.SameLines e.prefixed
  unprefixed : Option.Rel Alike d.unprefixed e.unprefixed

namespace SameLines

variable {d e : Declarations}

/-- The same prefix finds like namespaces. -/
lemma get? (h : d.SameLines e) (pre : String) : Option.Rel Alike (d.get? pre) (e.get? pre) := by
  unfold Declarations.get?
  split
  next => exact .some (.refl _)
  next => exact h.prefixed.get? pre

/-- Like declarations are equally many. -/
lemma size (h : d.SameLines e) : d.size = e.size := by
  rw [Declarations.size, Declarations.size, h.prefixed.size, Alike.isSome_eq h.unprefixed]

/-- A namespace whose name holds no line feed is the same on both sides. -/
lemma ofElement_eq (h : d.SameLines e) {pre : Option String}
    (plain : ∀ uri, d.ofElement pre = some uri → '\n' ∉ uri.toList) :
    d.ofElement pre = e.ofElement pre := by
  have filtered {x y : Option String} (h : Option.Rel Alike x y)
      (plain : ∀ uri, x.filter (· ≠ "") = some uri → '\n' ∉ uri.toList) :
      x.filter (· ≠ "") = y.filter (· ≠ "") := by
    cases h with
    | none => rfl
    | @some v w same =>
      by_cases empty : v = ""
      · rw [empty, (same.eq_iff (by simp)).mp empty]
      · rw [same.eq_of_left (plain v (by simp [empty]))]
  cases pre with
  | none => exact filtered h.unprefixed plain
  | some pre => exact filtered (h.get? pre) plain

end SameLines

end Namespace.Declarations

/-! ## Elements -/

namespace Element

/-- Trees of one form with the same names, whose values and texts have the same lines. -/
inductive SameLines : Element → Element → Prop where
  | intro {e e' : Element} :
    e.name = e'.name →
    e.attributes.SameLines e'.attributes →
    Option.Rel Alike e.text e'.text →
    List.Forall₂ SameLines e.children e'.children →
    e.namespaces.SameLines e'.namespaces →
    SameLines e e'

namespace SameLines

variable {e e' : Element}

/-- Like elements have the same name. -/
lemma name (h : e.SameLines e') : e.name = e'.name := by
  cases h with
  | intro name => exact name

/-- Like elements have like declarations. -/
lemma namespaces (h : e.SameLines e') : e.namespaces.SameLines e'.namespaces := by
  cases h with
  | intro _ _ _ _ namespaces => exact namespaces

/-- Like elements stay alike when they get like attributes. -/
lemma withAttribute (h : e.SameLines e') {a b : String × String} (entry : AlikeEntries a b) :
    (e.withAttribute a.1 a.2).SameLines (e'.withAttribute b.1 b.2) := by
  cases h with
  | intro name attributes text children namespaces =>
    obtain ⟨key, value⟩ := entry
    rw [Element.withAttribute, Element.withAttribute, key]
    exact .intro name (attributes.insert value) text children namespaces

/-- Like elements stay alike when they get like children. -/
lemma withChildren (h : e.SameLines e') {es es' : List Element} (below : List.Forall₂ SameLines es es') :
    SameLines { e with children := es } { e' with children := es' } := by
  cases h with
  | intro name attributes text _ namespaces => exact .intro name attributes text below namespaces

/-- Data with the same lines is appended alike. -/
lemma appendText (h : e.SameLines e') {s t : List Char} (data : Text.SameLines s t) :
    (e.appendText s).SameLines (e'.appendText t) := by
  have run := data.trim
  by_cases blank : Text.trim s = []
  · have blank' := run.eq_nil_iff.mp blank
    rwa [Element.appendText, Element.appendText, blank, blank']
  · have visible' : Text.trim t ≠ [] := fun none => blank (run.eq_nil_iff.mpr none)
    rw [appendText_of_visible blank, appendText_of_visible visible']
    cases h with
    | @intro e e' name attributes text children namespaces =>
      have before {x y : Option String} (h : Option.Rel Alike x y) :
          Alike (x.elim "" (· ++ " ")) (y.elim "" (· ++ " ")) := by
        cases h with
        | none => exact .refl _
        | some same => exact same.append (.refl _)
      have run : Alike (String.ofList (Text.trim s)) (String.ofList (Text.trim t)) := by
        rwa [Alike, String.toList_ofList, String.toList_ofList]
      exact .intro name attributes (.some ((before text).append run)) children namespaces

end SameLines

/-- Inference sees the same of attributes with the same lines. -/
lemma observed_of_sameLines {e e' : Element} (h : e.attributes.SameLines e'.attributes) :
    e.observedAttributes = e'.observedAttributes := by
  have entries {l m : List (String × String)} (h : List.Forall₂ AlikeEntries l m) :
      l.map (fun a => (Name.localPart a.1, Primitive.infer a.2)) =
        m.map fun a => (Name.localPart a.1, Primitive.infer a.2) := by
    induction h with
    | nil => rfl
    | cons first _ ih =>
      rw [List.map_cons, List.map_cons, first.1, Primitive.infer_of_sameLines first.2, ih]
  exact entries h

/-- Like texts have the same primitive type. -/
lemma textType_of_sameLines {e e' : Element} (h : Option.Rel Alike e.text e'.text) :
    e.textType = e'.textType := by
  have text {x y : Option String} (h : Option.Rel Alike x y) : Alike (x.getD "") (y.getD "") := by
    cases h with
    | none => exact .refl _
    | some same => exact same
  exact Primitive.infer_of_sameLines (text h)

mutual

/-- Trees with the same lines have the same shape. -/
theorem SameLines.sameShape {e e' : Element} (h : e.SameLines e') : e.SameShape e' := by
  obtain ⟨name, attributes, text, children, namespaces⟩ := e
  cases h with
  | intro name attributes text children namespaces =>
    refine .intro (congrArg Name.localPart name) (observed_of_sameLines attributes) ?_
      (Alike.isSome_eq text) (forall₂_sameShape children)
    exact textType_of_sameLines text
termination_by structural e

/-- So do trees that have the same lines one by one. -/
theorem forall₂_sameShape {es es' : List Element} (h : List.Forall₂ SameLines es es') :
    List.Forall₂ SameShape es es' := by
  cases es with
  | nil =>
    cases h
    exact .nil
  | cons e es =>
    cases h with
    | cons first rest => exact .cons first.sameShape (forall₂_sameShape rest)
termination_by structural es

end

end Element

end XsdInfer
