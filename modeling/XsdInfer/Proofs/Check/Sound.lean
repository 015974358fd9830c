import Mathlib.Tactic.Lemma
import XsdInfer.Check

/-!
# Sound schemas

A schema that is read is sound (`Check.Sound`), if it defines each complex type once, each reference
comes to a type, and each complex type is referred to. Main statement: there is nothing to report on
a sound schema (`ofRoot_eq_of_sound`).
-/

namespace XsdInfer.Check

open Strict (Node)

/-- The name that an element at the top level of a schema gives to something of one kind. -/
def declared? (kind : String) (n : Node) : Option String :=
  if n.uri = some Namespace.xsd ∧ n.localName = kind then n.attribute? "name" else none

/-- The names at the top level are those that the children of the schema declare. -/
lemma topLevel_eq (schema : Node) (kind : String) :
    topLevel schema kind = schema.children.filterMap (declared? kind) := rfl

/-- The outcomes of the references at an element of a schema. -/
def outcomesIn (schema : Node) : Node → List Outcome :=
  outcomesAt (schema.attribute? "targetNamespace") (topLevel schema "complexType")

/-- The report of a schema lists the definitions that recur, then the references that fail, then the
definitions that nothing refers to. -/
lemma ofRoot_eq (schema : Node) :
    ofRoot schema = {
      errors := (repeats [] (topLevel schema "complexType")).map .definedTwice
        ++ (schema.all.flatMap (outcomesIn schema)).filterMap Outcome.finding?
      warnings := ((topLevel schema "complexType").eraseDups.filter fun name =>
        !((schema.all.flatMap (outcomesIn schema)).filterMap Outcome.name?).contains name).map
          .neverReferenced } := rfl

/-- A schema whose references and definitions fit each other. -/
structure Sound (schema : Node) : Prop where
  root : schema.localName = "schema" ∧ schema.uri = some Namespace.xsd
  /-- Each complex type is defined once. -/
  nodup : (topLevel schema "complexType").Nodup
  /-- Each reference comes to a type that is built in or defined. -/
  resolved : ∀ n ∈ schema.all, ∀ o ∈ outcomesIn schema n,
    o = .builtIn ∨ ∃ name ∈ topLevel schema "complexType", o = .defined name
  /-- Each complex type is what some reference comes to. -/
  referenced : ∀ name ∈ topLevel schema "complexType", ∃ n ∈ schema.all,
    Outcome.defined name ∈ outcomesIn schema n

/-- Different names have no repetition, neither among themselves nor with what stands before them. -/
lemma repeats_eq_nil {seen names : List String} (nodup : names.Nodup)
    (new : ∀ n ∈ names, n ∉ seen) : repeats seen names = [] := by
  induction names generalizing seen with
  | nil => rfl
  | cons n names ih =>
    rw [List.nodup_cons] at nodup
    have first : seen.count n ≠ 1 := by
      rw [List.count_eq_zero.mpr (new n (.head _))]
      decide
    rw [repeats, if_neg first]
    apply ih nodup.2
    intro m mem seen_before
    obtain rfl | before := List.mem_cons.mp seen_before
    · exact nodup.1 mem
    · exact new m (.tail _ mem) before

/-- Nothing is reported if no name is defined twice and the references name all that is defined and
nothing else. -/
lemma report_eq_empty {types : List String} {outcomes : List Outcome} (nodup : types.Nodup)
    (resolved : ∀ o ∈ outcomes, o = .builtIn ∨ ∃ name ∈ types, o = .defined name)
    (referenced : ∀ name ∈ types, Outcome.defined name ∈ outcomes) :
    ({ errors := (repeats [] types).map .definedTwice ++ outcomes.filterMap Outcome.finding?
       warnings := (types.eraseDups.filter fun name =>
        !(outcomes.filterMap Outcome.name?).contains name).map .neverReferenced } : Report) = {} := by
  have once : repeats [] types = [] := repeats_eq_nil nodup fun _ _ => List.not_mem_nil
  have found : outcomes.filterMap Outcome.finding? = [] := by
    apply List.filterMap_eq_nil_iff.mpr
    intro o mem
    obtain rfl | ⟨name, _, rfl⟩ := resolved o mem <;> rfl
  have used : (types.eraseDups.filter fun name =>
      !(outcomes.filterMap Outcome.name?).contains name) = [] := by
    apply List.filter_eq_nil_iff.mpr
    intro name mem
    have known : name ∈ outcomes.filterMap Outcome.name? :=
      List.mem_filterMap.mpr ⟨_, referenced name (List.mem_eraseDups.mp mem), rfl⟩
    simpa using known
  rw [once, found, used]
  rfl

/-- There is nothing to report on a sound schema. -/
theorem ofRoot_eq_of_sound {schema : Node} (h : Sound schema) : ofRoot schema = {} := by
  refine report_eq_empty h.nodup (fun o mem => ?_) fun name mem => ?_
  · obtain ⟨n, below, at_n⟩ := List.mem_flatMap.mp mem
    exact h.resolved n below o at_n
  · obtain ⟨n, below, at_n⟩ := h.referenced name mem
    exact List.mem_flatMap.mpr ⟨n, below, at_n⟩

end XsdInfer.Check
