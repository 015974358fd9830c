import XsdInfer.Conversion
import XsdInfer.Proofs.Inference.Ledger
import XsdInfer.Proofs.Steps

/-!
# Conversion under lower limits

Two runs of the same steps under different limits go along (`Steps.Along`): the one under the lower
limits comes to the same end as the other, be it a result or an error, or stops on the way with a
breach of its limits. Each event of a sample keeps this (`Sample.Draft.along_step`). Main statement:
lower limits make a conversion fail with a breach or change nothing (`Conversion.convert_eq_or_breach`).
-/

namespace XsdInfer

open Steps (Along)

/-- A breach of given limits: more was used of a resource than they allow. -/
structure Limits.Exceeded (l : Limits) (b : Breach) : Prop where
  bound : b.bound = l.bound b.resource
  used : l.bound b.resource < b.used

/-- Errors that are breaches of given limits. -/
def Error.Exceeds (l : Limits) (e : Error) : Prop :=
  ∃ b, l.Exceeded b ∧ e = .ofBreach b

variable {l l' : Limits} (lower : ∀ r, l.bound r ≤ l'.bound r)

include lower

/-- Under smaller limits a use is admitted in the same way or refused. -/
lemma Limits.along_check (r : Resource) (used : Nat) :
    Along l.Exceeded (l.check r used) (l'.check r used) := by
  unfold check
  by_cases beyond : l.bound r < used
  · rw [if_pos beyond]
    exact .inr ⟨_, ⟨rfl, beyond⟩, rfl⟩
  · have inside : ¬ l'.bound r < used := by
      have := lower r
      omega
    rw [if_neg beyond, if_neg inside]
    exact .refl _

namespace Sample

/-- Failures that are breaches of given limits. -/
def Failure.Exceeds (l : Limits) (failure : Failure) : Prop :=
  ∃ b, l.Exceeded b ∧ failure = .breach b

/-- Under smaller limits a use in reading is admitted in the same way or refused. -/
lemma along_check (r : Resource) (used : Nat) :
    Along (Failure.Exceeds l) ((l.check r used).mapError .breach)
      ((l'.check r used).mapError .breach) :=
  (Limits.along_check lower r used).mapError fun b exceeded => ⟨b, exceeded, rfl⟩

/-- Under smaller limits a tag is opened in the same way or refused. -/
lemma along_openTag (around : List Namespace.Declarations) (tag : Tag) :
    Along (Failure.Exceeds l) (openTag l around tag) (openTag l' around tag) := by
  unfold openTag
  apply Along.bind (.refl _)
  intro _
  apply Along.bind (.refl _)
  intro c
  apply (along_check lower .namespaces c.namespaces.size).bind
  intro _
  apply (along_check lower .attributes c.plain.length).bind
  intro _
  exact .refl _

namespace Draft

variable (d : Draft)

/-- Under smaller limits a start tag is read in the same way or refused. -/
lemma along_push (tag : Tag) : Along (Failure.Exceeds l) (d.push l tag) (d.push l' tag) := by
  unfold push
  split
  next => exact .refl _
  next =>
    apply (along_openTag lower d.scopes tag).bind
    intro e
    apply (along_check lower .depth (d.stack.length + 1)).bind
    intro _
    exact .refl _

/-- Under smaller limits an empty tag is read in the same way or refused. -/
lemma along_pushEmpty (tag : Tag) :
    Along (Failure.Exceeds l) (d.pushEmpty l tag) (d.pushEmpty l' tag) := by
  unfold pushEmpty
  apply (along_openTag lower d.scopes tag).bind
  intro e
  apply (along_check lower .depth (d.stack.length + 1)).bind
  intro _
  exact .refl _

/-- One event goes along, whatever it is. -/
theorem along_step (event : Event) :
    Along (Failure.Exceeds l) (d.step l event) (d.step l' event) := by
  cases event with
  | start tag => exact d.along_push lower tag
  | empty tag => exact d.along_pushEmpty lower tag
  | stop => exact .refl _
  | text raw => exact .refl _
  | cdata data => exact .refl _
  | aside => exact .refl _

end Draft

/-- Under smaller limits a document is read in the same way or refused. -/
lemma Reading.along_document (total : Nat) (r : Reading) :
    Along (fun e => Failure.Exceeds l e.1) (r.document l total) (r.document l' total) := by
  unfold document
  have events : Along (fun e : Failure × Option Nat => Failure.Exceeds l e.1)
      (r.events.foldlM (Draft.stepAt l) {}) (r.events.foldlM (Draft.stepAt l') {}) :=
    Along.foldlM (fun d e => (d.along_step lower e.event).mapError fun _ exceeds => exceeds) _ _
  apply events.bind
  intro d
  exact .refl _

/-- Under smaller limits a sample is read in the same way or refused. -/
lemma along_parse (xml : String) :
    Along (Error.Exceeds l) (parse l xml) (parse l' xml) := by
  apply ((read xml.toList).along_document lower _).mapError
  rintro ⟨failure, offset⟩ ⟨b, exceeded, breach⟩
  refine ⟨b, exceeded, ?_⟩
  subst breach
  rfl

end Sample

/-- There is room under the higher limits where there is room under the lower ones. -/
lemma Schema.along_infer (scope : Scope) (root : Element) :
    Along l.Exceeded (infer scope l root) (infer scope l' root) := by
  rw [infer_eq, infer_eq]
  by_cases room : (TypeKey.typeKeys scope root).length ≤ l.types
  · have more : l.types ≤ l'.types := lower .types
    rw [if_pos room, if_pos (by omega)]
    exact .refl _
  · rw [if_neg room]
    exact .inr ⟨_, ⟨rfl, Nat.lt_succ_self _⟩, rfl⟩

namespace Conversion

/-- Lower limits make a conversion fail with a breach of them, or change nothing: neither the text of
the schema nor the error of a sample that cannot be read. -/
theorem convert_eq_or_breach (scope : Scope) (xml : String) :
    convert ⟨scope, l⟩ xml = convert ⟨scope, l'⟩ xml ∨
      ∃ b, l.Exceeded b ∧ convert ⟨scope, l⟩ xml = .error (.ofBreach b) := by
  have kind (b : Breach) (exceeded : l.Exceeded b) : Error.Exceeds l (.ofBreach b) :=
    ⟨b, exceeded, rfl⟩
  have size : Along (Error.Exceeds l) ((l.check .size xml.utf8ByteSize).mapError .ofBreach)
      ((l'.check .size xml.utf8ByteSize).mapError .ofBreach) :=
    (Limits.along_check lower .size xml.utf8ByteSize).mapError kind
  have tree (root : Element) :
      Along (Error.Exceeds l) (inferTree ⟨scope, l⟩ root) (inferTree ⟨scope, l'⟩ root) :=
    (Schema.along_infer lower scope root).mapError kind
  have inferred : Along (Error.Exceeds l) (infer ⟨scope, l⟩ xml) (infer ⟨scope, l'⟩ xml) :=
    size.bind fun _ => (Sample.along_parse lower xml).bind tree
  obtain same | ⟨e, ⟨b, exceeded, rfl⟩, stopped⟩ := inferred.bind fun s => .refl (.ok s.xsd)
  · exact .inl same
  · exact .inr ⟨b, exceeded, stopped⟩

omit lower in
/-- A sample of two levels, read under a limit of one and under the standard limits. -/
theorem convert_eq_or_breach_shallow :
    (∀ r, ({ depth := 1 } : Limits).bound r ≤ ({} : Limits).bound r) ∧
      (convert ⟨.global, { depth := 1 }⟩ "<a><b/></a>" = convert ⟨.global, {}⟩ "<a><b/></a>" ∨
        ∃ b, ({ depth := 1 } : Limits).Exceeded b ∧
          convert ⟨.global, { depth := 1 }⟩ "<a><b/></a>" = .error (.ofBreach b)) := by
  have lower (r : Resource) : ({ depth := 1 } : Limits).bound r ≤ ({} : Limits).bound r := by
    cases r <;> decide
  exact ⟨lower, convert_eq_or_breach lower .global "<a><b/></a>"⟩

end Conversion

end XsdInfer
