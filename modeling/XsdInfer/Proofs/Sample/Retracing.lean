import XsdInfer.Proofs.Sample.Gathered
import XsdInfer.Proofs.Sample.Seams

/-!
# Retracing drafts

Of the open elements in a draft nothing is lost until they are closed, and then all of it is in the
tree. So the events of a document can be retraced: two drafts that some events lead to the same draft
are the same (`Draft.Regular.eq_of_foldlM`), with one case for each kind of event
(`Draft.Regular.eq_of_moves`). What a draft keeps besides the tree is known from it (`Draft.Regular`).
-/

namespace XsdInfer.Sample

open Steps (exists_ok_of_bind)

variable {limits : Limits} {d d₁ d₂ d' : Draft} {event : Event} {events : List Event} {e e₁ e₂ : Element}

/-- An element that is attached can be told from where it is. -/
lemma Attached.unique (h₁ : Attached e₁ d₁ d') (h₂ : Attached e₂ d₂ d') : e₁ = e₂ ∧ d₁ = d₂ := by
  cases h₁ with
  | @inside f₁ =>
    generalize same : Draft.mk (f₁.addChild e₁ :: _) _ = d at h₂
    cases h₂ with
    | @inside f₂ =>
      obtain ⟨⟩ := f₁
      obtain ⟨⟩ := f₂
      simp only [Frame.addChild, Draft.mk.injEq, List.cons.injEq, Frame.mk.injEq] at same
      obtain ⟨⟨⟨rfl, rfl, rfl, rfl⟩, rfl⟩, rfl⟩ := same
      exact ⟨rfl, rfl⟩
    | root => cases same
  | root =>
    cases h₂
    exact ⟨rfl, rfl⟩

/-- Data that is added can be taken away. -/
lemma Frame.addText_injective {f g : Frame} {data : List Char} (h : f.addText data = g.addText data) :
    f = g := by
  obtain ⟨⟨name, attributes, text, children, namespaces⟩, scopes, closed⟩ := f
  obtain ⟨⟨name', attributes', text', children', namespaces'⟩, scopes', closed'⟩ := g
  simp only [addText, appendText_eq, Frame.mk.injEq, Element.mk.injEq] at h
  obtain ⟨⟨rfl, rfl, same, rfl, rfl⟩, rfl, rfl⟩ := h
  rw [eq_of_textWith same]

namespace Draft

/-- A draft whose open elements have the declarations of those around them, and their children beside
them alone. -/
structure Regular (d : Draft) : Prop where
  nested : Scoped d.stack
  bare : ∀ f ∈ d.stack, f.element.children = []

namespace Regular

/-- A draft stays regular when an element goes to its place. -/
lemma of_attached (h : d.Regular) (attached : Attached e d d') : d'.Regular := by
  refine ⟨h.nested.of_attached attached, ?_⟩
  cases attached with
  | root => exact nofun
  | @inside f stack =>
    intro g mem
    cases mem with
    | head => exact h.bare f (.head _)
    | tail _ mem => exact h.bare g (.tail _ mem)

/-- Moves keep drafts regular. -/
lemma of_moves (h : d.Regular) (moves : Moves limits d event d') : d'.Regular := by
  refine ⟨h.nested.of_moves moves, ?_⟩
  cases moves with
  | start _ opens _ =>
    intro g mem
    cases mem with
    | head => exact (plain_of_openTag opens).2
    | tail _ mem => exact h.bare g mem
  | empty _ _ attached => exact (h.of_attached attached).bare
  | @stop f stack root _ attached =>
    have below : Draft.Regular ⟨stack, root⟩ := ⟨h.nested.2, fun g mem => h.bare g (.tail _ mem)⟩
    exact (below.of_attached attached).bare
  | @data _ data f stack _ said =>
    intro g mem
    cases mem with
    | head =>
      rw [Frame.addText, appendText_eq]
      exact h.bare f (.head _)
    | tail _ mem => exact h.bare g (.tail _ mem)
  | blank => exact h.bare
  | aside => exact h.bare

/-- A draft stays regular through all steps. -/
lemma of_foldlM (h : d.Regular) (led : events.foldlM (step limits) d = .ok d') : d'.Regular :=
  Steps.keeps_foldlM (fun _ _ _ regular made => regular.of_moves (step_eq_ok_iff.mp made)) h led

/-- An open element is known from what it is closed to. -/
lemma eq_of_close {f g : Frame} {stack : List Frame} {root : Option Element}
    (hf : Draft.Regular ⟨f :: stack, root⟩) (hg : Draft.Regular ⟨g :: stack, root⟩)
    (h : f.close = g.close) : f = g := by
  have scopes : f.scopes = g.scopes := by
    have closed := congrArg Element.namespaces h
    have same : f.element.namespaces = g.element.namespaces := closed
    rw [hf.nested.1, hg.nested.1, List.map_cons, List.map_cons, same]
  have bare := (hf.bare f (.head _)).trans (hg.bare g (.head _)).symm
  obtain ⟨⟨name, attributes, text, children, namespaces⟩, scopes', closed⟩ := f
  obtain ⟨⟨⟩⟩ := g
  simp only [Frame.close, Element.mk.injEq, List.reverse_inj] at h
  simp_all

/-- One move can be retraced. -/
lemma eq_of_moves {d₁' d₂' : Draft} (h₁ : d₁.Regular) (h₂ : d₂.Regular)
    (moves₁ : Moves limits d₁ event d₁') (moves₂ : Moves limits d₂ event d₂') (same : d₁' = d₂') :
    d₁ = d₂ := by
  -- Moves by one event are of one kind; only data goes by whether an element is open, and so does the draft
  -- that it leads to.
  cases moves₁ with
  | start =>
    cases moves₂ with
    | start =>
      obtain ⟨stack, root⟩ := d₁
      obtain ⟨stack', root'⟩ := d₂
      simp only [Draft.mk.injEq, List.cons.injEq] at same ⊢
      exact ⟨same.1.2, same.2⟩
    | data said => cases said
    | blank said => cases said
  | empty _ _ attached₁ =>
    cases moves₂ with
    | empty _ _ attached₂ => exact (Attached.unique attached₁ (same ▸ attached₂)).2
    | data said => cases said
    | blank said => cases said
  | stop attached₁ =>
    cases moves₂ with
    | stop attached₂ =>
      obtain ⟨close, below⟩ := Attached.unique attached₁ (same ▸ attached₂)
      cases below
      rw [eq_of_close h₁ h₂ close]
    | data said => cases said
    | blank said => cases said
  | data said₁ =>
    cases moves₂ with
    | data said₂ =>
      obtain rfl := Option.some.inj (said₁.symm.trans said₂)
      simp only [Draft.mk.injEq, List.cons.injEq] at same
      obtain ⟨⟨filled, rfl⟩, rfl⟩ := same
      rw [Frame.addText_injective filled]
    | blank => cases same
    | _ => cases said₁
  | blank said₁ =>
    cases moves₂ with
    | blank => exact same
    | data => cases same
    | _ => cases said₁
  | aside =>
    cases moves₂ with
    | aside => exact same
    | data said => cases said
    | blank said => cases said

/-- Drafts that some events lead to the same draft are the same. -/
theorem eq_of_foldlM (h₁ : d₁.Regular) (h₂ : d₂.Regular)
    (led₁ : events.foldlM (step limits) d₁ = .ok d') (led₂ : events.foldlM (step limits) d₂ = .ok d') :
    d₁ = d₂ := by
  induction events generalizing d₁ d₂ with
  | nil =>
    cases led₁
    cases led₂
    rfl
  | cons event events ih =>
    rw [List.foldlM_cons] at led₁ led₂
    obtain ⟨t₁, step₁, rest₁⟩ := exists_ok_of_bind led₁
    obtain ⟨t₂, step₂, rest₂⟩ := exists_ok_of_bind led₂
    have moves₁ := step_eq_ok_iff.mp step₁
    have moves₂ := step_eq_ok_iff.mp step₂
    obtain rfl := ih (h₁.of_moves moves₁) (h₂.of_moves moves₂) rest₁ rest₂
    exact eq_of_moves h₁ h₂ moves₁ moves₂ rfl

end Regular

end Draft

end XsdInfer.Sample
