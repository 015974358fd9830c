import XsdInfer.Proofs.Sample.Filling
import XsdInfer.Proofs.Steps

/-!
# Moves of a draft

What one event does to a draft, given as a relation (`Draft.Moves`): a tag opens an element, an end
tag closes the innermost one, and data goes to the innermost one or is blank. Main statement: the moves
are just the steps that are made (`Draft.step_eq_ok_iff`), so that facts on steps have one case for
each kind of event. A document is what the steps of a reading come to (`Reading.document_eq_ok_iff`).
-/

namespace XsdInfer.Sample

open Steps (exists_ok_of_bind eq_ok_of_mapError)

namespace Event

/-- The tag of an event that begins an element. -/
def tag? : Event → Option Tag
  | start tag => some tag
  | empty tag => some tag
  | _ => none

/-- The character data of an event. -/
def data? : Event → Option (List Char)
  | text raw => (Reference.decode raw).toOption
  | cdata data => some data
  | _ => none

/-- Whether an event leaves an element open. -/
def isStart : Event → Bool
  | start _ => true
  | _ => false

/-- Data is no tag. -/
lemma of_data? {event : Event} {data : List Char} (h : event.data? = some data) :
    event.tag? = none ∧ event.isStart = false ∧ event ≠ stop := by
  cases event with
  | text raw => exact ⟨rfl, rfl, nofun⟩
  | cdata data => exact ⟨rfl, rfl, nofun⟩
  | _ => cases h

end Event

/-! ## Steps of a draft -/

/-- Attributes that are given to an element change nothing else of it. -/
lemma foldl_withAttribute_eq (as : List (String × String)) (e : Element) :
    as.foldl (fun e a => e.withAttribute a.1 a.2) e =
      { e with attributes := (as.foldl (fun e a => e.withAttribute a.1 a.2) e).attributes } := by
  induction as generalizing e with
  | nil => obtain ⟨⟩ := e; rfl
  | cons a as ih => exact ih (e.withAttribute a.1 a.2)

/-- What is collected from a tag that can be opened. -/
structure Opens (limits : Limits) (tag : Tag) (c : Collected) : Prop where
  named : Name.isQualified tag.name = true
  collected : tag.attributes.foldlM Collected.addRaw {} = .ok c
  readable : tag.fault = none
  namespaces : c.namespaces.size ≤ limits.namespaces
  attributes : c.plain.length ≤ limits.attributes

/-- The element of a tag with a given name, from what is collected. -/
def Collected.element (c : Collected) (around : List Namespace.Declarations) (name : String) : Element :=
  (c.plain.reverse.filter fun a => !tiesToSchema (c.namespaces :: around) a.1).foldl
    (fun e a => e.withAttribute a.1 a.2) { name, namespaces := c.namespaces }

/-- A tag opens if it can be opened anywhere; only its attributes depend on the place. -/
lemma openTag_eq_ok_iff {limits : Limits} {around : List Namespace.Declarations} {tag : Tag} {e : Element} :
    openTag limits around tag = .ok e ↔ ∃ c, Opens limits tag c ∧ c.element around tag.name = e := by
  constructor
  · intro h
    unfold openTag at h
    -- A tag is checked in this order: its name, its attributes one by one, and then how many there are.
    obtain ⟨_, checked, h⟩ := exists_ok_of_bind h
    obtain ⟨c, collected, h⟩ := exists_ok_of_bind h
    obtain ⟨_, namespaces, h⟩ := exists_ok_of_bind h
    obtain ⟨_, attributes, h⟩ := exists_ok_of_bind h
    cases h
    have named : Name.isQualified tag.name = true := by
      have ok := eq_ok_of_mapError checked
      unfold checkName at ok
      split at ok
      next qualified => exact qualified
      next => cases ok
    obtain ⟨c', all, rest⟩ := exists_ok_of_bind (eq_ok_of_mapError collected)
    split at rest
    next => cases rest
    next readable =>
      cases rest
      exact ⟨c, ⟨named, all, readable, Limits.check_eq_ok_iff.mp (eq_ok_of_mapError namespaces),
        Limits.check_eq_ok_iff.mp (eq_ok_of_mapError attributes)⟩, rfl⟩
  · rintro ⟨c, opens, rfl⟩
    have collected : Collected.ofTag tag = .ok c := by
      rw [Collected.ofTag, opens.collected, opens.readable]
      rfl
    have namespaces : limits.check .namespaces c.namespaces.size = .ok () :=
      Limits.check_eq_ok_iff.mpr opens.namespaces
    have attributes : limits.check .attributes c.plain.length = .ok () :=
      Limits.check_eq_ok_iff.mpr opens.attributes
    rw [openTag, checkName, if_pos opens.named, collected]
    simp only [Except.mapError, bind, Except.bind, namespaces, attributes]
    rfl

/-- What opens in one place opens in every place. -/
lemma exists_openTag {limits : Limits} {around : List Namespace.Declarations} {tag : Tag} {e : Element}
    (h : openTag limits around tag = .ok e) (around' : List Namespace.Declarations) :
    ∃ e', openTag limits around' tag = .ok e' := by
  obtain ⟨c, opens, -⟩ := openTag_eq_ok_iff.mp h
  exact ⟨_, openTag_eq_ok_iff.mpr ⟨c, opens, rfl⟩⟩

/-- A tag opens an element without text and children. -/
lemma plain_of_openTag {limits : Limits} {around : List Namespace.Declarations} {tag : Tag}
    {e : Element} (h : openTag limits around tag = .ok e) : e.text = none ∧ e.children = [] := by
  obtain ⟨c, -, rfl⟩ := openTag_eq_ok_iff.mp h
  rw [Collected.element, foldl_withAttribute_eq]
  exact ⟨rfl, rfl⟩

/-- An element goes to the innermost of some open elements, or becomes the root. -/
inductive Attached (e : Element) : Draft → Draft → Prop where
  | inside {f : Frame} {stack : List Frame} {root : Option Element} :
    Attached e ⟨f :: stack, root⟩ ⟨f.addChild e :: stack, root⟩
  | root :
    Attached e ⟨[], none⟩ ⟨[], some e⟩

namespace Draft

/-- What one event does to a draft. -/
inductive Moves (limits : Limits) : Draft → Event → Draft → Prop where
  | start {d : Draft} {tag : Tag} {e : Element} :
    (d.stack = [] → d.root = none) →
    openTag limits d.scopes tag = .ok e →
    d.stack.length + 1 ≤ limits.depth →
    Moves limits d (.start tag) { d with stack := ⟨e, e.namespaces :: d.scopes, []⟩ :: d.stack }
  | empty {d d' : Draft} {tag : Tag} {e : Element} :
    openTag limits d.scopes tag = .ok e →
    d.stack.length + 1 ≤ limits.depth →
    Attached e d d' →
    Moves limits d (.empty tag) d'
  | stop {f : Frame} {stack : List Frame} {root : Option Element} {d' : Draft} :
    Attached f.close ⟨stack, root⟩ d' →
    Moves limits ⟨f :: stack, root⟩ .stop d'
  | data {event : Event} {data : List Char} {f : Frame} {stack : List Frame} {root : Option Element} :
    event.data? = some data →
    Moves limits ⟨f :: stack, root⟩ event ⟨f.addText data :: stack, root⟩
  | blank {event : Event} {data : List Char} {root : Option Element} :
    event.data? = some data →
    (∀ c ∈ data, Text.isBlank c = true) →
    Moves limits ⟨[], root⟩ event ⟨[], root⟩
  | aside {d : Draft} :
    Moves limits d .aside d

variable {limits : Limits} {d d' : Draft} {event : Event} {e : Element}

/-- An element goes to its place in these ways only. -/
lemma attach_eq_ok_iff : d.attach e = .ok d' ↔ Attached e d d' := by
  constructor
  · intro h
    obtain ⟨stack, root⟩ := d
    cases stack with
    | nil =>
      cases root with
      | none => cases h; exact .root
      | some => cases h
    | cons f stack => cases h; exact .inside
  · intro h
    cases h with
    | inside => rfl
    | root => rfl

/-- Data that is added is a move. -/
lemma moves_of_addText {data : List Char} (said : event.data? = some data)
    (h : d.addText data = .ok d') : Moves limits d event d' := by
  obtain ⟨stack, root⟩ := d
  cases stack with
  | nil =>
    unfold addText at h
    by_cases blank : data.all Text.isBlank = true
    · simp only [blank, if_true] at h
      cases h
      exact .blank said (List.all_eq_true.mp blank)
    · simp only [blank] at h
      cases h
  | cons f stack =>
    cases h
    exact .data said

/-- A step that is made is a move. -/
lemma moves_of_step (h : d.step limits event = .ok d') : Moves limits d event d' := by
  -- The checks of a step come one after another; where all are passed, their premises are those of a move.
  cases event with
  | start tag =>
    have h : d.push limits tag = .ok d' := h
    unfold push at h
    by_cases second : (d.stack.isEmpty && d.root.isSome) = true
    · rw [if_pos second] at h
      cases h
    · rw [if_neg second] at h
      obtain ⟨e, opened, h⟩ := exists_ok_of_bind h
      obtain ⟨_, deep, h⟩ := exists_ok_of_bind h
      cases h
      refine .start (fun none => ?_) opened (Limits.check_eq_ok_iff.mp (eq_ok_of_mapError deep))
      simpa [none] using second
  | empty tag =>
    have h : d.pushEmpty limits tag = .ok d' := h
    unfold pushEmpty at h
    obtain ⟨e, opened, h⟩ := exists_ok_of_bind h
    obtain ⟨_, deep, h⟩ := exists_ok_of_bind h
    exact .empty opened (Limits.check_eq_ok_iff.mp (eq_ok_of_mapError deep))
      (attach_eq_ok_iff.mp (eq_ok_of_mapError h))
  | stop =>
    have h : d.pop = .ok d' := eq_ok_of_mapError h
    obtain ⟨stack, root⟩ := d
    cases stack with
    | nil => cases h
    | cons f stack => exact .stop (attach_eq_ok_iff.mp h)
  | text raw =>
    have h : d.addRawText raw = .ok d' := eq_ok_of_mapError h
    unfold addRawText at h
    cases decoded : Reference.decode raw with
    | error fault =>
      rw [decoded] at h
      cases h
    | ok data =>
      rw [decoded] at h
      exact moves_of_addText (by rw [Event.data?, decoded]; rfl) h
  | cdata data => exact moves_of_addText rfl (eq_ok_of_mapError h)
  | aside =>
    cases h
    exact .aside

/-- An event that says data adds it. -/
lemma step_of_data {data : List Char} (said : event.data? = some data) (h : d.addText data = .ok d') :
    d.step limits event = .ok d' := by
  cases event with
  | text raw =>
    have decoded : Reference.decode raw = .ok data := by
      cases decoded : Reference.decode raw with
      | error fault => rw [Event.data?, decoded] at said; cases said
      | ok data' => rw [Event.data?, decoded] at said; cases said; rfl
    rw [step, addRawText, decoded]
    simp only [h]
    rfl
  | cdata data' =>
    cases said
    rw [step, h]
    rfl
  | _ => cases said

/-- A move is a step that is made. -/
lemma step_of_moves (h : Moves limits d event d') : d.step limits event = .ok d' := by
  cases h with
  | @start _ tag e first opened deep =>
    have fresh : (d.stack.isEmpty && d.root.isSome) = false := by
      cases empty : d.stack with
      | nil => simp [first empty]
      | cons => rfl
    have within : limits.check .depth (d.stack.length + 1) = .ok () :=
      Limits.check_eq_ok_iff.mpr deep
    rw [step, push, fresh]
    simp only [opened, within]
    rfl
  | @empty _ _ tag e opened deep attached =>
    have within : limits.check .depth (d.stack.length + 1) = .ok () :=
      Limits.check_eq_ok_iff.mpr deep
    rw [step, pushEmpty, opened]
    simp only [bind, Except.bind, within, Except.mapError, attach_eq_ok_iff.mpr attached]
  | @stop f stack root _ attached =>
    have closed : Draft.pop ⟨f :: stack, root⟩ = .ok d' := attach_eq_ok_iff.mpr attached
    rw [step, closed]
    rfl
  | data said => exact step_of_data said rfl
  | blank said blank => exact step_of_data said (addText_of_blank blank _)
  | aside => rfl

/-- The moves are the steps that are made. -/
theorem step_eq_ok_iff : d.step limits event = .ok d' ↔ Moves limits d event d' :=
  ⟨moves_of_step, step_of_moves⟩

/-- The places of events do not matter to the draft that they lead to. -/
lemma foldlM_stepAt {events : List Located} :
    events.foldlM (stepAt limits) d = .ok d' ↔
      (events.map Located.event).foldlM (step limits) d = .ok d' := by
  induction events generalizing d with
  | nil => exact ⟨fun h => by cases h; rfl, fun h => by cases h; rfl⟩
  | cons e events ih =>
    rw [List.map_cons, List.foldlM_cons, List.foldlM_cons, stepAt]
    cases d.step limits e.event with
    | error failure => exact iff_of_false nofun nofun
    | ok d₁ => exact ih

/-- A draft is complete if it has a root and nothing is open. -/
lemma finish_eq_ok_iff {total : Nat} {root : Element} :
    d.finish total = .ok root ↔ d = ⟨[], some root⟩ := by
  obtain ⟨stack, root?⟩ := d
  cases stack with
  | cons f stack => exact iff_of_false nofun nofun
  | nil =>
    cases root? with
    | none => exact iff_of_false nofun nofun
    | some e => simp [finish]

end Draft

/-- Each tag among the events that lead to a draft is opened somewhere. -/
lemma exists_opens_of_foldlM {limits : Limits} {events : List Event} {event : Event} {d d' : Draft}
    {tag : Tag} (h : events.foldlM (Draft.step limits) d = .ok d') (mem : event ∈ events)
    (tagged : event.tag? = some tag) : ∃ c, Opens limits tag c := by
  have exists_opens {around : List Namespace.Declarations} {e : Element}
      (opened : openTag limits around tag = .ok e) : ∃ c, Opens limits tag c :=
    (openTag_eq_ok_iff.mp opened).imp fun _ => And.left
  induction events generalizing d with
  | nil => cases mem
  | cons first events ih =>
    rw [List.foldlM_cons] at h
    obtain ⟨d₁, step, rest⟩ := exists_ok_of_bind h
    obtain rfl | later := List.mem_cons.mp mem
    · cases Draft.step_eq_ok_iff.mp step with
      | start _ opened _ => cases tagged; exact exists_opens opened
      | empty opened _ _ => cases tagged; exact exists_opens opened
      | data said => rw [(Event.of_data? said).1] at tagged; cases tagged
      | blank said => rw [(Event.of_data? said).1] at tagged; cases tagged
      | stop => cases tagged
      | aside => cases tagged
    · exact ih rest later

/-- A document is made of a reading to the end that leads to its root. -/
theorem Reading.document_eq_ok_iff {limits : Limits} {total : Nat} {r : Reading} {root : Element} :
    r.document limits total = .ok root ↔ r.fault = none ∧
      (r.events.map Located.event).foldlM (Draft.step limits) {} = .ok ⟨[], some root⟩ := by
  rw [← Draft.foldlM_stepAt, document]
  obtain ⟨events, fault⟩ := r
  constructor
  · intro h
    obtain ⟨d, done, rest⟩ := exists_ok_of_bind h
    cases fault with
    | some fault => cases rest
    | none =>
      rw [Draft.finish_eq_ok_iff.mp rest] at done
      exact ⟨rfl, done⟩
  · rintro ⟨rfl, done⟩
    rw [done]
    rfl

end XsdInfer.Sample
