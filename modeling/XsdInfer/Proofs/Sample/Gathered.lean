import Mathlib.Data.List.Forall2
import XsdInfer.Proofs.Element.Places
import XsdInfer.Proofs.Sample.Nesting

/-!
# The tree of some events

A tag stands inside of those that are open there, and has the data that comes while it is the innermost
one (`openings`). Main statement: the places of a document are the tags of its events in order, each
below the elements of the tags around it (`Reading.document_keeps`). The elements that are open in
a draft are not complete; but if they are known as they will be in the end, the places so far are known
as well (`Draft.known`), and each move adds those of its own tag (`Leads.of_moves`).
-/

namespace XsdInfer.Sample

open Element (Place placesFrom)
open Steps (exists_ok_of_bind)

/-! ## What the events say -/

/-- The data that comes while a given one of the open elements is the innermost one, until that one is
closed. The open elements are counted from the innermost one on. -/
def runsAt (k : Nat) : List Event → List (List Char)
  | [] => []
  | .start _ :: events => runsAt (k + 1) events
  | .stop :: events =>
    match k with
    | 0 => []
    | k + 1 => runsAt k events
  | .empty _ :: events => runsAt k events
  | .aside :: events => runsAt k events
  | e :: events =>
    match k with
    | 0 => e.data?.toList ++ runsAt 0 events
    | k + 1 => runsAt (k + 1) events

/-- A tag among some events. -/
structure Opening where
  tag : Tag
  /-- The numbers of the tags that are open there, from the nearest on. -/
  around : List Nat
  /-- The data directly inside of its element. -/
  runs : List (List Char) := []

/-- The tags of some events in order, where the next tag has a given number, and tags with other
numbers are open. -/
def openings (next : Nat) (around : List Nat) : List Event → List Opening
  | [] => []
  | .start tag :: events =>
    ⟨tag, around, runsAt 0 events⟩ :: openings (next + 1) (next :: around) events
  | .empty tag :: events => ⟨tag, around, []⟩ :: openings (next + 1) around events
  | .stop :: events => openings next around.tail events
  | _ :: events => openings next around events

/-- A place whose element is that of a tag: it is below the elements of the tags that are open there,
which are at the places with their numbers, and has what the tag says and the text of the data directly
inside. -/
structure Opening.Yields (limits : Limits) (places : List Place) (o : Opening) (p : Place) : Prop where
  above : p.1.map some = o.around.map fun i => places[i]?.map Prod.snd
  here : ∃ e, openTag limits (p.1.map Element.namespaces) o.tag = .ok e ∧
    p.2 = { e with text := textOfRuns o.runs, children := p.2.children }

/-! ## Drafts whose end is known -/

/-- The elements that open ones become with some more data each, and some children. -/
inductive Become : (Nat → List (List Char)) → List Frame → List Element → Prop where
  | nil {runs : Nat → List (List Char)} :
    Become runs [] []
  | cons {runs : Nat → List (List Char)} {f : Frame} {stack : List Frame} {e : Element}
      {es : List Element} :
    e = { ((runs 0).foldl Frame.addText f).element with children := e.children } →
    Become (fun k => runs (k + 1)) stack es →
    Become runs (f :: stack) (e :: es)

/-- The places that open elements make with their children so far, if it is known what they become. -/
def knownBelow : List Frame → List Element → List Place
  | f :: stack, e :: es =>
    knownBelow stack es ++ (es, e) :: f.children.reverse.flatMap (placesFrom (e :: es))
  | _, _ => []

/-- The places that a draft makes so far, if it is known what the open elements become. -/
def Draft.known (d : Draft) (es : List Element) : List Place :=
  d.root.toList.flatMap Element.places ++ knownBelow d.stack es

/-- Open elements with the declarations of those around them. -/
def Scoped : List Frame → Prop
  | [] => True
  | f :: stack => f.scopes = (f :: stack).map (fun f => f.element.namespaces) ∧ Scoped stack

/-- Some events lead from a draft to a document with a given root: the open elements become such that
the places of the document are those known so far, and then those of the tags of the events. -/
def Leads (limits : Limits) (root : Element) (d : Draft) (events : List Event) : Prop :=
  ∃ es rest, Become (runsAt · events) d.stack es ∧ root.places = d.known es ++ rest ∧
    ∀ around, es.map some = around.map (fun i => root.places[i]?.map Prod.snd) →
      List.Forall₂ (Opening.Yields limits root.places)
        (openings (d.known es).length around events) rest

variable {limits : Limits} {root e : Element} {d d' : Draft} {event : Event} {events : List Event}
  {runs : Nat → List (List Char)} {f : Frame} {stack : List Frame} {es : List Element}

/-! ## Open elements -/

/-- More data changes the text of an open element alone. -/
lemma Frame.exists_foldl_addText (runs : List (List Char)) (f : Frame) :
    ∃ text, runs.foldl addText f = { f with element := { f.element with text := text } } :=
  ⟨_, foldl_addText_eq runs f⟩

/-- A child makes no difference to the text that is gathered. -/
lemma Frame.element_foldl_addText_addChild (runs : List (List Char)) (f : Frame) (e : Element) :
    (runs.foldl addText (f.addChild e)).element = (runs.foldl addText f).element := by
  rw [foldl_addText_eq, foldl_addText_eq, addChild]

namespace Become

/-- Elements that are gathered keep their declarations. -/
lemma map_namespaces (h : Become runs stack es) :
    es.map Element.namespaces = stack.map fun f => f.element.namespaces := by
  induction h with
  | nil => rfl
  | @cons runs f stack e es same _ ih =>
    obtain ⟨text, filled⟩ := Frame.exists_foldl_addText (runs 0) f
    rw [List.map_cons, List.map_cons, ih, same, filled]

/-- An attached element does not matter to what the open ones become but for the children. -/
lemma of_attached (attached : Attached e d d') (h : Become runs d'.stack es) :
    Become runs d.stack es := by
  cases attached with
  | root => exact h
  | inside =>
    cases h with
    | cons same rest =>
      rw [Frame.element_foldl_addText_addChild] at same
      exact .cons same rest

end Become

/-- The scopes of a draft are the declarations of its open elements. -/
lemma Scoped.scopes_eq (h : Scoped d.stack) : d.scopes = d.stack.map fun f => f.element.namespaces := by
  obtain ⟨stack, root⟩ := d
  cases stack with
  | nil => rfl
  | cons f stack => exact h.1

/-- A draft stays scoped when an element goes to its place. -/
lemma Scoped.of_attached (h : Scoped d.stack) (attached : Attached e d d') : Scoped d'.stack := by
  cases attached with
  | inside => exact h
  | root => exact h

/-- Moves keep the declarations around open elements. -/
lemma Scoped.of_moves (h : Scoped d.stack) (moves : Draft.Moves limits d event d') :
    Scoped d'.stack := by
  cases moves with
  | start _ _ _ => exact ⟨congrArg _ h.scopes_eq, h⟩
  | empty _ _ attached => exact h.of_attached attached
  | stop attached => exact Scoped.of_attached h.2 attached
  | @data _ data f stack _ said =>
    have same : (f.element.appendText data).namespaces = f.element.namespaces := by
      obtain ⟨text, filled⟩ := Frame.exists_foldl_addText [data] f
      exact congrArg (fun f => f.element.namespaces) filled
    refine ⟨?_, h.2⟩
    rw [List.map_cons]
    exact (h.1.trans (congrArg (· :: _) same.symm))
  | blank _ _ => exact h
  | aside => exact h

/-- An attached element brings the places below it, which come last. -/
lemma known_of_attached (attached : Attached e d d') (h : Become runs d'.stack es) :
    d'.known es = d.known es ++ placesFrom es e := by
  cases attached with
  | root =>
    cases h with
    | nil => simp [Draft.known, knownBelow, Element.places_eq]
  | inside =>
    cases h with
    | cons same rest => simp [Draft.known, knownBelow, Frame.addChild]

/-- An element that is opened brings its own place. -/
lemma known_of_opened (d : Draft) (e e' : Element) (scopes : List Namespace.Declarations)
    (es : List Element) :
    Draft.known { d with stack := ⟨e, scopes, []⟩ :: d.stack } (e' :: es) = d.known es ++ [(es, e')] := by
  simp [Draft.known, knownBelow]

/-- An element that is closed brings no place: those below it are known before. -/
lemma known_of_closed {root? : Option Element} (attached : Attached f.close ⟨stack, root?⟩ d')
    (h : Become runs d'.stack es) :
    Draft.known ⟨f :: stack, root?⟩ (f.close :: es) = d'.known es := by
  rw [known_of_attached attached h, Element.placesFrom_eq, Draft.known, Draft.known, knownBelow,
    List.append_assoc]
  rfl

/-! ## Moves -/

/-- Data is a run of the innermost open element alone. -/
lemma runsAt_of_data {data : List Char} (said : event.data? = some data) (events : List Event) :
    runsAt 0 (event :: events) = data :: runsAt 0 events ∧
      ∀ k, runsAt (k + 1) (event :: events) = runsAt (k + 1) events := by
  have first : data :: runsAt 0 events = event.data?.toList ++ runsAt 0 events := by
    rw [said]
    rfl
  rw [first]
  cases event with
  | text raw => exact ⟨rfl, fun k => rfl⟩
  | cdata data' => exact ⟨rfl, fun k => rfl⟩
  | _ => cases said

/-- Data opens nothing. -/
lemma openings_of_data {data : List Char} (said : event.data? = some data) (n : Nat)
    (around : List Nat) : openings n around (event :: events) = openings n around events := by
  cases event with
  | text raw => rfl
  | cdata data' => rfl
  | _ => cases said

namespace Leads

/-- The element of a tag comes behind the places known before it. -/
lemma of_tag {tag : Tag} {e' : Element} {rest : List Place} {runs : List (List Char)}
    (nested : Scoped d.stack) (opens : openTag limits d.scopes tag = .ok e)
    (become : Become (runsAt · (event :: events)) d.stack es)
    (filled : e' = { e with text := textOfRuns runs, children := e'.children })
    (split : root.places = d.known es ++ (es, e') :: rest)
    (yields : ∀ around, es.map some = around.map (fun i => root.places[i]?.map Prod.snd) →
      ∃ more, openings (d.known es).length around (event :: events) = ⟨tag, around, runs⟩ :: more ∧
        List.Forall₂ (Opening.Yields limits root.places) more rest) :
    Leads limits root d (event :: events) := by
  refine ⟨es, (es, e') :: rest, become, split, fun around names => ?_⟩
  obtain ⟨more, first, others⟩ := yields around names
  rw [first]
  refine .cons ⟨names, e, ?_, filled⟩ others
  rwa [become.map_namespaces, ← nested.scopes_eq]

/-- One move leads on. -/
theorem of_moves (nested : Scoped d.stack) (moves : Draft.Moves limits d event d')
    (h : Leads limits root d' events) : Leads limits root d (event :: events) := by
  obtain ⟨es, rest, become, split, yields⟩ := h
  cases moves with
  | @start _ tag e first opens deep =>
    cases become with
    | @cons _ _ _ e' es same outer =>
      rw [known_of_opened] at split yields
      have here : root.places = d.known es ++ (es, e') :: rest := by
        rw [split, List.append_assoc, List.singleton_append]
      -- The element has no text yet, so that all its text is that of the runs to come.
      rw [Frame.foldl_addText_of_empty (plain_of_openTag opens).1] at same
      refine of_tag nested opens outer same here fun around names => ⟨_, rfl, ?_⟩
      have others := yields ((d.known es).length :: around)
      rw [List.length_append, List.length_singleton] at others
      apply others
      rw [List.map_cons, List.map_cons, names, here]
      simp
  | @empty _ _ tag e opens deep attached =>
    obtain ⟨text, childless⟩ := plain_of_openTag opens
    have known : d'.known es = d.known es ++ [(es, e)] := by
      rw [known_of_attached attached become, Element.placesFrom_eq, childless]
      rfl
    rw [known] at split yields
    have here : root.places = d.known es ++ (es, e) :: rest := by
      rw [split, List.append_assoc, List.singleton_append]
    have filled : e = { e with text := textOfRuns [], children := e.children } :=
      Frame.eq_text_of_empty text
    have outer : Become (runsAt · events) d.stack es := become.of_attached attached
    refine of_tag nested opens outer filled here fun around names => ⟨_, rfl, ?_⟩
    have others := yields around names
    rwa [List.length_append] at others
  | @stop f stack root? _ attached =>
    -- No more runs come to a frame that is closed.
    have closed : f.close = { ([].foldl Frame.addText f).element with children := f.close.children } := rfl
    have known := known_of_closed attached become
    refine ⟨f.close :: es, rest, .cons closed (become.of_attached attached), ?_, fun around names => ?_⟩
    · rw [known, split]
    · rw [known]
      apply yields around.tail
      rw [List.map_tail, ← names]
      rfl
  | @data _ data f stack root? said =>
    cases become with
    | @cons _ _ _ e es same outer =>
      obtain ⟨first, others⟩ := runsAt_of_data said events
      refine ⟨e :: es, rest, .cons ?_ ?_, split, fun around names => ?_⟩
      · rw [first]
        exact same
      · simp only [others]
        exact outer
      · rw [openings_of_data said]
        exact yields around names
  | @blank _ data root? said blank =>
    cases become with
    | nil =>
      refine ⟨[], rest, .nil, split, fun around names => ?_⟩
      rw [openings_of_data said]
      exact yields around names
  | aside => exact ⟨es, rest, become, split, yields⟩

/-- A draft with the root and nothing open is led to by no events. -/
lemma nil : Leads limits root ⟨[], some root⟩ [] := by
  refine ⟨[], [], .nil, ?_, fun _ _ => .nil⟩
  simp [Draft.known, knownBelow]

/-- Steps lead on. -/
theorem of_foldlM (nested : Scoped d.stack)
    (h : events.foldlM (Draft.step limits) d = .ok ⟨[], some root⟩) : Leads limits root d events := by
  induction events generalizing d with
  | nil =>
    cases h
    exact nil
  | cons event events ih =>
    rw [List.foldlM_cons] at h
    obtain ⟨d', step, h⟩ := exists_ok_of_bind h
    have moves := Draft.step_eq_ok_iff.mp step
    exact of_moves nested moves (ih (nested.of_moves moves) h)

end Leads

/-! ## Documents -/

/-- There is one opening for each tag. -/
lemma map_tag_openings (next : Nat) (around : List Nat) (events : List Event) :
    (openings next around events).map Opening.tag = events.filterMap Event.tag? := by
  induction events generalizing next around with
  | nil => rfl
  | cons event events ih =>
    cases event with
    | start tag => exact congrArg (tag :: ·) (ih _ _)
    | empty tag => exact congrArg (tag :: ·) (ih _ _)
    | _ => exact ih _ _

/-- A tree that keeps what some events say. -/
structure Keeps (limits : Limits) (events : List Event) (root : Element) : Prop where
  /-- There is one element for each tag. -/
  length : root.places.length = (events.filterMap Event.tag?).length
  /-- The elements stand in the order of the tags, each below those whose tags are open there. -/
  places : List.Forall₂ (Opening.Yields limits root.places) (openings 0 [] events) root.places

/-- Events that lead to a root are kept in it. -/
lemma keeps_of_foldlM (h : events.foldlM (Draft.step limits) {} = .ok ⟨[], some root⟩) :
    Keeps limits events root := by
  obtain ⟨es, rest, become, split, yields⟩ := Leads.of_foldlM (d := {}) trivial h
  cases become with
  | nil =>
    have all : root.places = rest := split
    have places := yields [] rfl
    rw [← all] at places
    refine ⟨?_, places⟩
    rw [← map_tag_openings 0 [] events, List.length_map]
    exact places.length_eq.symm

/-- Where tags open and texts decode, events make a document just if they are single-rooted. The
document then keeps what they say; and in all other cases there is a failure. -/
theorem Reading.document_keeps {total : Nat} {events : List Located}
    (legible : AllLegible limits (events.map Located.event)) :
    ((∃ root, Reading.document limits total ⟨events, none⟩ = .ok root) ↔
        SingleRooted (events.map Located.event)) ∧
      (∀ root, Reading.document limits total ⟨events, none⟩ = .ok root →
        Keeps limits (events.map Located.event) root) ∧
      (¬SingleRooted (events.map Located.event) →
        ∃ failure, Reading.document limits total ⟨events, none⟩ = .error failure) := by
  have whole : (∃ root, Reading.document limits total ⟨events, none⟩ = .ok root) ↔
      SingleRooted (events.map Located.event) := Reading.exists_document_iff legible
  refine ⟨whole, fun root made => keeps_of_foldlM (Reading.document_eq_ok_iff.mp made).2, ?_⟩
  intro other
  cases made : Reading.document limits total ⟨events, none⟩ with
  | error failure => exact ⟨failure, rfl⟩
  | ok root => exact absurd (whole.mp ⟨root, made⟩) other

/-- A document with an aside and blank data before its root, and an element among the data in it. -/
theorem Reading.document_keeps_mixed :
    let outer : Tag := { name := "p:a", attributes := [⟨"k", "1&lt;2".toList⟩] }
    let inner : Tag := { name := "b" }
    let events : List Located := [⟨.aside, 8⟩, ⟨.text ['\n'], 9⟩, ⟨.start outer, 27⟩, ⟨.text ['u'], 28⟩,
      ⟨.empty inner, 32⟩, ⟨.cdata ['<'], 45⟩, ⟨.stop, 51⟩]
    AllLegible { depth := 2 } (events.map Located.event) ∧
      ((∃ root, Reading.document { depth := 2 } 51 ⟨events, none⟩ = .ok root) ↔
        SingleRooted (events.map Located.event)) ∧
      (∀ root, Reading.document { depth := 2 } 51 ⟨events, none⟩ = .ok root →
        Keeps { depth := 2 } (events.map Located.event) root) ∧
      (¬SingleRooted (events.map Located.event) →
        ∃ failure, Reading.document { depth := 2 } 51 ⟨events, none⟩ = .error failure) := by
  intro outer inner events
  have legible : AllLegible { depth := 2 } (events.map Located.event) := by
    decide +kernel
  exact ⟨legible, Reading.document_keeps legible⟩

end XsdInfer.Sample
