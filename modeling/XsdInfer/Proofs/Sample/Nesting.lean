import XsdInfer.Proofs.Sample.Moves

/-!
# The nesting of events

Main statement: where tags open and texts decode, the events of a sample make a document just if
their tags are nested with one element outside of all others, and no data outside of it
(`Reading.exists_document_iff`). A draft follows the events before it (`Draft.Follows`), and an event
is taken up just if it keeps them in order (`Draft.Follows.step`, `Draft.Follows.exists_moves`).
-/

namespace XsdInfer.Sample

open Steps (exists_ok_of_bind exists_ok_iff)

/-! ## Events in order -/

/-- The number of elements that some events leave open. -/
def opened (events : List Event) : Nat :=
  events.countP Event.isStart

/-- The number of elements that some events close. -/
def closed (events : List Event) : Nat :=
  events.count .stop

/-- Events that close as many elements as they leave open: behind them, nothing is open. -/
def Settled (events : List Event) : Prop :=
  closed events = opened events

/-- Among some events, a tag outside of all elements stands behind given ones. -/
def TopTag (events before : List Event) : Prop :=
  Settled before ∧ ∃ e, before ++ [e] <+: events ∧ e.tag?.isSome = true

/-- Events whose tags are nested, with one element outside of all others, and with blank data alone
outside of it. -/
structure SingleRooted (events : List Event) : Prop where
  /-- Nowhere more elements are closed than were left open. -/
  nested : ∀ before, before <+: events → closed before ≤ opened before
  settled : Settled events
  root : ∃! before, TopTag events before
  blank : ∀ before e data, before ++ [e] <+: events → e.data? = some data → Settled before →
    ∀ c ∈ data, Text.isBlank c = true

/-- Events that single-rooted events may begin with. -/
structure Orderly (events : List Event) : Prop where
  nested : ∀ before, before <+: events → closed before ≤ opened before
  unique : ∀ b b', TopTag events b → TopTag events b' → b = b'
  blank : ∀ before e data, before ++ [e] <+: events → e.data? = some data → Settled before →
    ∀ c ∈ data, Text.isBlank c = true

/-- An event that can be read behind some events: its tag opens within the limits, and its text
decodes. -/
structure Legible (limits : Limits) (before : List Event) (e : Event) : Prop where
  tag : ∀ tag, e.tag? = some tag → (∃ around e', openTag limits around tag = .ok e') ∧
    opened before + 1 ≤ closed before + limits.depth
  text : ∀ raw, e = .text raw → ∃ data, Reference.decode raw = .ok data

/-- Events that can be read one behind the others. -/
def AllLegible (limits : Limits) (events : List Event) : Prop :=
  ∀ before e, before ++ [e] <+: events → Legible limits before e

/-- An event that may come behind some events. -/
structure Fits (before : List Event) (e : Event) : Prop where
  stop : e = .stop → closed before < opened before
  tag : e.tag?.isSome = true → Settled before → ∀ b, ¬TopTag before b
  data : ∀ data, e.data? = some data → Settled before → ∀ c ∈ data, Text.isBlank c = true

section

variable {events before b : List Event} {e x : Event}

/-- A front of a list with one more is one of the list before or all of it. -/
lemma concat_prefix_concat_iff :
    b ++ [x] <+: before ++ [e] ↔ (b = before ∧ x = e) ∨ b ++ [x] <+: before := by
  rw [List.prefix_concat_iff]
  exact or_congr_left (by simp)

/-- A front of a list with its last item is told by its length. -/
lemma concat_prefix_iff :
    b ++ [x] <+: events ↔ b = events.take b.length ∧ events[b.length]? = some x := by
  constructor
  · rintro ⟨after, rfl⟩
    simp
  · rintro ⟨same, here⟩
    rw [List.prefix_iff_eq_take, List.length_append, List.length_singleton, List.take_add_one, ← same,
      here]
    rfl

/-- A tag is legible if it can be opened and there is room for its depth. -/
lemma legible_tag_iff {limits : Limits} {tag : Tag} (h : e.tag? = some tag) :
    Legible limits before e ↔ (openTag limits [] tag).isOk = true ∧
      opened before + 1 ≤ closed before + limits.depth := by
  rw [← exists_ok_iff]
  constructor
  · intro legible
    obtain ⟨⟨around, e', opens⟩, deep⟩ := legible.tag tag h
    exact ⟨exists_openTag opens [], deep⟩
  · rintro ⟨opens, deep⟩
    refine ⟨fun tag' same => ?_, fun raw same => ?_⟩
    · obtain rfl := Option.some.inj (h.symm.trans same)
      exact ⟨⟨[], opens⟩, deep⟩
    · subst same
      cases h

instance (limits : Limits) (before : List Event) (e : Event) : Decidable (Legible limits before e) :=
  match e with
  | .start _ => decidable_of_iff' _ (legible_tag_iff rfl)
  | .empty _ => decidable_of_iff' _ (legible_tag_iff rfl)
  | .text raw =>
    decidable_of_iff ((Reference.decode raw).isOk = true)
      ⟨fun h => ⟨nofun, fun _ same => by cases same; exact exists_ok_iff.mpr h⟩,
        fun h => exists_ok_iff.mp (h.text raw rfl)⟩
  | .stop => .isTrue ⟨nofun, nofun⟩
  | .cdata _ => .isTrue ⟨nofun, nofun⟩
  | .aside => .isTrue ⟨nofun, nofun⟩

/-- All events are legible if each one is behind those before it. -/
lemma allLegible_iff {limits : Limits} :
    AllLegible limits events ↔
      ∀ i ∈ List.range events.length, ∀ e ∈ events[i]?, Legible limits (events.take i) e := by
  constructor
  · intro h i inside e here
    have short : (events.take i).length = i :=
      List.length_take_of_le (Nat.le_of_lt (List.mem_range.mp inside))
    apply h
    rw [concat_prefix_iff, short]
    exact ⟨rfl, here⟩
  · intro h b x within
    obtain ⟨same, here⟩ := concat_prefix_iff.mp within
    rw [same]
    exact h b.length (List.mem_range.mpr (List.getElem?_eq_some_iff.mp here).1) x here

instance (limits : Limits) (events : List Event) : Decidable (AllLegible limits events) :=
  decidable_of_iff' _ allLegible_iff

/-- All events with one more are legible if those before are and the last one is behind them. -/
lemma allLegible_concat_iff {limits : Limits} :
    AllLegible limits (before ++ [e]) ↔ AllLegible limits before ∧ Legible limits before e := by
  simp only [AllLegible, concat_prefix_concat_iff]
  constructor
  · intro h
    exact ⟨fun b x within => h b x (.inr within), h before e (.inl ⟨rfl, rfl⟩)⟩
  · rintro ⟨h, last⟩ b x (⟨rfl, rfl⟩ | within)
    · exact last
    · exact h b x within

/-- One more event is a tag outside of all elements if it is a tag and nothing is open. -/
lemma topTag_concat_iff :
    TopTag (before ++ [e]) b ↔
      TopTag before b ∨ (b = before ∧ Settled before ∧ e.tag?.isSome = true) := by
  simp only [TopTag, concat_prefix_concat_iff]
  constructor
  · rintro ⟨settled, x, ⟨rfl, rfl⟩ | within, tag⟩
    · exact .inr ⟨rfl, settled, tag⟩
    · exact .inl ⟨settled, x, within, tag⟩
  · rintro (⟨settled, x, within, tag⟩ | ⟨rfl, settled, tag⟩)
    · exact ⟨settled, x, .inr within, tag⟩
    · exact ⟨settled, e, .inl ⟨rfl, rfl⟩, tag⟩

/-- A tag of some events is not behind all of them. -/
lemma TopTag.ne (h : TopTag before b) : b ≠ before := by
  rintro rfl
  obtain ⟨-, e, within, -⟩ := h
  have longer := within.length_le
  rw [List.length_append, List.length_singleton] at longer
  omega

/-- Events in a row close what both of them close. -/
lemma closed_append (events events' : List Event) :
    closed (events ++ events') = closed events + closed events' :=
  List.count_append

/-- Events in a row open what both of them open. -/
lemma opened_append (events events' : List Event) :
    opened (events ++ events') = opened events + opened events' :=
  List.countP_append

/-- Only an end tag closes something. -/
lemma closed_singleton_of_ne (h : e ≠ .stop) : closed [e] = 0 :=
  List.count_eq_zero_of_not_mem (by simpa using h.symm)

/-- Events stay in order just by an event that fits. -/
lemma orderly_concat_iff : Orderly (before ++ [e]) ↔ Orderly before ∧ Fits before e := by
  -- One more event makes one more front, the whole: what is asked of it is that the event fits.
  constructor
  · intro h
    have all : before <+: before ++ [e] := List.prefix_append _ _
    refine ⟨⟨?_, ?_, ?_⟩, ?_, ?_, ?_⟩
    · exact fun b within => h.nested b (within.trans all)
    · exact fun b b' top top' => h.unique b b' (topTag_concat_iff.mpr (.inl top))
        (topTag_concat_iff.mpr (.inl top'))
    · exact fun b x data within => h.blank b x data (within.trans all)
    · rintro rfl
      have most := h.nested _ List.prefix_rfl
      rw [closed_append, opened_append] at most
      exact most
    · intro tag settled b top
      apply top.ne
      exact h.unique b before (topTag_concat_iff.mpr (.inl top))
        (topTag_concat_iff.mpr (.inr ⟨rfl, settled, tag⟩))
    · exact fun data said => h.blank before e data List.prefix_rfl said
  · rintro ⟨h, fits⟩
    refine ⟨?_, ?_, ?_⟩
    · intro b within
      obtain rfl | within := List.prefix_concat_iff.mp within
      · have most := h.nested before List.prefix_rfl
        rw [closed_append, opened_append]
        by_cases stop : e = .stop
        · subst stop
          exact fits.stop rfl
        · rw [closed_singleton_of_ne stop]
          omega
      · exact h.nested b within
    · intro b b' top top'
      obtain top | ⟨rfl, settled, tag⟩ := topTag_concat_iff.mp top
      · obtain top' | ⟨rfl, settled, tag⟩ := topTag_concat_iff.mp top'
        · exact h.unique b b' top top'
        · exact absurd top (fits.tag tag settled b)
      · obtain top' | ⟨rfl, -, -⟩ := topTag_concat_iff.mp top'
        · exact absurd top' (fits.tag tag settled b')
        · rfl
    · intro b x data within said
      obtain ⟨rfl, rfl⟩ | within := concat_prefix_concat_iff.mp within
      · exact fits.data data said
      · exact h.blank b x data within said

/-- No events are in order. -/
lemma orderly_nil : Orderly [] where
  nested := by
    intro before within
    rw [List.prefix_nil.mp within]
    exact Nat.le_refl _
  unique := by
    rintro b b' ⟨-, e, within, -⟩
    simp at within
  blank := by
    intro before e data within
    simp at within

end

namespace Draft

/-- A draft that some events lead to. -/
structure Follows (d : Draft) (before : List Event) : Prop where
  level : closed before + d.stack.length = opened before
  /-- As long as elements are open, there is no root. -/
  unrooted : d.stack ≠ [] → d.root = none
  started : (∃ b, TopTag before b) ↔ d.stack ≠ [] ∨ d.root ≠ none

variable {limits : Limits} {before : List Event} {d d' : Draft} {event : Event}

/-- No events lead to the empty draft. -/
lemma follows_nil : Follows {} [] where
  level := rfl
  unrooted := fun _ => rfl
  started := by
    simp [TopTag]

namespace Follows

/-- Nothing is open if as much has been closed as opened. -/
lemma settled_iff (h : d.Follows before) : Settled before ↔ d.stack = [] := by
  have level := h.level
  rw [Settled, ← List.length_eq_zero_iff]
  omega

/-- There has been no tag outside of all elements if nothing is open and there is no root. -/
lemma forall_not_topTag_iff (h : d.Follows before) :
    (∀ b, ¬TopTag before b) ↔ d.stack = [] ∧ d.root = none := by
  rw [← not_exists, h.started, not_or, not_not, not_not]

/-- Behind a tag, there is a root or an open element. -/
lemma of_tag (h : d.Follows before) (tag : event.tag?.isSome = true)
    (level : closed [event] + d'.stack.length = d.stack.length + opened [event])
    (unrooted : d'.stack ≠ [] → d'.root = none) (begun : d'.stack ≠ [] ∨ d'.root ≠ none) :
    d'.Follows (before ++ [event]) where
  level := by
    have before := h.level
    rw [closed_append, opened_append]
    omega
  unrooted := unrooted
  started := by
    refine iff_of_true ?_ begun
    by_cases settled : Settled before
    · exact ⟨before, topTag_concat_iff.mpr (.inr ⟨rfl, settled, tag⟩)⟩
    · obtain ⟨b, top⟩ := h.started.mpr (.inl (mt h.settled_iff.mpr settled))
      exact ⟨b, topTag_concat_iff.mpr (.inl top)⟩

/-- Behind another event, there is a root or an open element just if there was one before. -/
lemma of_other (h : d.Follows before) (other : event.tag? = none)
    (level : closed [event] + d'.stack.length = d.stack.length + opened [event])
    (unrooted : d'.stack ≠ [] → d'.root = none)
    (begun : d'.stack ≠ [] ∨ d'.root ≠ none ↔ d.stack ≠ [] ∨ d.root ≠ none) :
    d'.Follows (before ++ [event]) where
  level := by
    have before := h.level
    rw [closed_append, opened_append]
    omega
  unrooted := unrooted
  started := by
    rw [begun, ← h.started]
    simp [topTag_concat_iff, other]

/-- An element that is attached leaves the depth as it is, and starts the document. -/
lemma attach {e : Element} (h : d.stack ≠ [] → d.root = none) (attached : Attached e d d') :
    d'.stack.length = d.stack.length ∧ (d'.stack ≠ [] → d'.root = none) ∧
      (d'.stack ≠ [] ∨ d'.root ≠ none) := by
  cases attached with
  | @inside f stack root => exact ⟨rfl, fun _ => h (List.cons_ne_nil f stack), .inl (List.cons_ne_nil _ _)⟩
  | root => exact ⟨rfl, fun unrooted => absurd rfl unrooted, .inr nofun⟩

/-- Data leaves the depth as it is, and fits if it is blank where nothing is open. -/
lemma of_data {data : List Char} (h : d.Follows before) (said : event.data? = some data)
    (blank : d.stack = [] → ∀ c ∈ data, Text.isBlank c = true) :
    event.tag? = none ∧ closed [event] + d.stack.length = d.stack.length + opened [event] ∧
      Fits before event := by
  obtain ⟨other, plain, inner⟩ := Event.of_data? said
  refine ⟨other, ?_, ?_⟩
  · simp [closed_singleton_of_ne inner, opened, plain]
  · refine ⟨fun stop => absurd stop inner, ?_, ?_⟩
    · intro tag
      rw [other] at tag
      cases tag
    · intro data' said' settled
      obtain rfl := Option.some.inj (said.symm.trans said')
      exact blank (h.settled_iff.mp settled)

/-- A draft that makes a move follows one more event, and the event fits. -/
theorem step (h : d.Follows before) (moves : Moves limits d event d') :
    Fits before event ∧ d'.Follows (before ++ [event]) := by
  -- Whether an event fits can be seen from the draft: how much is open, and whether there is a root.
  cases moves with
  | @start _ tag e first opens deep =>
    refine ⟨⟨nofun, fun _ settled => ?_, nofun⟩, ?_⟩
    · have none := h.settled_iff.mp settled
      exact h.forall_not_topTag_iff.mpr ⟨none, first none⟩
    · apply h.of_tag rfl (by simp [closed, opened, Event.isStart]) _ (.inl (List.cons_ne_nil _ _))
      intro _
      by_cases none : d.stack = []
      · exact first none
      · exact h.unrooted none
  | @empty _ _ tag e opens deep attached =>
    obtain ⟨length, unrooted, begun⟩ := attach h.unrooted attached
    refine ⟨⟨nofun, fun _ settled => ?_, nofun⟩, ?_⟩
    · have none := h.settled_iff.mp settled
      apply h.forall_not_topTag_iff.mpr
      cases attached with
      | inside => cases none
      | root => exact ⟨rfl, rfl⟩
    · exact h.of_tag rfl (by simp [closed, opened, Event.isStart, length]) unrooted begun
  | @stop f stack root _ attached =>
    have none : root = none := h.unrooted (List.cons_ne_nil f stack)
    obtain ⟨length, unrooted, begun⟩ := attach (fun _ => none) attached
    refine ⟨⟨fun _ => ?_, nofun, nofun⟩, ?_⟩
    · have level := h.level
      rw [List.length_cons] at level
      omega
    · apply h.of_other rfl _ unrooted (iff_of_true begun (.inl (List.cons_ne_nil f stack)))
      simp [closed, opened, Event.isStart, length, Nat.add_comm]
  | @data _ data f stack root said =>
    obtain ⟨other, level, fits⟩ := h.of_data said fun none => absurd none (List.cons_ne_nil f stack)
    refine ⟨fits, h.of_other other ?_ (fun _ => h.unrooted (List.cons_ne_nil f stack)) ?_⟩
    · exact level
    · simp
  | @blank _ data root said blank =>
    obtain ⟨other, level, fits⟩ := h.of_data said fun _ => blank
    exact ⟨fits, h.of_other other level h.unrooted Iff.rfl⟩
  | aside =>
    refine ⟨⟨nofun, nofun, nofun⟩, ?_⟩
    exact h.of_other rfl (by simp [closed, opened, Event.isStart]) h.unrooted Iff.rfl

/-- An event that fits is taken up, if it is legible. -/
theorem exists_moves (h : d.Follows before) (fits : Fits before event)
    (legible : Legible limits before event) : ∃ d', Moves limits d event d' := by
  have level := h.level
  have of_data {data : List Char} (said : event.data? = some data) :
      ∃ d', Moves limits d event d' := by
    obtain ⟨stack, root⟩ := d
    cases stack with
    | nil => exact ⟨_, .blank said (fits.data data said (h.settled_iff.mpr rfl))⟩
    | cons f stack => exact ⟨_, .data said⟩
  -- What fits is never out of place in the draft; that it can be read is a matter of its own.
  cases event with
  | start tag =>
    obtain ⟨⟨around, e, opens⟩, deep⟩ := legible.tag tag rfl
    obtain ⟨e', opens'⟩ := exists_openTag opens d.scopes
    refine ⟨_, .start (fun none => ?_) opens' (by omega)⟩
    exact (h.forall_not_topTag_iff.mp (fits.tag rfl (h.settled_iff.mpr none))).2
  | empty tag =>
    obtain ⟨⟨around, e, opens⟩, deep⟩ := legible.tag tag rfl
    obtain ⟨e', opens'⟩ := exists_openTag opens d.scopes
    have attached : ∃ d', Attached e' d d' := by
      obtain ⟨stack, root⟩ := d
      cases stack with
      | nil =>
        obtain rfl : root = none :=
          (h.forall_not_topTag_iff.mp (fits.tag rfl (h.settled_iff.mpr rfl))).2
        exact ⟨_, .root⟩
      | cons f stack => exact ⟨_, .inside⟩
    obtain ⟨d', attached⟩ := attached
    exact ⟨d', .empty opens' (by omega) attached⟩
  | stop =>
    obtain ⟨stack, root⟩ := d
    have less := fits.stop rfl
    cases stack with
    | nil => exact absurd (h.settled_iff.mpr rfl) (Nat.ne_of_lt less)
    | cons f stack =>
      obtain rfl : root = none := h.unrooted (List.cons_ne_nil f stack)
      cases stack with
      | nil => exact ⟨_, .stop .root⟩
      | cons g stack => exact ⟨_, .stop .inside⟩
  | text raw =>
    obtain ⟨data, decoded⟩ := legible.text raw rfl
    exact of_data (by rw [Event.data?, decoded]; rfl)
  | cdata data => exact of_data rfl
  | aside => exact ⟨d, .aside⟩

end Follows

end Draft

/-! ## Whole samples -/

variable {limits : Limits} {events : List Event}

/-- Events that lead to a draft are in order. -/
theorem Draft.follows_of_foldlM {d : Draft} (h : events.foldlM (Draft.step limits) {} = .ok d) :
    Orderly events ∧ d.Follows events := by
  induction events using List.reverseRecOn generalizing d with
  | nil =>
    cases h
    exact ⟨orderly_nil, follows_nil⟩
  | append_singleton events e ih =>
    rw [List.foldlM_append] at h
    obtain ⟨d₁, first, last⟩ := exists_ok_of_bind h
    rw [List.foldlM_cons] at last
    obtain ⟨d₂, step, rest⟩ := exists_ok_of_bind last
    cases rest
    obtain ⟨orderly, follows⟩ := ih first
    obtain ⟨fits, follows'⟩ := follows.step (step_eq_ok_iff.mp step)
    exact ⟨orderly_concat_iff.mpr ⟨orderly, fits⟩, follows'⟩

/-- Events in order lead to a draft, if they are legible. -/
theorem Draft.exists_foldlM (orderly : Orderly events) (legible : AllLegible limits events) :
    ∃ d, events.foldlM (Draft.step limits) {} = .ok d := by
  induction events using List.reverseRecOn with
  | nil => exact ⟨{}, rfl⟩
  | append_singleton events e ih =>
    obtain ⟨orderly, fits⟩ := orderly_concat_iff.mp orderly
    obtain ⟨legible, last⟩ := allLegible_concat_iff.mp legible
    obtain ⟨d, first⟩ := ih orderly legible
    obtain ⟨-, follows⟩ := follows_of_foldlM first
    obtain ⟨d', moves⟩ := follows.exists_moves fits last
    refine ⟨d', ?_⟩
    rw [List.foldlM_append, first]
    show [e].foldlM (step limits) d = .ok d'
    rw [List.foldlM_cons, step_eq_ok_iff.mpr moves]
    rfl

/-- Events that lead to a root are single-rooted. -/
lemma singleRooted_of_foldlM {root : Element}
    (h : events.foldlM (Draft.step limits) {} = .ok ⟨[], some root⟩) : SingleRooted events := by
  obtain ⟨orderly, follows⟩ := Draft.follows_of_foldlM h
  refine ⟨orderly.nested, follows.settled_iff.mpr rfl, ?_, orderly.blank⟩
  exact existsUnique_of_exists_of_unique (follows.started.mpr (.inr nofun)) orderly.unique

/-- Where tags open and texts decode, events make a document just if they are single-rooted. -/
theorem Reading.exists_document_iff {total : Nat} {events : List Located}
    (legible : AllLegible limits (events.map Located.event)) :
    (∃ root, Reading.document limits total ⟨events, none⟩ = .ok root) ↔
      SingleRooted (events.map Located.event) := by
  simp only [document_eq_ok_iff, true_and]
  constructor
  · rintro ⟨root, h⟩
    exact singleRooted_of_foldlM h
  · intro h
    obtain ⟨d, done⟩ :=
      Draft.exists_foldlM ⟨h.nested, fun _ _ => h.root.unique, h.blank⟩ legible
    obtain ⟨-, follows⟩ := Draft.follows_of_foldlM done
    have none := follows.settled_iff.mp h.settled
    obtain ⟨root, some⟩ := Option.ne_none_iff_exists'.mp
      ((follows.started.mp h.root.exists).resolve_left (not_not_intro none))
    obtain ⟨stack, root?⟩ := d
    cases none
    cases some
    exact ⟨root, done⟩

end XsdInfer.Sample
