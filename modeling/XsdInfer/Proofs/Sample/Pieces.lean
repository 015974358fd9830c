import XsdInfer.Proofs.Sample.Events
import XsdInfer.Proofs.Sample.Moves
import XsdInfer.Proofs.Sample.Reference

/-!
# Samples in pieces

A sample is a sequence of pieces: markup, and runs of character data that go on to the next bracket. What
some pieces say is given as a relation (`Over`), without offsets. Main statement: a sample is read just
if its pieces say events that make a document (`parse_eq_ok_iff`). A reader drops the space around
character data, and the runs that are space alone, but this does not matter to the document
(`Draft.foldlM_trimmed`).
-/

namespace XsdInfer.Sample

open Steps (exists_ok_of_bind eq_ok_of_mapError)
open Event (Marks Reads)

variable {limits : Limits} {opened opened' opened'' : List (List Char)} {s t rest : List Char}
  {event : Event} {events events' : List Event} {d d' : Draft}

/-! ## Pieces -/

/-- What some pieces at the front of a text say: inside of some tags a reader comes over them to
events and a rest. -/
inductive Over : List (List Char) → List Char → List Event → List (List Char) → List Char → Prop where
  | done {opened : List (List Char)} {s : List Char} :
    Over opened s [] opened s
  | markup {opened opened' opened'' : List (List Char)} {s t rest : List Char} {event : Event}
      {events : List Event} :
    Marks opened s event opened' t →
    Over opened' t events opened'' rest →
    Over opened ('<' :: s) (event :: events) opened'' rest
  | data {opened opened' : List (List Char)} {run t rest : List Char} {events : List Event} :
    run ≠ [] →
    '<' ∉ run →
    t = [] ∨ t.head? = some '<' →
    Over opened t events opened' rest →
    Over opened (run ++ t) (.text run :: events) opened' rest

/-- What all pieces of a text say. A bracket at the very end is no piece. -/
def Told (opened : List (List Char)) (s : List Char) (events : List Event) : Prop :=
  ∃ opened' rest, Over opened s events opened' rest ∧ (rest = [] ∨ rest = ['<'])

/-- An event as a reader reports it: character data without the space around it, if anything is left
of it. -/
def Event.trimmed? : Event → Option Event
  | text run =>
    match Text.dropTrailing Text.isSpace (run.dropWhile Text.isSpace) with
    | [] => none
    | visible => some (text visible)
  | e => some e

/-! ## Reading pieces -/

/-- Space alone is not reported. -/
lemma Event.trimmed?_space {space : List Char} (all : ∀ c ∈ space, Text.isSpace c = true) :
    (text space).trimmed? = none := by
  rw [trimmed?, List.dropWhile_eq_nil_iff.mpr all]
  rfl

/-- Character data is reported without the space around it. -/
lemma Event.trimmed?_text {space run : List Char} {c : Char}
    (all : ∀ c ∈ space, Text.isSpace c = true) (visible : Text.isSpace c = false) :
    (text (space ++ c :: run)).trimmed? = some (text (Text.dropTrailing Text.isSpace (c :: run))) := by
  have front : (space ++ c :: run).dropWhile Text.isSpace = c :: run := by
    rw [List.dropWhile_append_of_pos all, List.dropWhile_cons_of_neg (by simp [visible])]
  have left : Text.dropTrailing Text.isSpace (c :: run) = c :: Text.dropTrailing Text.isSpace run := by
    rw [Text.dropTrailing_cons, if_neg (by simp [visible])]
  rw [trimmed?, front, left]

/-- Markup is reported as it is. -/
lemma Event.trimmed?_of_marks (marks : Marks opened s event opened' t) :
    event.trimmed? = some event := by
  cases marks with
  | bang _ _ said =>
    obtain ⟨-, rfl, -⟩ | ⟨-, rfl, -⟩ | ⟨-, rfl, -⟩ := cases_of_ofBangText said <;> rfl
  | _ => rfl

namespace Over

/-- What two parts of a text say is what both of them say in a row. -/
lemma append {x : List Char} (front : Over opened s events opened' t)
    (behind : Over opened' t events' opened'' x) : Over opened s (events ++ events') opened'' x := by
  induction front with
  | done => exact behind
  | markup marks _ ih => exact .markup marks (ih behind)
  | data nonempty plain stop _ ih => exact .data nonempty plain stop (ih behind)

/-- Character data in front, which may be missing. -/
lemma exists_data {run : List Char} (plain : '<' ∉ run) (stop : t = [] ∨ t.head? = some '<')
    (behind : Over opened t events opened' rest) :
    ∃ lead, (lead = [] ∧ run = [] ∨ lead = [.text run]) ∧
      Over opened (run ++ t) (lead ++ events) opened' rest := by
  cases run with
  | nil => exact ⟨[], .inl ⟨rfl, rfl⟩, behind⟩
  | cons c run => exact ⟨[.text (c :: run)], .inr rfl, .data nofun plain stop behind⟩

end Over

/-- Space in front is read as nothing. -/
lemma Told.exists_space {space : List Char} (all : ∀ c ∈ space, Text.isSpace c = true)
    (stop : t = [] ∨ t.head? = some '<') (told : Told opened t events) :
    ∃ events', Told opened (space ++ t) events' ∧
      events'.filterMap Event.trimmed? = events.filterMap Event.trimmed? := by
  obtain ⟨opened', rest, pieces, ends⟩ := told
  have plain : '<' ∉ space := fun mem => absurd (all _ mem) (by decide)
  obtain ⟨lead, ⟨rfl, rfl⟩ | rfl, pieces⟩ := pieces.exists_data plain stop
  · exact ⟨events, ⟨opened', rest, pieces, ends⟩, rfl⟩
  · refine ⟨_, ⟨opened', rest, pieces, ends⟩, ?_⟩
    rw [List.singleton_append, List.filterMap_cons_none (Event.trimmed?_space all)]

/-- A reader in front of a character that is no space comes to the end, over markup, or over a run of
character data. -/
lemma Event.next_cases {offset : Nat} {step? : Option Step}
    (visible : ∀ c ∈ s.head?, Text.isSpace c = false)
    (h : next ⟨s, offset, opened⟩ = .ok step?) :
    ((s = [] ∨ s = ['<']) ∧ step? = none) ∨ ∃ step, step? = some step ∧
      ((∃ u, s = '<' :: u ∧ Marks opened u step.event step.next.opened step.next.rest) ∨
        ∃ c run, '<' ∉ c :: run ∧ s = c :: run ++ step.next.rest ∧
          (step.next.rest = [] ∨ step.next.rest.head? = some '<') ∧
          step.event = .text (Text.dropTrailing Text.isSpace (c :: run)) ∧
          step.next.opened = opened) := by
  cases s with
  | nil => cases h; exact .inl ⟨.inl rfl, rfl⟩
  | cons c u =>
    by_cases bracket : c = '<'
    · subst bracket
      rw [next_markup] at h
      cases step? with
      | none =>
        obtain rfl := eq_nil_of_ofMarkup h
        exact .inl ⟨.inr rfl, rfl⟩
      | some step => exact .inr ⟨step, rfl, .inl ⟨u, rfl, exists_ofMarkup_iff.mp ⟨_, _, h⟩⟩⟩
    · have plain : '<' ∉ c :: u.takeWhile (· != '<') := by
        rw [List.mem_cons, not_or]
        refine ⟨Ne.symm bracket, fun mem => ?_⟩
        simpa using List.all_eq_true.mp List.all_takeWhile _ mem
      have stop : u.dropWhile (· != '<') = [] ∨ (u.dropWhile (· != '<')).head? = some '<' := by
        have first := List.head?_dropWhile_not (· != '<') u
        cases rest : u.dropWhile (· != '<') with
        | nil => exact .inl rfl
        | cons a t =>
          rw [rest] at first
          exact .inr (by simpa using first)
      obtain ⟨position, offset', read⟩ := reads_text (visible c rfl) plain stop offset
      rw [List.cons_append, List.takeWhile_append_dropWhile, h] at read
      cases read
      exact .inr ⟨_, rfl, .inr ⟨c, _, plain, by simp, stop, rfl, rfl⟩⟩

/-- A reader that comes to the end reports what is told, without the space around character data. -/
lemma exists_told_of_readFrom {read located : List Located} {offset : Nat}
    (h : readFrom read ⟨s, offset, opened⟩ = ⟨located, none⟩) :
    ∃ events, Told opened s events ∧
      located.map Located.event =
        read.reverse.map Located.event ++ events.filterMap Event.trimmed? := by
  generalize size : s.length = n
  -- By induction on the length: a reader drops space first, so that what it goes on with is not the tail of
  -- the text that is given.
  induction n using Nat.strong_induction_on generalizing s opened read offset with
  | _ n ih =>
    subst size
    have all : ∀ c ∈ s.takeWhile Text.isSpace, Text.isSpace c = true := fun c mem =>
      List.all_eq_true.mp List.all_takeWhile c mem
    have shorter := Text.length_dropWhile_le Text.isSpace s
    have visible : ∀ c ∈ (s.dropWhile Text.isSpace).head?, Text.isSpace c = false := by
      have first := List.head?_dropWhile_not Text.isSpace s
      intro c mem
      rw [Option.mem_def.mp mem] at first
      simpa using first
    have whole : s.takeWhile Text.isSpace ++ s.dropWhile Text.isSpace = s :=
      List.takeWhile_append_dropWhile
    obtain ⟨offset', skipped⟩ := Event.next_space opened ⟨_, all⟩ (s.dropWhile Text.isSpace) offset
    rw [whole] at skipped
    rw [readFrom_eq, skipped] at h
    cases next : Event.next ⟨s.dropWhile Text.isSpace, offset', opened⟩ with
    | error fault => rw [next] at h; cases h
    | ok step? =>
      rw [next] at h
      obtain ⟨ends, rfl⟩ | ⟨step, rfl, ⟨u, markup, marks⟩ | ⟨c, run, plain, data, stop, event, same⟩⟩ :=
        Event.next_cases visible next
      · cases h
        have stop : s.dropWhile Text.isSpace = [] ∨ (s.dropWhile Text.isSpace).head? = some '<' := by
          obtain none | bracket := ends
          · exact .inl none
          · exact .inr (by rw [bracket]; rfl)
        have told : Told opened (s.dropWhile Text.isSpace) [] := ⟨opened, _, .done, ends⟩
        obtain ⟨events, told, same⟩ := told.exists_space all stop
        refine ⟨events, whole ▸ told, ?_⟩
        rw [same]
        simp
      · have shorter : step.next.rest.length < s.length :=
          Nat.lt_of_lt_of_le (Event.length_lt_of_next next) shorter
        obtain ⟨events, ⟨opened', rest, pieces, ends⟩, same⟩ := ih _ shorter h rfl
        have told : Told opened (s.dropWhile Text.isSpace) (step.event :: events) := by
          rw [markup]
          exact ⟨opened', rest, .markup marks pieces, ends⟩
        obtain ⟨events', told, same'⟩ := told.exists_space all (.inr (by rw [markup]; rfl))
        refine ⟨events', whole ▸ told, ?_⟩
        rw [same, same', List.filterMap_cons_some (Event.trimmed?_of_marks marks)]
        simp
      · have shorter : step.next.rest.length < s.length :=
          Nat.lt_of_lt_of_le (Event.length_lt_of_next next) shorter
        obtain ⟨events, ⟨opened', rest, pieces, ends⟩, same⟩ := ih _ shorter h rfl
        -- The space that was dropped belongs to the run behind it.
        let space := s.takeWhile Text.isSpace
        have plain : '<' ∉ space ++ c :: run := by
          rw [List.mem_append, not_or]
          exact ⟨fun mem => absurd (all _ mem) (by decide), plain⟩
        have first : Text.isSpace c = false := visible c (by rw [data]; rfl)
        refine ⟨.text (space ++ c :: run) :: events, ⟨opened', rest, ?_, ends⟩, ?_⟩
        · rw [← whole, data, ← List.append_assoc]
          rw [‹step.next.opened = opened›] at pieces
          exact .data (by simp) plain stop pieces
        · rw [same, List.filterMap_cons_some (Event.trimmed?_text all first)]
          simp [event]

/-- A reader comes to the end of all that is told. -/
lemma exists_readFrom_of_over (pieces : Over opened s events opened' rest)
    (ends : rest = [] ∨ rest = ['<']) (read : List Located) (offset : Nat) :
    ∃ located, readFrom read ⟨s, offset, opened⟩ = ⟨located, none⟩ ∧
      located.map Located.event =
        read.reverse.map Located.event ++ events.filterMap Event.trimmed? := by
  induction pieces generalizing read offset with
  | @done opened s =>
    refine ⟨read.reverse, ?_, by simp⟩
    obtain rfl | rfl := ends
    · rw [readFrom_eq]
      rfl
    · rw [readFrom_eq]
      rfl
  | @markup opened opened₁ _ s t _ event events marks _ ih =>
    obtain ⟨position, offset', next⟩ := Event.reads_markup_iff.mpr marks offset
    obtain ⟨located, read', same⟩ := ih ends (⟨event, position⟩ :: read) offset'
    refine ⟨located, ?_, ?_⟩
    · rw [readFrom_eq, next]
      exact read'
    · rw [same, List.filterMap_cons_some (Event.trimmed?_of_marks marks)]
      simp
  | @data opened _ run t _ events nonempty plain stop _ ih =>
    have all : ∀ c ∈ run.takeWhile Text.isSpace, Text.isSpace c = true := fun c mem =>
      List.all_eq_true.mp List.all_takeWhile c mem
    have whole : run.takeWhile Text.isSpace ++ run.dropWhile Text.isSpace = run :=
      List.takeWhile_append_dropWhile
    obtain ⟨offset', skipped⟩ :=
      Event.next_space opened ⟨_, all⟩ (run.dropWhile Text.isSpace ++ t) offset
    rw [← List.append_assoc, whole] at skipped
    rw [readFrom_eq, skipped]
    -- A run of space alone is told, but not reported: the reader goes on behind it at once.
    cases behind : run.dropWhile Text.isSpace with
    | nil =>
      rw [behind, List.append_nil] at whole
      rw [List.nil_append, ← readFrom_eq, List.filterMap_cons_none (Event.trimmed?_space (whole ▸ all))]
      exact ih ends read offset'
    | cons c run' =>
      have first : Text.isSpace c = false := by
        have := List.head?_dropWhile_not Text.isSpace run
        rw [behind] at this
        simpa using this
      rw [behind] at whole
      have plain' : '<' ∉ c :: run' := fun mem => plain (whole ▸ List.mem_append_right _ mem)
      obtain ⟨position, offset'', next⟩ := Event.reads_text first plain' stop offset'
      obtain ⟨located, read', same⟩ := ih ends (⟨_, position⟩ :: read) offset''
      refine ⟨located, ?_, ?_⟩
      · rw [next]
        exact read'
      · have reported : (Event.text (run.takeWhile Text.isSpace ++ c :: run')).trimmed? =
            some (.text (Text.dropTrailing Text.isSpace (c :: run'))) :=
          Event.trimmed?_text all first
        rw [whole] at reported
        rw [same, List.filterMap_cons_some reported]
        simp

/-! ## Documents -/

/-- Text says the data that it decodes to. -/
lemma Event.data?_text_iff {raw data : List Char} :
    (text raw).data? = some data ↔ Reference.Decodes raw data := by
  rw [← Reference.decode_eq_ok_iff, data?]
  cases Reference.decode raw with
  | error fault => simp [Except.toOption]
  | ok data' => simp [Except.toOption]

namespace Draft

/-- Character data is added as what it says. -/
lemma step_text_eq_ok_iff {raw : List Char} : d.step limits (.text raw) = .ok d' ↔
    ∃ data, Reference.Decodes raw data ∧ d.addText data = .ok d' := by
  rw [step, addRawText]
  constructor
  · intro h
    have h := eq_ok_of_mapError h
    cases decoded : Reference.decode raw with
    | error fault => rw [decoded] at h; cases h
    | ok data =>
      rw [decoded] at h
      exact ⟨data, Reference.decode_eq_ok_iff.mp decoded, h⟩
  · rintro ⟨data, decodes, added⟩
    rw [Reference.decode_eq_ok_iff.mpr decodes]
    simp only [added]
    rfl

/-- Space around character data does not matter to a draft. -/
lemma step_text_space {lead raw trail : List Char} (front : ∀ c ∈ lead, Text.isSpace c = true)
    (behind : ∀ c ∈ trail, Text.isSpace c = true) :
    d.step limits (.text (lead ++ raw ++ trail)) = .ok d' ↔ d.step limits (.text raw) = .ok d' := by
  have plain {space : List Char} (all : ∀ c ∈ space, Text.isSpace c = true) :
      '&' ∉ space ∧ ';' ∉ space :=
    ⟨fun mem => absurd (all _ mem) (by decide), fun mem => absurd (all _ mem) (by decide)⟩
  have blank {space : List Char} (all : ∀ c ∈ space, Text.isSpace c = true) :
      ∀ c ∈ space, Text.isBlank c = true := fun c mem => Text.isBlank_of_isSpace (all c mem)
  have same (data : List Char) : d.addText (lead ++ data ++ trail) = d.addText data :=
    addText_congr (Text.trim_append (blank front) (blank behind) data) d
  rw [step_text_eq_ok_iff, step_text_eq_ok_iff]
  constructor
  · rintro ⟨_, decodes, added⟩
    obtain ⟨_, rfl, untrailed⟩ := decodes.of_append_plain (plain behind)
    obtain ⟨data, rfl, bare⟩ := untrailed.of_plain_append (plain front).1
    exact ⟨data, bare, same data ▸ added⟩
  · rintro ⟨data, decodes, added⟩
    have before := Reference.Decodes.of_plain (plain front).1
    have after := Reference.Decodes.of_plain (plain behind).1
    exact ⟨_, (before.append decodes).append after, (same data).trans added⟩

/-- An event is reported as one that does the same, or it does nothing. -/
lemma step_trimmed (limits : Limits) (event : Event) :
    (event.trimmed? = none ∧ ∀ d : Draft, d.step limits event = .ok d) ∨
      ∃ event', event.trimmed? = some event' ∧
        ∀ d d' : Draft, d.step limits event' = .ok d' ↔ d.step limits event = .ok d' := by
  cases event with
  | text run =>
    let lead := run.takeWhile Text.isSpace
    let raw := run.dropWhile Text.isSpace
    let trail := (raw.reverse.takeWhile Text.isSpace).reverse
    have front : ∀ c ∈ lead, Text.isSpace c = true := fun c mem =>
      List.all_eq_true.mp List.all_takeWhile c mem
    have behind : ∀ c ∈ trail, Text.isSpace c = true := fun c mem =>
      List.all_eq_true.mp List.all_takeWhile c (List.mem_reverse.mp mem)
    have whole : lead ++ Text.dropTrailing Text.isSpace raw ++ trail = run := by
      rw [List.append_assoc, Text.dropTrailing_append, List.takeWhile_append_dropWhile]
    have same (d d' : Draft) :
        d.step limits (.text (lead ++ Text.dropTrailing Text.isSpace raw ++ trail)) = .ok d' ↔
          d.step limits (.text (Text.dropTrailing Text.isSpace raw)) = .ok d' :=
      step_text_space front behind
    rw [whole] at same
    cases visible : Text.dropTrailing Text.isSpace raw with
    | nil =>
      refine .inl ⟨by simp only [Event.trimmed?, raw, visible], fun d => (same d d).mpr ?_⟩
      rw [visible]
      exact step_text_eq_ok_iff.mpr ⟨[], .nil, addText_of_blank (by simp) d⟩
    | cons c s =>
      rw [visible] at same
      exact .inr ⟨_, by simp only [Event.trimmed?, raw, visible], fun d d' => (same d d').symm⟩
  | _ => exact .inr ⟨_, rfl, fun _ _ => .rfl⟩

/-- The space that a reader drops does not matter to the draft that the events lead to. -/
lemma foldlM_trimmed : (events.filterMap Event.trimmed?).foldlM (step limits) d = .ok d' ↔
    events.foldlM (step limits) d = .ok d' := by
  induction events generalizing d with
  | nil => exact .rfl
  | cons event events ih =>
    rw [List.foldlM_cons]
    -- An event is dropped, which changes no draft, or reported without space, which leads to the same one.
    obtain ⟨none, still⟩ | ⟨event', some, same⟩ := step_trimmed limits event
    · rw [List.filterMap_cons_none none, still d]
      exact ih
    · rw [List.filterMap_cons_some some, List.foldlM_cons]
      constructor
      · intro h
        obtain ⟨d₁, first, rest⟩ := exists_ok_of_bind h
        rw [(same d d₁).mp first]
        exact ih.mp rest
      · intro h
        obtain ⟨d₁, first, rest⟩ := exists_ok_of_bind h
        rw [(same d d₁).mpr first]
        exact ih.mpr rest

end Draft

/-- A sample is read just if its pieces say events that make a document. -/
theorem parse_eq_ok_iff {xml : String} {root : Element} : parse limits xml = .ok root ↔
    ∃ events, Told [] (withoutMark xml.toList) events ∧
      events.foldlM (Draft.step limits) {} = .ok ⟨[], some root⟩ := by
  constructor
  · intro h
    obtain ⟨complete, made⟩ := Reading.document_eq_ok_iff.mp (eq_ok_of_mapError h)
    have whole : Sample.read xml.toList = ⟨(Sample.read xml.toList).events, none⟩ := by
      rw [← complete]
    obtain ⟨events, told, same⟩ := exists_told_of_readFrom whole
    rw [same] at made
    exact ⟨events, told, Draft.foldlM_trimmed.mp made⟩
  · rintro ⟨events, ⟨opened, rest, pieces, ends⟩, made⟩
    obtain ⟨located, whole, same⟩ := exists_readFrom_of_over pieces ends [] 0
    have reported : (located.map Located.event).foldlM (Draft.step limits) {} = .ok ⟨[], some root⟩ := by
      rw [same]
      exact Draft.foldlM_trimmed.mpr made
    have whole : Sample.read xml.toList = ⟨located, none⟩ := whole
    have document : (Sample.read xml.toList).document limits (Text.width xml.toList) = .ok root := by
      rw [whole]
      exact Reading.document_eq_ok_iff.mpr ⟨rfl, reported⟩
    rw [parse, document]
    rfl

end XsdInfer.Sample
