import XsdInfer.Proofs.Sample.Markup
import XsdInfer.Proofs.Sample.Tags
import XsdInfer.Proofs.Text.Trim
import XsdInfer.Sample.Document

/-!
# Events of written markup

Each piece of a written document is read as one event, and none at all, if it is space alone. The
lemmas on single pieces (`next_comment`, `next_start`, ...) leave offsets open, since no document
depends on them. A reader completes a draft to a document (`Completes`) if it does so wherever in a
text it stands; an event that is read there takes one step (`completes_of_next`).
-/

namespace XsdInfer.Sample

variable {opened : List (List Char)} {rest : List Char}

namespace Event

/-- A reader inside some tags comes from one text to another over one event. -/
def Reads (opened : List (List Char)) (s : List Char) (event : Event)
    (opened' : List (List Char)) (s' : List Char) : Prop :=
  ∀ offset, ∃ position offset',
    next ⟨s, offset, opened⟩ = .ok (some ⟨event, position, ⟨s', offset', opened'⟩⟩)

/-- Behind a bracket, markup is read. -/
lemma next_markup (s : List Char) (offset : Nat) :
    next ⟨'<' :: s, offset, opened⟩ = ofMarkup ⟨'<' :: s, offset + 1, opened⟩ s := by
  simp [next, Text.isSpace]

/-- An event is read behind a bracket if markup says it. -/
lemma reads_markup_iff {event : Event} {opened' : List (List Char)} {s t : List Char} :
    Reads opened ('<' :: s) event opened' t ↔ Marks opened s event opened' t := by
  constructor
  · intro reads
    obtain ⟨position, offset, next⟩ := reads 0
    rw [next_markup] at next
    exact exists_ofMarkup_iff.mp ⟨position, offset, next⟩
  · intro marks offset
    rw [next_markup]
    exact exists_ofMarkup_iff.mpr marks

/-- A comment is read as an aside. -/
lemma reads_comment {body : List Char} (plain : '-' ∉ body ∧ '>' ∉ body) :
    Reads opened ("<!--".toList ++ body ++ "-->".toList ++ rest) .aside opened rest := by
  have whole : ¬ "-->".toList <:+: body := fun ⟨a, b, split⟩ => plain.2 (by simp [← split])
  exact reads_markup_iff.mpr (marks_comment whole rest)

/-- An instruction is read as an aside. -/
lemma reads_instruction {body : List Char} (plain : '?' ∉ body ∧ '>' ∉ body) (visible : body ≠ []) :
    Reads opened ("<?".toList ++ body ++ "?>".toList ++ rest) .aside opened rest :=
  reads_markup_iff.mpr (marks_instruction visible plain.2 rest)

/-- An aside is read as one. -/
lemma reads_aside (a : Aside) : Reads opened (a.text ++ rest) .aside opened rest :=
  match a with
  | .comment _ plain => reads_comment plain
  | .instruction _ plain visible => reads_instruction plain visible

/-- A start tag is read, and its name is open then. -/
lemma reads_start {h : Head} (named : h.Named) :
    Reads opened ('<' :: h.text ++ '>' :: rest) (.start h.tag) (h.name.toList :: opened) rest :=
  reads_markup_iff.mpr (marks_start_head named rest)

/-- An empty tag is read, and nothing more is open then. -/
lemma reads_empty {h : Head} (named : h.Named) :
    Reads opened ('<' :: h.text ++ "/>".toList ++ rest) (.empty h.tag) opened rest := by
  have text : '<' :: h.text ++ "/>".toList ++ rest = '<' :: (h.text ++ ['/'] ++ '>' :: rest) := by
    simp
  rw [text]
  exact reads_markup_iff.mpr (marks_empty_head named rest)

/-- An end tag closes the tag with its name. -/
lemma marks_stop {name : String} (named : IsTagName name) (trail : Space) (rest : List Char) :
    Marks (name.toList :: opened) ('/' :: (name.toList ++ trail.chars ++ '>' :: rest)) .stop opened
      rest := by
  have bracket : '>' ∉ name.toList ++ trail.chars := by
    rw [List.mem_append]
    rintro (inside | behind)
    · exact named.2 _ inside (by decide)
    · exact absurd (trail.space _ behind) (by decide)
  have name_eq : endName (name.toList ++ trail.chars) = name.toList := by
    -- Only the space behind the name is dropped, for the name ends with no space.
    have last : Text.dropTrailing Text.isSpace name.toList = name.toList := by
      cases eq : name.toList using List.reverseRecOn with
      | nil => rfl
      | append_singleton s c =>
        have visible := isSpace_eq_false_of_not_mem (named.2 c (by simp [eq]))
        exact Text.dropTrailing_concat_of_neg visible s
    rw [endName, Text.dropTrailing_append_of_pos trail.space, last]
    split
    next none => exact absurd none named.1
    next => rfl
  have cut := Text.upTo_append bracket rest
  have marks : Marks (name.toList :: opened) ('/' :: (name.toList ++ trail.chars ++ '>' :: rest)) .stop
      opened (Text.upTo '>' (name.toList ++ trail.chars ++ '>' :: rest)).2 :=
    .stop (by rw [cut, name_eq])
  rwa [cut] at marks

/-- An end tag is read that has the name of the innermost open tag. -/
lemma reads_stop {name : String} (named : IsTagName name) (trail : Space) :
    Reads (name.toList :: opened) ("</".toList ++ name.toList ++ trail.chars ++ '>' :: rest) .stop
      opened rest := by
  have text : "</".toList ++ name.toList ++ trail.chars ++ '>' :: rest =
      '<' :: '/' :: (name.toList ++ trail.chars ++ '>' :: rest) := by simp
  rw [text]
  exact reads_markup_iff.mpr (marks_stop named trail rest)

/-- Character data is read up to the next bracket, without the space behind it. -/
lemma reads_text {c : Char} {s : List Char} (visible : Text.isSpace c = false)
    (plain : '<' ∉ c :: s) (stop : rest = [] ∨ rest.head? = some '<') :
    Reads opened (c :: s ++ rest) (.text (Text.dropTrailing Text.isSpace (c :: s))) opened rest := by
  intro offset
  have inside : ∀ a ∈ c :: s, (a != '<') = true := by grind
  -- Behind the data stands a bracket or nothing.
  have ends : rest.takeWhile (· != '<') = [] ∧ rest.dropWhile (· != '<') = rest := by
    cases rest with
    | nil => exact ⟨rfl, rfl⟩
    | cons a t =>
      have : a = '<' := by simpa using stop
      subst this
      simp
  have raw : (c :: s ++ rest).takeWhile (· != '<') = c :: s := by
    rw [List.takeWhile_append_of_pos inside, ends.1, List.append_nil]
  have behind : (c :: s ++ rest).dropWhile (· != '<') = rest := by
    rw [List.dropWhile_append_of_pos inside, ends.2]
  have skipped : (c :: s ++ rest).dropWhile Text.isSpace = c :: s ++ rest := by
    simp [visible]
  have other : c ≠ '<' := by grind
  unfold next
  simp only [skipped]
  split
  next none => cases none
  next markup => cases markup; exact absurd rfl other
  next =>
    simp only [ofText, raw, behind]
    exact ⟨_, _, rfl⟩

/-- Space before markup makes no difference but to the offset. -/
lemma next_space (opened : List (List Char)) (space : Space) (s : List Char) (offset : Nat) :
    ∃ offset', next ⟨space.chars ++ s, offset, opened⟩ = next ⟨s, offset', opened⟩ := by
  refine ⟨offset + Text.width space.chars, ?_⟩
  unfold next
  simp only [List.takeWhile_append_of_pos space.space, List.dropWhile_append_of_pos space.space,
    Text.width_append, Nat.add_assoc]
  rfl

end Event

open Event (Reads)

/-- A text that begins with another character has no byte order mark. -/
lemma withoutMark_eq_self {s : List Char} (h : s.head? ≠ some '\uFEFF') : withoutMark s = s := by
  unfold withoutMark
  split
  next => exact absurd rfl h
  next => rfl

/-- A reader goes on as the next event says. -/
lemma readFrom_eq (read : List Located) (c : Cursor) :
    readFrom read c =
      match Event.next c with
      | .error fault => ⟨read.reverse, some fault⟩
      | .ok none => ⟨read.reverse, none⟩
      | .ok (some step) => readFrom (⟨step.event, step.position⟩ :: read) step.next := by
  rw [readFrom.eq_def]
  split
  next failed => rw [failed]
  next none => rw [none]
  next taken => rw [taken]

/-- A reader at a text, inside tags of some names, completes a draft to a document. -/
def Completes (limits : Limits) (s : List Char) (opened : List (List Char)) (d : Draft)
    (e : Element) : Prop :=
  ∀ read offset total, read.reverse.foldlM (Draft.stepAt limits) {} = .ok d →
    (readFrom read ⟨s, offset, opened⟩).document limits total = .ok e

variable {limits : Limits} {d d' : Draft} {e : Element}

/-- An event takes the draft one step on. -/
lemma completes_of_reads {s s' : List Char} {opened' : List (List Char)} {event : Event}
    (reads : Reads opened s event opened' s') (step : d.step limits event = .ok d')
    (h : Completes limits s' opened' d' e) : Completes limits s opened d e := by
  intro read offset total done
  obtain ⟨position, offset', next⟩ := reads offset
  have more : (⟨event, position⟩ :: read).reverse.foldlM (Draft.stepAt limits) {} = .ok d' := by
    rw [List.reverse_cons, List.foldlM_append, done]
    show [(⟨event, position⟩ : Located)].foldlM (Draft.stepAt limits) d = _
    simp only [List.foldlM_cons, List.foldlM_nil, Draft.stepAt, step]
    rfl
  rw [readFrom_eq, next]
  exact h _ _ _ more

/-- Space before the rest of a document makes no difference to it. -/
lemma completes_space (space : Space) {s : List Char} (h : Completes limits s opened d e) :
    Completes limits (space.chars ++ s) opened d e := by
  intro read offset total done
  obtain ⟨offset', same⟩ := Event.next_space opened space s offset
  rw [readFrom_eq, same, ← readFrom_eq]
  exact h read offset' total done

/-- A document is complete when nothing is left and nothing is open. -/
lemma completes_end : Completes limits [] opened ⟨[], some e⟩ e := by
  intro read offset total done
  have none : Event.next ⟨[], offset, opened⟩ = .ok none := rfl
  rw [readFrom_eq, none, Reading.document, done]
  rfl

end XsdInfer.Sample
