import XsdInfer.Sample.Event

/-!
# Reading a sample

The events of a whole sample. Reading ends because each event takes up some of the text
(`Event.length_lt_of_next`). What stops the reading early is kept behind the events before it.
-/

namespace XsdInfer.Sample

namespace Event

/-- An end tag leaves no more than there was. -/
theorem length_le_of_ofEndTag {c : Cursor} {s : List Char} {step : Step}
    (h : ofEndTag c s = .ok step) : step.next.rest.length ≤ s.length := by
  unfold ofEndTag at h
  simp only at h
  split at h
  next => cases h
  next =>
    split at h
    next =>
      cases h
      exact Text.length_upTo_le '>' s
    next => cases h

/-- An instruction leaves no more than there was. -/
theorem length_le_of_ofInstruction {c : Cursor} {s : List Char} {step : Step}
    (h : ofInstruction c s = .ok step) : step.next.rest.length ≤ s.length := by
  unfold ofInstruction at h
  simp only at h
  split at h
  next =>
    cases h
    exact Text.length_upTo_le '>' s
  next => cases h

/-- Markup of one kind leaves less than there was. -/
theorem length_lt_of_ofBangKind {c : Cursor} {markup : Markup} {complete : List Char → Bool}
    {s : List Char} {step : Step} (h : ofBangKind c markup complete s = .ok step) :
    step.next.rest.length < s.length := by
  unfold ofBangKind at h
  split at h
  next => cases h
  next cut =>
    simp only at h
    split at h
    next =>
      cases h
      exact length_lt_of_cutMarkup cut
    next => cases h

/-- Markup behind an exclamation mark leaves less than there was. -/
theorem length_lt_of_ofBang {c : Cursor} {s : List Char} {step : Step}
    (h : ofBang c s = .ok step) : step.next.rest.length < s.length := by
  unfold ofBang at h
  split at h
  next => cases h
  next => exact length_lt_of_ofBangKind h
  next => exact length_lt_of_ofBangKind h
  next => exact length_lt_of_ofBangKind h
  next => exact length_lt_of_ofBangKind h
  next => cases h

/-- A step that is given is one that was made. -/
theorem eq_ok_of_map_some {x : Except (Fault × Nat) Step} {step : Step}
    (h : x.map some = .ok (some step)) : x = .ok step := by
  cases x with
  | error => cases h
  | ok => cases h; rfl

/-- Markup never gives back any of the text ahead. -/
theorem length_le_of_ofMarkup {c : Cursor} {s : List Char} {step : Step}
    (h : ofMarkup c s = .ok (some step)) : step.next.rest.length ≤ s.length := by
  unfold ofMarkup at h
  split at h
  next => cases h
  next => exact Nat.le_of_lt (length_lt_of_ofBang (eq_ok_of_map_some h))
  next => exact Nat.le_succ_of_le (length_le_of_ofEndTag (eq_ok_of_map_some h))
  next => exact length_le_of_ofInstruction (eq_ok_of_map_some h)
  next =>
    split at h
    next => cases h
    next content rest cut =>
      have shorter := length_lt_of_cutTag cut
      cases h
      unfold ofTag
      split <;> exact Nat.le_of_lt shorter

/-- Each event takes up some of the text. -/
theorem length_lt_of_next {c : Cursor} {step : Step} (h : next c = .ok (some step)) :
    step.next.rest.length < c.rest.length := by
  unfold next at h
  have skipped := Text.length_dropWhile_le Text.isSpace c.rest
  simp only at h
  split at h
  next => cases h
  next s eq =>
    rw [eq, List.length_cons] at skipped
    have := length_le_of_ofMarkup h
    omega
  next s not_end not_markup =>
    cases h
    cases eq : c.rest.dropWhile Text.isSpace with
    | nil => exact absurd eq not_end
    | cons a t =>
      have plain : (a != '<') = true := by
        simpa using fun e => not_markup t (by rw [eq, e])
      have behind := Text.length_dropWhile_le (· != '<') t
      rw [eq, List.length_cons] at skipped
      simp only [ofText, List.dropWhile_cons, plain, if_true]
      omega

end Event

/-- An event with its position. -/
structure Located where
  event : Event
  position : Nat
deriving DecidableEq, Repr

/-- The events of a sample, and what stopped the reading before its end. -/
structure Reading where
  events : List Located
  fault : Option (Fault × Nat)
deriving DecidableEq, Repr

/-- Reads on to the end. What is read already is `read`, the last event first. -/
def readFrom (read : List Located) (c : Cursor) : Reading :=
  match _next : Event.next c with
  | .error fault => ⟨read.reverse, some fault⟩
  | .ok none => ⟨read.reverse, none⟩
  | .ok (some step) => readFrom (⟨step.event, step.position⟩ :: read) step.next
termination_by c.rest.length
decreasing_by exact Event.length_lt_of_next _next

/-- A text without the byte order mark that may stand at its start. -/
def withoutMark : List Char → List Char
  | '\uFEFF' :: s => s
  | s => s

/-- The events of a text. Positions do not count a byte order mark. -/
def read (s : List Char) : Reading :=
  readFrom [] ⟨withoutMark s, 0, []⟩

end XsdInfer.Sample
