import XsdInfer.Strict.Character
import XsdInfer.Strict.Fault
import XsdInfer.Text.Cut

/-!
# Scanners

A scanner takes something from the text ahead, or finds a fault. Scanners never give back text that
they took (`Forward`), and those that take a token take at least one character (`Advances`); both
properties pass from parts to the whole.
-/

namespace XsdInfer.Strict

/-- Where a scanner stands: the text ahead and its place. -/
structure Cursor where
  rest : List Char
  place : Place := {}
deriving DecidableEq, Repr

def Cursor.skip (c : Cursor) (n : Nat) : Cursor :=
  ⟨c.rest.drop n, (c.rest.take n).foldl Place.advance c.place⟩

def Scan (α : Type) : Type :=
  Cursor → Except Fault (α × Cursor)

namespace Scan

variable {α β : Type}

instance : Monad Scan where
  pure a := fun c => .ok (a, c)
  bind m f := fun c =>
    match m c with
    | .ok (a, c) => f a c
    | .error e => .error e

def fail (e : Fault) : Scan α :=
  fun _ => .error e

/-- The place of the text ahead. -/
def here : Scan Place :=
  fun c => .ok (c.place, c)

/-- Stops at a fault of the place of the text ahead, if something is wrong. -/
def refuse (wrong : Bool) (fault : Place → Fault) : Scan Unit :=
  fun c => if wrong then .error (fault c.place) else .ok ((), c)

/-- The text ahead, which is not taken. -/
def ahead : Scan (List Char) :=
  fun c => .ok (c.rest, c)

def take (n : Nat) : Scan Unit :=
  fun c => .ok ((), c.skip n)

/-- The next character, which is not taken. -/
def peek : Scan Char :=
  fun c =>
    match c.rest with
    | a :: _ => .ok (a, c)
    | [] => .error .endOfText

/-- Takes characters of a class for as long as there are any. -/
def run (p : Char → Bool) : Scan (List Char) :=
  fun c => .ok (c.rest.takeWhile p, c.skip (c.rest.takeWhile p).length)

def spaces : Scan Unit := do
  let _ ← run Text.isSpace

def char (due : Char) : Scan Unit :=
  fun c =>
    match c.rest with
    | a :: _ => if a = due then .ok ((), c.skip 1) else .error (.unexpected due a c.place)
    | [] => .error .endOfText

def literal (due : String) : Scan Unit :=
  fun c =>
    if due.toList.isPrefixOf c.rest then .ok ((), c.skip due.toList.length)
    else .error (.missing due c.place)

/-- The number of characters of a text before the first place where `stop` holds of what is ahead,
or the first character that a document may not hold, with its distance. -/
def measure (stop : List Char → Bool) (n : Nat) : List Char → Except (Char × Nat) Nat
  | [] => .ok n
  | a :: s =>
    if !isXmlChar a then .error (a, n)
    else if stop (a :: s) then .ok n
    else measure stop (n + 1) s

/-- Takes characters up to where `stop` holds of the text ahead, or to the end. -/
def upTo (stop : List Char → Bool) : Scan (List Char) :=
  fun c =>
    match measure stop 0 c.rest with
    | .ok n => .ok (c.rest.take n, c.skip n)
    | .error (a, n) => .error (.notXml a (c.skip n).place)

def anyChar : Scan Char :=
  fun c =>
    match c.rest with
    | a :: _ => if isXmlChar a then .ok (a, c.skip 1) else .error (.notXml a c.place)
    | [] => .error .endOfText

def name : Scan (List Char) :=
  fun c =>
    match c.rest with
    | a :: s =>
      if isNameStart a then
        let more := s.takeWhile isNameChar
        .ok (a :: more, c.skip (more.length + 1))
      else .error (.badName c.place)
    | [] => .error (.badName c.place)

def quote : Scan Char :=
  fun c =>
    match c.rest with
    | a :: _ =>
      if a = '"' ∨ a = '\'' then .ok (a, c.skip 1)
      else .error (.unexpectedKind "a quote" a c.place)
    | [] => .error .endOfText

/-- Takes an equals sign with the space around it. -/
def equals : Scan Unit := do
  spaces
  char '='
  spaces

/-- A scanner never gives back text. -/
def Forward (m : Scan α) : Prop :=
  ∀ ⦃c a c'⦄, m c = .ok (a, c') → c'.rest.length ≤ c.rest.length

/-- A scanner takes at least one character. -/
def Advances (m : Scan α) : Prop :=
  ∀ ⦃c a c'⦄, m c = .ok (a, c') → c'.rest.length < c.rest.length

/-- Skipping leaves no more than there was. -/
theorem length_skip_le (c : Cursor) (n : Nat) : (c.skip n).rest.length ≤ c.rest.length := by
  simp [Cursor.skip]

/-- A scan that takes something never goes back. -/
theorem Advances.forward {m : Scan α} (h : Advances m) : Forward m :=
  fun _ _ _ taken => Nat.le_of_lt (h taken)

/-- What a sequence of two scanners took is what the second took behind the first. -/
theorem eq_ok_of_bind {m : Scan α} {f : α → Scan β} {c c' : Cursor} {b : β}
    (h : (m >>= f) c = .ok (b, c')) : ∃ a d, m c = .ok (a, d) ∧ f a d = .ok (b, c') := by
  cases first : m c with
  | error e => simp [bind, first] at h
  | ok x => exact ⟨x.1, x.2, rfl, by simpa [bind, first] using h⟩

/-- To give a value takes nothing. -/
theorem forward_pure (a : α) : Forward (pure a : Scan α) := by
  intro c a' c' h
  cases h
  exact Nat.le_refl _

/-- A fault has no rest that could be too long. -/
theorem advances_fail (e : Fault) : Advances (fail e : Scan α) := by
  intro c a c' h
  cases h

/-- Two scans in a row do not go back if neither does. -/
theorem forward_bind {m : Scan α} {f : α → Scan β} (hm : Forward m) (hf : ∀ a, Forward (f a)) :
    Forward (m >>= f) := by
  intro c b c' h
  obtain ⟨a, d, first, second⟩ := eq_ok_of_bind h
  exact Nat.le_trans (hf a second) (hm first)

/-- A sequence advances if its first scanner does. -/
theorem advances_bind {m : Scan α} {f : α → Scan β} (hm : Advances m) (hf : ∀ a, Forward (f a)) :
    Advances (m >>= f) := by
  intro c b c' h
  obtain ⟨a, d, first, second⟩ := eq_ok_of_bind h
  exact Nat.lt_of_le_of_lt (hf a second) (hm first)

/-- A sequence advances if its second scanner does. -/
theorem advances_bind_of_second {m : Scan α} {f : α → Scan β} (hm : Forward m)
    (hf : ∀ a, Advances (f a)) : Advances (m >>= f) := by
  intro c b c' h
  obtain ⟨a, d, first, second⟩ := eq_ok_of_bind h
  exact Nat.lt_of_lt_of_le (hf a second) (hm first)

/-- To refuse something takes nothing. -/
theorem forward_refuse (wrong : Bool) (fault : Place → Fault) : Forward (refuse wrong fault) := by
  intro c a c' h
  unfold refuse at h
  split at h
  next => cases h
  next => cases h; exact Nat.le_refl _

/-- To look where one is takes nothing. -/
theorem forward_here : Forward here := by
  intro c a c' h
  cases h
  exact Nat.le_refl _

/-- To look ahead takes nothing. -/
theorem forward_ahead : Forward ahead := by
  intro c a c' h
  cases h
  exact Nat.le_refl _

/-- To look at the next character takes nothing. -/
theorem forward_peek : Forward peek := by
  intro c a c' h
  unfold peek at h
  split at h
  next => cases h; exact Nat.le_refl _
  next => cases h

/-- A run of characters does not go back. -/
theorem forward_run (p : Char → Bool) : Forward (run p) := by
  intro c a c' h
  cases h
  exact length_skip_le c _

/-- Blanks do not go back. -/
theorem forward_spaces : Forward spaces :=
  forward_bind (forward_run _) fun _ => forward_pure _

/-- A character that is due takes one. -/
theorem advances_char (due : Char) : Advances (char due) := by
  intro c a c' h
  unfold char at h
  split at h
  next x s eq =>
    split at h
    next =>
      cases h
      simp [Cursor.skip, eq]
    next => cases h
  next => cases h

/-- A literal that is due takes its characters, if it has any. -/
theorem advances_literal {due : String} (h : due.toList ≠ []) : Advances (literal due) := by
  intro c a c' eq
  unfold literal at eq
  split at eq
  next lead =>
    cases eq
    have long := (List.isPrefixOf_iff_prefix.mp lead).length_le
    have some := List.length_pos_iff.mpr h
    simp only [Cursor.skip, List.length_drop]
    omega
  next => cases eq

/-- A scan up to a stop does not go back. -/
theorem forward_upTo (stop : List Char → Bool) : Forward (upTo stop) := by
  intro c a c' h
  unfold upTo at h
  split at h
  next => cases h; exact length_skip_le c _
  next => cases h

/-- Any character takes one. -/
theorem advances_anyChar : Advances anyChar := by
  intro c a c' h
  unfold anyChar at h
  split at h
  next x s eq =>
    split at h
    next =>
      cases h
      simp [Cursor.skip, eq]
    next => cases h
  next => cases h

/-- A name takes at least one character. -/
theorem advances_name : Advances name := by
  intro c a c' h
  unfold name at h
  split at h
  next x s eq =>
    split at h
    next =>
      cases h
      simp only [Cursor.skip, eq, List.drop_succ_cons, List.length_drop, List.length_cons]
      omega
    next => cases h
  next => cases h

/-- A quotation mark takes one character. -/
theorem advances_quote : Advances quote := by
  intro c a c' h
  unfold quote at h
  split at h
  next x s eq =>
    split at h
    next =>
      cases h
      simp [Cursor.skip, eq]
    next => cases h
  next => cases h

/-- An equals sign with blanks around it does not go back. -/
theorem forward_equals : Forward equals :=
  forward_bind forward_spaces fun _ =>
    forward_bind (Advances.forward (advances_char _)) fun _ => forward_spaces

end Scan

end XsdInfer.Strict
