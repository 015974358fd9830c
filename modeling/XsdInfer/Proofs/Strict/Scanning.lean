import Mathlib.Tactic.Lemma
import XsdInfer.Proofs.Text.Cut
import XsdInfer.Strict.Reading

/-!
# What scanners take

A scanner takes a text up to some rest (`Takes`), if it does so wherever the text stands. Each scanner
has a lemma on the text that it takes, and sequences take one text after another (`Takes.bind`).
-/

namespace XsdInfer.Strict

/-- Whether a text is a name without a colon. -/
def isWord : List Char → Bool
  | [] => false
  | a :: s => isNameStart a && (a :: s).all fun c => isNameChar c && c != ':'

/-- The characters of a word may stand in a name, and are no colons. -/
lemma isNameChar_of_isWord {s : List Char} (h : isWord s = true) :
    ∀ c ∈ s, isNameChar c = true ∧ c ≠ ':' := by
  cases s with
  | nil => cases h
  | cons a s =>
    intro c mem
    simp only [isWord, Bool.and_eq_true, List.all_eq_true] at h
    exact ⟨(h.2 c mem).1, by simpa using (h.2 c mem).2⟩

/-- A word starts as a name may. -/
lemma isNameStart_of_isWord {s : List Char} (h : isWord s = true) :
    ∃ a t, s = a :: t ∧ isNameStart a = true := by
  cases s with
  | nil => cases h
  | cons a s =>
    rw [isWord, Bool.and_eq_true] at h
    exact ⟨a, s, rfl, h.1⟩

namespace Scan

/-- A scanner takes a text up to some rest, and what it gives has a property. -/
def Takes {α : Type} (m : Scan α) (s : List Char) (P : α → Prop) (rest : List Char) : Prop :=
  ∀ place, ∃ a place', m ⟨s, place⟩ = .ok (a, ⟨rest, place'⟩) ∧ P a

variable {α β : Type} {s rest : List Char}

/-- What a first scanner leaves is taken by a second. -/
lemma Takes.bind {m : Scan α} {f : α → Scan β} {P : α → Prop} {Q : β → Prop} {t : List Char}
    (first : Takes m s P t) (second : ∀ a, P a → Takes (f a) t Q rest) :
    Takes (m >>= f) s Q rest := by
  intro place
  obtain ⟨a, place', taken, holds⟩ := first place
  obtain ⟨b, place'', taken', holds'⟩ := second a holds place'
  refine ⟨b, place'', ?_, holds'⟩
  simp only [Bind.bind, taken]
  exact taken'

/-- To give a value takes nothing. -/
lemma takes_pure {a : α} {P : α → Prop} (h : P a) : Takes (pure a) s P s :=
  fun place => ⟨a, place, rfl, h⟩

/-- To look where one is takes nothing. -/
lemma takes_here : Takes here s (fun _ => True) s :=
  fun place => ⟨place, place, rfl, trivial⟩

/-- To look ahead takes nothing and gives the text. -/
lemma takes_ahead : Takes ahead s (· = s) s :=
  fun place => ⟨s, place, rfl, rfl⟩

/-- To look at the next character takes nothing and gives it. -/
lemma takes_peek {c : Char} : Takes peek (c :: s) (· = c) (c :: s) :=
  fun place => ⟨c, place, rfl, rfl⟩

/-- What is right is not refused. -/
lemma takes_refuse {wrong : Bool} (right : wrong = false) (fault : Place → Fault) :
    Takes (refuse wrong fault) s (fun _ => True) s := by
  subst right
  exact fun place => ⟨(), place, rfl, trivial⟩

/-- A character that is due is taken. -/
lemma takes_char (c : Char) : Takes (char c) (c :: rest) (fun _ => True) rest := by
  intro place
  simp only [char, if_true]
  exact ⟨_, _, rfl, trivial⟩

/-- A literal that is due is taken. -/
lemma takes_literal (due : String) :
    Takes (literal due) (due.toList ++ rest) (fun _ => True) rest := by
  intro place
  have lead : due.toList.isPrefixOf (due.toList ++ rest) = true :=
    List.isPrefixOf_iff_prefix.mpr (List.prefix_append _ _)
  simp only [literal, lead, if_true, Cursor.skip, List.drop_left]
  exact ⟨_, _, rfl, trivial⟩

/-- A run in front of something else is taken whole. -/
lemma takes_run {p : Char → Bool} (all : ∀ c ∈ s, p c = true)
    (stop : ∀ c ∈ rest.head?, p c = false) : Takes (run p) (s ++ rest) (· = s) rest := by
  intro place
  simp only [run, Text.takeWhile_append all stop, Cursor.skip, List.drop_left]
  exact ⟨_, _, rfl, rfl⟩

/-- Space in front of something else is taken whole. -/
lemma takes_spaces (space : ∀ c ∈ s, Text.isSpace c = true)
    (stop : ∀ c ∈ rest.head?, Text.isSpace c = false) :
    Takes spaces (s ++ rest) (fun _ => True) rest :=
  (takes_run space stop).bind fun _ _ => takes_pure trivial

/-- Where there is no space, none is taken. -/
lemma takes_no_spaces (stop : ∀ c ∈ rest.head?, Text.isSpace c = false) :
    Takes spaces rest (fun _ => True) rest :=
  takes_spaces (s := []) (by simp) stop

/-- A quotation mark is taken and given. -/
lemma takes_quote : Takes quote ('"' :: rest) (· = '"') rest := by
  intro place
  simp only [quote, true_or, if_true]
  exact ⟨_, _, rfl, rfl⟩

/-- An equals sign is taken. -/
lemma takes_equals (stop : ∀ c ∈ rest.head?, Text.isSpace c = false) :
    Takes equals ('=' :: rest) (fun _ => True) rest := by
  refine (takes_no_spaces fun c mem => ?_).bind fun _ _ =>
    (takes_char '=').bind fun _ _ => takes_no_spaces stop
  cases mem
  decide

/-- Up to a stop, the characters are counted. -/
lemma measure_append {stop : List Char → Bool} (held : ∀ c ∈ s, isXmlChar c = true)
    (inside : ∀ c ∈ s, ∀ t, stop (c :: t) = false)
    (ends : ∀ c ∈ rest.head?, isXmlChar c = true ∧ stop rest = true) (n : Nat) :
    measure stop n (s ++ rest) = .ok (n + s.length) := by
  induction s generalizing n with
  | nil =>
    cases rest with
    | nil => rfl
    | cons a t =>
      obtain ⟨xml, stops⟩ := ends a rfl
      simp [measure, xml, stops]
  | cons a s ih =>
    have xml := held a (.head _)
    have goes := inside a (.head _)
    rw [List.cons_append, measure]
    simp only [xml, goes, Bool.not_true, Bool.false_eq_true, if_false]
    rw [ih (fun c mem => held c (.tail _ mem)) fun c mem => inside c (.tail _ mem)]
    simp only [List.length_cons, Nat.add_assoc, Nat.add_comm 1]

/-- The text up to a stop is taken and given. -/
lemma takes_upTo {stop : List Char → Bool} (held : ∀ c ∈ s, isXmlChar c = true)
    (inside : ∀ c ∈ s, ∀ t, stop (c :: t) = false)
    (ends : ∀ c ∈ rest.head?, isXmlChar c = true ∧ stop rest = true) :
    Takes (upTo stop) (s ++ rest) (· = s) rest := by
  intro place
  simp only [upTo, measure_append held inside ends, Nat.zero_add, Cursor.skip, List.take_left,
    List.drop_left]
  exact ⟨_, _, rfl, rfl⟩

/-! ## Tokens -/

/-- A name without a colon is taken up to the first character that is not of a name. -/
lemma takes_word (word : isWord s = true) (stop : ∀ c ∈ rest.head?, isNameChar c = false) :
    Takes qualified (s ++ rest) (· = ⟨"", String.ofList s⟩) rest := by
  intro place
  have chars := isNameChar_of_isWord word
  have found := Text.takeWhile_append (fun c mem => (chars c mem).1) stop
  have colon : ':' ∉ s := fun mem => (chars ':' mem).2 rfl
  obtain ⟨a, t, rfl, start⟩ := isNameStart_of_isWord word
  have well : startsWell [] (a :: t) = true := by simp [startsWell, start]
  simp only [qualified, found, splitName, Text.cutAt_eq_none colon, well, if_true, Cursor.skip,
    List.drop_left]
  exact ⟨_, _, rfl, rfl⟩

/-- A name with a prefix is taken and given in its parts. -/
lemma takes_prefixed {q : List Char} (qualifier : isWord q = true) (word : isWord s = true)
    (stop : ∀ c ∈ rest.head?, isNameChar c = false) :
    Takes qualified (q ++ ':' :: s ++ rest) (· = ⟨String.ofList q, String.ofList s⟩) rest := by
  intro place
  have before := isNameChar_of_isWord qualifier
  have behind := isNameChar_of_isWord word
  have chars : ∀ c ∈ q ++ ':' :: s, isNameChar c = true := by
    intro c mem
    obtain mem | mem := List.mem_append.mp mem
    · exact (before c mem).1
    · obtain rfl | mem := List.mem_cons.mp mem
      · decide
      · exact (behind c mem).1
  have found := Text.takeWhile_append chars stop
  have colon : ':' ∉ q := fun mem => (before ':' mem).2 rfl
  have colon' : ':' ∉ s := fun mem => (behind ':' mem).2 rfl
  obtain ⟨a, t, rfl, start⟩ := isNameStart_of_isWord qualifier
  obtain ⟨b, u, rfl, start'⟩ := isNameStart_of_isWord word
  have well : startsWell (a :: t) (b :: u) = true := by simp [startsWell, start, start']
  simp only [qualified, found, splitName, Text.cutAt_append colon, colon', if_false, well, if_true,
    Cursor.skip, List.drop_left]
  exact ⟨_, _, rfl, rfl⟩

/-- An attribute in quotation marks is taken and given with its value. -/
lemma takes_attr {name value : List Char} {n : QName}
    (named : Takes qualified (name ++ '=' :: '"' :: (value ++ '"' :: rest)) (· = n)
      ('=' :: '"' :: (value ++ '"' :: rest)))
    (held : ∀ c ∈ value, isXmlChar c = true) (plain : '"' ∉ value ∧ '<' ∉ value) :
    Takes attr (name ++ '=' :: '"' :: (value ++ '"' :: rest))
      (fun token => ∃ place place', token = .attr n ⟨value, place⟩ place') rest := by
  refine takes_here.bind fun place _ => named.bind fun n' same => ?_
  refine (takes_equals fun c mem => ?_).bind fun _ _ => takes_quote.bind fun q quoted => ?_
  · cases mem
    decide
  subst same quoted
  refine takes_here.bind fun place' _ => Takes.bind (takes_upTo held ?_ ?_) fun v same => ?_
  · intro c mem t
    have double : c ≠ '"' := fun same => plain.1 (same ▸ mem)
    have bracket : c ≠ '<' := fun same => plain.2 (same ▸ mem)
    simp [double, bracket]
  · intro c mem
    cases mem
    exact ⟨by decide, by simp⟩
  · subst same
    exact (takes_char '"').bind fun _ _ => takes_pure ⟨place', place, rfl⟩

end Scan

end XsdInfer.Strict
