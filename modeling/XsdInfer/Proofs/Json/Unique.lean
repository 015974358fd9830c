import Mathlib.Data.List.Basic
import XsdInfer.Json.Value
import XsdInfer.Proofs.Name.Pool
import XsdInfer.Proofs.Text.Cut

/-!
# Values told from their texts

Main statement: two values with the same text are the same (`text_inj`). A value is even told from a text
that goes on behind it, as long as no digit comes next (`told_chars`): the first character tells what kind
of value it is (`exists_chars_eq_cons`), a string ends at the first quote that is not escaped, since no
character is written as the front of another one (`told_escapeChar`), and an array or object goes on for
as long as commas follow (`told_listed`).
-/

namespace XsdInfer.Json

open Name.Pool (isDigit_of_mem_toString toString_injective)

variable {α : Type} {depth : Nat} {r r' : List Char}

/-- A text that continues no number. -/
def Ends (r : List Char) : Prop :=
  ∀ c ∈ r.head?, c.isDigit = false

/-- What is written for `a` is written for nothing else, as far as what stands behind it allows. -/
def Told (entry : α → List Char) (a : α) : Prop :=
  ∀ {b : α} {r r' : List Char}, Ends r → Ends r' → entry a ++ r = entry b ++ r' → a = b ∧ r = r'

/-- What starts with anything but a digit continues no number. -/
lemma ends_cons {c : Char} (h : c.isDigit = false) (s : List Char) : Ends (c :: s) := by
  intro a mem
  obtain rfl : c = a := by simpa using mem
  exact h

/-! ## Strings -/

/-- The characters that are not written as they are: quote, backslash and controls. -/
def escaped : List Char :=
  '"' :: '\\' :: (List.range 32).map Char.ofNat

/-- A character that need not be escaped is written as it is. -/
lemma escapeChar_of_not_mem {c : Char} (h : c ∉ escaped) : escapeChar c = [c] := by
  have high : ¬ c.toNat < 32 := fun low => by
    have own : Char.ofNat c.toNat ∈ escaped :=
      .tail _ (.tail _ (List.mem_map_of_mem (List.mem_range.mpr low)))
    rw [Char.ofNat_toNat] at own
    exact h own
  have other {d : Char} (mem : d ∈ escaped) : c ≠ d := fun same => h (same ▸ mem)
  rw [escapeChar, if_neg (other (by decide)), if_neg (other (by decide)), if_neg (other (by decide)),
    if_neg (other (by decide)), if_neg (other (by decide)), if_neg (other (by decide)),
    if_neg (other (by decide)), if_neg (by omega), if_neg high]

/-- An escaped character starts with a backslash. -/
lemma head?_escapeChar : ∀ c ∈ escaped, (escapeChar c).head? = some '\\' := by
  decide +kernel

/-- A character is written as it is, or behind a backslash. -/
lemma escapeChar_cases (c : Char) :
    c ∉ escaped ∧ escapeChar c = [c] ∨ c ∈ escaped ∧ ∃ u, escapeChar c = '\\' :: u := by
  by_cases mem : c ∈ escaped
  · exact .inr ⟨mem, List.head?_eq_some_iff.mp (head?_escapeChar c mem)⟩
  · exact .inl ⟨mem, escapeChar_of_not_mem mem⟩

/-- No character is written as the front of another one. -/
lemma told_escapeChar {c d : Char} (h : escapeChar c ++ r = escapeChar d ++ r') : c = d ∧ r = r' := by
  have pairs : ∀ c ∈ escaped, ∀ d ∈ escaped, escapeChar c <+: escapeChar d → c = d := by
    decide +kernel
  obtain ⟨plain, own⟩ | ⟨mem, u, first⟩ := escapeChar_cases c <;>
    obtain ⟨plain', own'⟩ | ⟨mem', u', first'⟩ := escapeChar_cases d
  · simpa [own, own'] using h
  · rw [own, first'] at h
    obtain rfl := (List.cons.inj h).1
    exact absurd (by decide) plain
  · rw [own', first] at h
    obtain rfl := (List.cons.inj h).1
    exact absurd (by decide) plain'
  · have left : escapeChar c <+: escapeChar d ++ r' := ⟨r, h⟩
    have right : escapeChar d <+: escapeChar d ++ r' := ⟨r', rfl⟩
    have same : c = d := by
      obtain shorter | longer := List.prefix_or_prefix_of_prefix left right
      · exact pairs c mem d mem' shorter
      · exact (pairs d mem' c mem longer).symm
    subst same
    exact ⟨rfl, List.append_cancel_left h⟩

/-- No character is written with a quote in front. -/
lemma escapeChar_append_ne (c : Char) (s : List Char) : escapeChar c ++ s ≠ '"' :: r := by
  obtain ⟨plain, own⟩ | ⟨-, u, first⟩ := escapeChar_cases c
  · rw [own]
    intro quote
    obtain rfl := (List.cons.inj quote).1
    exact plain (.head _)
  · rw [first]
    intro quote
    exact absurd (List.cons.inj quote).1 (by decide)

/-- The characters of a string are told from what is written up to the quotation mark. -/
lemma told_body {s t : List Char} (h : s.flatMap escapeChar ++ '"' :: r = t.flatMap escapeChar ++ '"' :: r') :
    s = t ∧ r = r' := by
  induction s generalizing t with
  | nil =>
    cases t with
    | nil => exact ⟨rfl, (List.cons.inj h).2⟩
    | cons d t =>
      rw [List.flatMap_cons, List.append_assoc] at h
      exact absurd h.symm (escapeChar_append_ne d _)
  | cons c s ih =>
    rw [List.flatMap_cons, List.append_assoc] at h
    cases t with
    | nil => exact absurd h (escapeChar_append_ne c _)
    | cons d t =>
      rw [List.flatMap_cons, List.append_assoc] at h
      obtain ⟨rfl, rest⟩ := told_escapeChar h
      obtain ⟨rfl, behind⟩ := ih rest
      exact ⟨rfl, behind⟩

/-- A string is told from what is written in quotation marks. -/
lemma told_quote {s t : String} (h : quote s ++ r = quote t ++ r') : s = t ∧ r = r' := by
  have body : s.toList.flatMap escapeChar ++ '"' :: r = t.toList.flatMap escapeChar ++ '"' :: r' := by
    simpa [quote] using h
  obtain ⟨same, behind⟩ := told_body body
  exact ⟨String.toList_inj.mp same, behind⟩

/-! ## Numbers -/

/-- A number is told from its digits. -/
lemma told_toString (n : Nat) : Told (fun n : Nat => (toString n).toList) n := by
  intro m r r' ends ends' h
  have digits := congrArg (List.takeWhile Char.isDigit) h
  have behind := congrArg (List.dropWhile Char.isDigit) h
  rw [Text.takeWhile_append isDigit_of_mem_toString ends,
    Text.takeWhile_append isDigit_of_mem_toString ends'] at digits
  rw [Text.dropWhile_append isDigit_of_mem_toString ends,
    Text.dropWhile_append isDigit_of_mem_toString ends'] at behind
  exact ⟨toString_injective (String.toList_inj.mp digits), behind⟩

/-! ## Arrays and objects -/

/-- The text of a member of an object. -/
def memberText (depth : Nat) (m : String × Json) : List Char :=
  quote m.1 ++ ':' :: ' ' :: chars depth m.2

/-- The text of entries, each on a line of its own, with commas between them. -/
def listed (entry : α → List Char) (depth : Nat) : List α → List Char
  | [] => []
  | a :: rest => row depth ++ entry a ++ comma rest ++ listed entry depth rest

/-- The items of an array are written as a list of entries. -/
lemma itemChars_eq (items : List Json) : itemChars depth items = listed (chars depth) depth items := by
  induction items with
  | nil => rw [itemChars, listed]
  | cons j rest ih => rw [itemChars, listed, ih]

/-- The members of an object are written as a list of entries. -/
lemma memberChars_eq (members : List (String × Json)) :
    memberChars depth members = listed (memberText depth) depth members := by
  induction members with
  | nil => rw [memberChars, listed]
  | cons m rest ih =>
    obtain ⟨k, j⟩ := m
    rw [memberChars, listed, ih]
    simp [memberText]

variable {entry : α → List Char} {l l' : List α} {close : Char}

/-- What stands behind an entry: the other entries and the bracket that closes the list. -/
def behind (entry : α → List Char) (depth : Nat) (close : Char) (rest : List α) (r : List Char) :
    List Char :=
  comma rest ++ listed entry (depth + 1) rest ++ row depth ++ close :: r

/-- Behind the last entry comes the closing mark. -/
lemma behind_nil (entry : α → List Char) (depth : Nat) (close : Char) (r : List Char) :
    behind entry depth close [] r = row depth ++ close :: r := by
  simp [behind, comma, listed]

/-- Behind an entry come a comma and the next entry. -/
lemma behind_cons (entry : α → List Char) (depth : Nat) (close : Char) (a : α) (rest : List α)
    (r : List Char) : behind entry depth close (a :: rest) r =
      ',' :: (row (depth + 1) ++ (entry a ++ behind entry depth close rest r)) := by
  simp [behind, comma, listed]

/-- What stands behind an entry continues no number. -/
lemma ends_behind (entry : α → List Char) (depth : Nat) (close : Char) (rest : List α) (r : List Char) :
    Ends (behind entry depth close rest r) := by
  cases rest with
  | nil =>
    rw [behind_nil]
    exact ends_cons (by decide) _
  | cons a rest =>
    rw [behind_cons]
    exact ends_cons (by decide) _

/-- Where entries are told from what follows them, so are all that follow one of them. -/
lemma told_behind (told : ∀ a ∈ l, Told entry a)
    (h : behind entry depth close l r = behind entry depth close l' r') : l = l' ∧ r = r' := by
  -- One list ends with the closing mark where the other goes on with a comma, so that they have the same
  -- length.
  induction l generalizing l' with
  | nil =>
    cases l' with
    | nil =>
      rw [behind_nil, behind_nil] at h
      exact ⟨rfl, (List.cons.inj (List.append_cancel_left h)).2⟩
    | cons b l' =>
      rw [behind_nil, behind_cons] at h
      exact absurd (List.cons.inj h).1 (by decide)
  | cons a l ih =>
    rw [behind_cons] at h
    cases l' with
    | nil =>
      rw [behind_nil] at h
      exact absurd (List.cons.inj h).1 (by decide)
    | cons b l' =>
      obtain ⟨first, others⟩ := List.forall_mem_cons.mp told
      rw [behind_cons] at h
      obtain ⟨rfl, rest⟩ := first (ends_behind _ _ _ _ _)
        (ends_behind _ _ _ _ _) (List.append_cancel_left (List.cons.inj h).2)
      obtain ⟨rfl, more⟩ := ih others rest
      exact ⟨rfl, more⟩

/-- A list in brackets is told from what follows it, if its entries are. -/
lemma told_listed (told : ∀ a ∈ l, Told entry a) (bracket : close ≠ '\n')
    (h : listed entry (depth + 1) l ++ closing depth l ++ close :: r =
      listed entry (depth + 1) l' ++ closing depth l' ++ close :: r') : l = l' ∧ r = r' := by
  cases l with
  | nil =>
    cases l' with
    | nil => exact ⟨rfl, (List.cons.inj h).2⟩
    | cons b l' => exact absurd (List.cons.inj h).1 bracket
  | cons a l =>
    cases l' with
    | nil => exact absurd (List.cons.inj h).1.symm bracket
    | cons b l' =>
      -- With a comma in front, the whole list stands as if behind another entry.
      refine told_behind told (?_ : behind entry depth close (a :: l) r =
        behind entry depth close (b :: l') r')
      simpa [behind, comma, closing] using h

/-! ## Values -/

/-- What kind of value begins with a character. -/
def kindOf (c : Char) : Nat :=
  if c = 'n' then 0 else if c = 't' ∨ c = 'f' then 1 else if c = '"' then 2 else if c = '[' then 3
  else if c = '\x7b' then 4 else 5

/-- The kind of a value. -/
def kind : Json → Nat
  | null => 0
  | bool _ => 1
  | string _ => 2
  | array _ => 3
  | object _ => 4
  | number _ => 5

/-- The first character of a value tells its kind. -/
lemma exists_chars_eq_cons (depth : Nat) (j : Json) : ∃ c s, chars depth j = c :: s ∧ kindOf c = j.kind := by
  cases j with
  | null => exact ⟨'n', "ull".toList, by rw [chars]; decide, by decide⟩
  | bool b =>
    cases b with
    | true => exact ⟨'t', "rue".toList, by rw [chars]; decide, by rw [kind]; decide⟩
    | false => exact ⟨'f', "alse".toList, by rw [chars]; decide, by rw [kind]; decide⟩
  | string s => exact ⟨'"', _, by rw [chars, quote]; rfl, by rw [kind]; decide⟩
  | array items => exact ⟨'[', _, by rw [chars]; rfl, by rw [kind]; decide⟩
  | object members => exact ⟨'\x7b', _, by rw [chars]; rfl, by rw [kind]; decide⟩
  | number n =>
    cases digits : (toString n).toList with
    | nil =>
      rw [Nat.toString_eq_ofList_toDigits, String.toList_ofList] at digits
      exact absurd digits Nat.toDigits_ne_nil
    | cons c s =>
      have digit : c.isDigit = true := isDigit_of_mem_toString c (by rw [digits]; exact .head _)
      have other {d : Char} (letter : d.isDigit = false) : c ≠ d := by
        rintro rfl
        rw [digit] at letter
        cases letter
      refine ⟨c, s, by rw [chars, digits], ?_⟩
      rw [kind, kindOf, if_neg (other (by decide)),
        if_neg (not_or.mpr ⟨other (by decide), other (by decide)⟩), if_neg (other (by decide)),
        if_neg (other (by decide)), if_neg (other (by decide))]

/-- The kind of a value is told from its first character. -/
lemma kind_eq_of_append {j k : Json} (h : chars depth j ++ r = chars depth k ++ r') : j.kind = k.kind := by
  obtain ⟨c, s, first, kind⟩ := exists_chars_eq_cons depth j
  obtain ⟨c', s', first', kind'⟩ := exists_chars_eq_cons depth k
  rw [first, first'] at h
  rw [← kind, ← kind', (List.cons.inj h).1]

/-- The null value is told from what is written for it. -/
lemma told_null : Told (chars depth) null := by
  intro k r r' _ _ h
  have kinds := kind_eq_of_append h
  cases k <;> cases kinds
  exact ⟨rfl, List.append_cancel_left h⟩

/-- A truth value is told from what is written for it. -/
lemma told_bool (b : Bool) : Told (chars depth) (bool b) := by
  intro k r r' _ _ h
  have kinds := kind_eq_of_append h
  cases k <;> cases kinds
  next b' =>
    rw [chars, chars] at h
    cases b <;> cases b'
    · exact ⟨rfl, List.append_cancel_left h⟩
    · exact absurd (List.cons.inj h).1 (by decide)
    · exact absurd (List.cons.inj h).1 (by decide)
    · exact ⟨rfl, List.append_cancel_left h⟩

/-- A number is told from what is written for it. -/
lemma told_number (n : Nat) : Told (chars depth) (number n) := by
  intro k r r' ends ends' h
  have kinds := kind_eq_of_append h
  cases k <;> cases kinds
  next m =>
    rw [chars, chars] at h
    obtain ⟨rfl, rest⟩ := told_toString n ends ends' h
    exact ⟨rfl, rest⟩

/-- A string is told from what is written for it. -/
lemma told_string (s : String) : Told (chars depth) (string s) := by
  intro k r r' _ _ h
  have kinds := kind_eq_of_append h
  cases k <;> cases kinds
  next t =>
    rw [chars, chars] at h
    obtain ⟨rfl, rest⟩ := told_quote h
    exact ⟨rfl, rest⟩

/-- An array is told from what is written for it, if its items are. -/
lemma told_array {items : List Json} (told : ∀ i ∈ items, Told (chars (depth + 1)) i) :
    Told (chars depth) (array items) := by
  intro k r r' _ _ h
  have kinds := kind_eq_of_append h
  cases k <;> cases kinds
  next items' =>
    rw [chars, chars, itemChars_eq, itemChars_eq] at h
    have bracket : ']' ≠ '\n' := by decide
    obtain ⟨rfl, rest⟩ := told_listed told bracket (by simpa using h)
    exact ⟨rfl, rest⟩

/-- A member is told from what is written for it, if its value is. -/
lemma told_member {m : String × Json} (told : Told (chars depth) m.2) : Told (memberText depth) m := by
  intro m' r r' ends ends' h
  rw [memberText, memberText, List.append_assoc, List.append_assoc] at h
  obtain ⟨name, rest⟩ := told_quote h
  obtain ⟨value, rest⟩ := told ends ends' (List.cons.inj (List.cons.inj rest).2).2
  exact ⟨Prod.ext name value, rest⟩

/-- An object is told from what is written for it, if the values of its members are. -/
lemma told_object {members : List (String × Json)} (told : ∀ m ∈ members, Told (chars (depth + 1)) m.2) :
    Told (chars depth) (object members) := by
  intro k r r' _ _ h
  have kinds := kind_eq_of_append h
  cases k <;> cases kinds
  next members' =>
    rw [chars, chars, memberChars_eq, memberChars_eq] at h
    have bracket : '\x7d' ≠ '\n' := by decide
    obtain ⟨rfl, rest⟩ := told_listed (fun m mem => told_member (told m mem)) bracket (by simpa using h)
    exact ⟨rfl, rest⟩

/-- A value is told from what follows it, if that does not go on with a digit. -/
theorem told_chars (depth : Nat) : (j : Json) → Told (chars depth) j
  | null => told_null
  | bool b => told_bool b
  | number n => told_number n
  | string s => told_string s
  | array items => told_array fun i _ => told_chars (depth + 1) i
  | object members => told_object fun m _ => told_chars (depth + 1) m.2
termination_by j => sizeOf j
decreasing_by
  · have smaller := List.sizeOf_lt_of_mem ‹i ∈ items›
    simp only [array.sizeOf_spec]
    omega
  · have smaller := List.sizeOf_lt_of_mem ‹m ∈ members›
    obtain ⟨name, value⟩ := m
    simp only [object.sizeOf_spec, Prod.mk.sizeOf_spec] at smaller ⊢
    omega

/-- A value is told from its text. -/
theorem text_inj {j k : Json} : j.text = k.text ↔ j = k := by
  constructor
  · intro h
    have same : chars 0 j ++ [] = chars 0 k ++ [] := by
      rw [List.append_nil, List.append_nil]
      exact String.ofList_inj.mp h
    have ends : Ends [] := fun _ mem => nomatch mem
    exact (told_chars 0 j ends ends same).1
  · rintro rfl
    rfl

end XsdInfer.Json
