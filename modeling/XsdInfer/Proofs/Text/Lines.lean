import XsdInfer.Proofs.Text.Cut
import XsdInfer.Proofs.Text.Trim
import XsdInfer.Text.Location

/-!
# Texts with the same lines

A line ends with a line feed, or with a carriage return and a line feed. Two texts have the same lines
if the second one is the first one with a carriage return before some of its line feeds (`SameLines`).
What cuts one of them at other characters, or at both of these alike, cuts the other one into texts with
the same lines; and a part of one of them without a line feed stands unchanged in the other.
-/

namespace XsdInfer.Text

/-- The second text is the first one with a carriage return before some of its line feeds. -/
inductive SameLines : List Char → List Char → Prop where
  | nil :
    SameLines [] []
  | char {c : Char} {s t : List Char} :
    SameLines s t →
    SameLines (c :: s) (c :: t)
  | feed {s t : List Char} :
    SameLines s t →
    SameLines ('\n' :: s) ('\r' :: '\n' :: t)

/-- A text with a carriage return before each line feed. -/
def withReturns (s : List Char) : List Char :=
  s.flatMap fun c => if c = '\n' then ['\r', '\n'] else [c]

namespace SameLines

variable {s t u v : List Char} {p : Char → Bool}

/-- A text has its own lines. -/
lemma refl (s : List Char) : SameLines s s := by
  induction s with
  | nil => exact .nil
  | cons c s ih => exact .char ih

/-- A text has the same lines with returns. -/
lemma withReturns (s : List Char) : SameLines s (withReturns s) := by
  induction s with
  | nil => exact .nil
  | cons c s ih =>
    rw [Text.withReturns, List.flatMap_cons]
    split
    next feed =>
      subst feed
      exact .feed ih
    next => exact .char ih

/-- Texts in a row have the same lines if each of them has. -/
lemma append (h : SameLines s t) (h' : SameLines u v) : SameLines (s ++ u) (t ++ v) := by
  induction h with
  | nil => exact h'
  | char _ ih => exact .char ih
  | feed _ ih => exact .feed ih

/-- Returns make a text longer, if anything. -/
lemma length_le (h : SameLines s t) : s.length ≤ t.length := by
  induction h with
  | nil => exact Nat.le_refl _
  | char _ ih => exact Nat.succ_le_succ ih
  | feed _ ih => exact Nat.succ_le_succ (Nat.le_succ_of_le ih)

/-- Returns make a text take more bytes, if anything. -/
lemma width_le (h : SameLines s t) : width s ≤ width t := by
  induction h with
  | nil => exact Nat.le_refl _
  | char _ ih => exact Nat.add_le_add_left ih _
  | feed _ ih =>
    simp only [width_cons]
    omega

/-- Only the empty text has the lines of the empty text. -/
lemma eq_nil_iff (h : SameLines s t) : s = [] ↔ t = [] := by
  cases h with
  | nil => exact .rfl
  | char => exact iff_of_false nofun nofun
  | feed => exact iff_of_false nofun nofun

/-! ## Parts -/

/-- A text without line feeds stays as it is. -/
lemma eq_of_left (h : SameLines s t) (plain : '\n' ∉ s) : t = s := by
  induction h with
  | nil => rfl
  | char _ ih => rw [ih fun mem => plain (.tail _ mem)]
  | feed => exact absurd (.head _) plain

/-- So does a text where no carriage return stands in the end. -/
lemma eq_of_right (h : SameLines s t) (plain : '\r' ∉ t) : t = s := by
  induction h with
  | nil => rfl
  | char _ ih => rw [ih fun mem => plain (.tail _ mem)]
  | feed => exact absurd (.head _) plain

/-- An inner character at the front is at the front of the other text too. -/
lemma exists_cons {c : Char} (h : SameLines (c :: s) t) (other : c ≠ '\n') :
    ∃ t', t = c :: t' ∧ SameLines s t' := by
  cases h with
  | char rest => exact ⟨_, rfl, rest⟩
  | feed => exact absurd rfl other

/-- A front of the first text has the same lines as a front of the second one. -/
lemma split_left (h : SameLines (s ++ u) t) :
    ∃ s' u', t = s' ++ u' ∧ SameLines s s' ∧ SameLines u u' := by
  induction s generalizing t with
  | nil => exact ⟨[], t, rfl, .nil, h⟩
  | cons c s ih =>
    cases h with
    | char rest =>
      obtain ⟨s', u', rfl, front, behind⟩ := ih rest
      exact ⟨c :: s', u', rfl, .char front, behind⟩
    | feed rest =>
      obtain ⟨s', u', rfl, front, behind⟩ := ih rest
      exact ⟨'\r' :: '\n' :: s', u', rfl, .feed front, behind⟩

/-- A front without line feeds stays as it is. -/
lemma split_plain (h : SameLines (s ++ u) t) (plain : '\n' ∉ s) :
    ∃ u', t = s ++ u' ∧ SameLines u u' := by
  obtain ⟨s', u', rfl, front, behind⟩ := h.split_left
  exact ⟨u', by rw [front.eq_of_left plain], behind⟩

/-- A character that ends no line. -/
def Inner (c : Char) : Prop :=
  c ≠ '\n' ∧ c ≠ '\r'

instance (c : Char) : Decidable (Inner c) :=
  inferInstanceAs (Decidable (_ ∧ _))

/-- What stands in the second text around a character inside of a line has the same lines as what stands
around it in the first one. -/
lemma split_right {c : Char} (inner : Inner c) (h : SameLines s (t ++ c :: v)) :
    ∃ s' u, s = s' ++ c :: u ∧ SameLines s' t ∧ SameLines u v := by
  generalize whole : t ++ c :: v = w at h
  induction h generalizing t with
  | nil => simp at whole
  | @char a s w h ih =>
    cases t with
    | nil =>
      obtain ⟨rfl, rfl⟩ := List.cons.inj whole
      exact ⟨[], s, rfl, .nil, h⟩
    | cons b t =>
      obtain ⟨rfl, rest⟩ := List.cons.inj whole
      obtain ⟨s', u, rfl, front, behind⟩ := ih rest
      exact ⟨b :: s', u, rfl, .char front, behind⟩
  | @feed s w h ih =>
    match t with
    | [] => exact absurd (List.cons.inj whole).1 inner.2
    | [_] => exact absurd (List.cons.inj (List.cons.inj whole).2).1 inner.1
    | a :: b :: t =>
      simp only [List.cons_append, List.cons.injEq] at whole
      obtain ⟨rfl, rfl, inside⟩ := whole
      obtain ⟨s', u, rfl, front, behind⟩ := ih inside
      exact ⟨'\n' :: s', u, rfl, .feed front, behind⟩

/-- So do the texts before a part without line ends at the end. -/
lemma split_right_plain {w : List Char} (inner : ∀ c ∈ w, Inner c) (h : SameLines s (t ++ w)) :
    ∃ s', s = s' ++ w ∧ SameLines s' t := by
  cases w with
  | nil => exact ⟨s, by simp, by simpa using h⟩
  | cons c w =>
    obtain ⟨first, rest⟩ := List.forall_mem_cons.mp inner
    obtain ⟨s', u, rfl, front, behind⟩ := h.split_right first
    rw [behind.eq_of_right fun mem => (rest _ mem).2 rfl]
    exact ⟨s', rfl, front⟩

/-- A front of the second text without line ends is a front of the first one. -/
lemma split_right_front {w : List Char} (inner : ∀ c ∈ w, Inner c) (h : SameLines s (w ++ v)) :
    ∃ u, s = w ++ u ∧ SameLines u v := by
  induction w generalizing s with
  | nil => exact ⟨s, rfl, h⟩
  | cons c w ih =>
    obtain ⟨first, others⟩ := List.forall_mem_cons.mp inner
    obtain ⟨s', u, rfl, none, rest⟩ := split_right (t := []) first h
    cases none
    obtain ⟨u, rfl, behind⟩ := ih others rest
    exact ⟨u, rfl, behind⟩

/-- An inner character is in both texts or in neither. -/
lemma mem_iff {c : Char} (inner : Inner c) (h : SameLines s t) : c ∈ s ↔ c ∈ t := by
  induction h with
  | nil => exact .rfl
  | char _ ih => rw [List.mem_cons, List.mem_cons, ih]
  | feed _ ih => simp [inner.1, inner.2, ih]

/-- An inner character is as often in one text as in the other. -/
lemma count_eq {c : Char} (inner : Inner c) (h : SameLines s t) : s.count c = t.count c := by
  induction h with
  | nil => rfl
  | char _ ih => rw [List.count_cons, List.count_cons, ih]
  | feed _ ih =>
    have feed : ('\n' == c) = false := by simpa using inner.1.symm
    have back : ('\r' == c) = false := by simpa using inner.2.symm
    simp [List.count_cons, ih, feed, back]

/-- An inner character is the first one of both texts or of neither. -/
lemma head?_iff {c : Char} (inner : Inner c) (h : SameLines s t) :
    s.head? = some c ↔ t.head? = some c := by
  cases h with
  | nil => exact .rfl
  | char _ => exact .rfl
  | feed _ => simp [inner.1.symm, inner.2.symm]

/-- An inner character is the last one of both texts or of neither. -/
lemma getLast?_iff {c : Char} (inner : Inner c) (h : SameLines s t) :
    s.getLast? = some c ↔ t.getLast? = some c := by
  constructor
  · intro last
    obtain ⟨s, rfl⟩ := List.getLast?_eq_some_iff.mp last
    obtain ⟨s', u', rfl, -, behind⟩ := h.split_left
    obtain rfl := behind.eq_of_left (by simpa using inner.1.symm)
    exact List.getLast?_concat
  · intro last
    obtain ⟨t, rfl⟩ := List.getLast?_eq_some_iff.mp last
    obtain ⟨s', u, rfl, -, behind⟩ := h.split_right inner
    cases behind
    exact List.getLast?_concat

/-! ## Marks inside of lines -/

/-- A word of inner characters starts both texts or neither. -/
lemma isPrefixOf_eq {w : List Char} (inner : ∀ c ∈ w, Inner c) (h : SameLines s t) :
    w.isPrefixOf s = w.isPrefixOf t := by
  rw [Bool.eq_iff_iff, List.isPrefixOf_iff_prefix, List.isPrefixOf_iff_prefix]
  constructor
  · rintro ⟨u, rfl⟩
    obtain ⟨u', rfl, -⟩ := h.split_plain fun mem => (inner _ mem).1 rfl
    exact ⟨u', rfl⟩
  · rintro ⟨v, rfl⟩
    obtain ⟨u, rfl, -⟩ := h.split_right_front inner
    exact ⟨u, rfl⟩

/-- What stands at the start of a line in one of the texts does so in the other one. -/
lemma occurs_feed_eq {w : List Char} (inner : ∀ c ∈ w, Inner c) (h : SameLines s t) :
    occurs ('\n' :: w) s = occurs ('\n' :: w) t := by
  induction h with
  | nil => rfl
  | char h ih => simp [occurs, List.isPrefixOf, h.isPrefixOf_eq inner, ih]
  | feed h ih => simp [occurs, List.isPrefixOf, h.isPrefixOf_eq inner, ih]

/-- A word of inner characters occurs in both texts or in neither. -/
lemma occurs_eq {w : List Char} (inner : ∀ c ∈ w, Inner c) (h : SameLines s t) :
    occurs w s = occurs w t := by
  induction h with
  | nil => rfl
  | @char c s t h ih =>
    have same : SameLines (c :: s) (c :: t) := .char h
    rw [occurs, occurs, same.isPrefixOf_eq inner, ih]
  | feed h ih =>
    cases w with
    | nil => simp [occurs]
    | cons c w =>
      have first := (List.forall_mem_cons.mp inner).1
      have feed : (c == '\n') = false := beq_false_of_ne first.1
      have back : (c == '\r') = false := beq_false_of_ne first.2
      simp [occurs, List.isPrefixOf, feed, back, ih]

/-! ## Classes of characters -/

/-- Texts keep the same lines if their characters are changed but for line ends. -/
lemma map {f : Char → Char} (feed : f '\n' = '\n') (back : f '\r' = '\r') (h : SameLines s t) :
    SameLines (s.map f) (t.map f) := by
  induction h with
  | nil => exact .nil
  | char _ ih => exact .char ih
  | feed _ ih =>
    rw [List.map_cons, List.map_cons, List.map_cons, feed, back]
    exact .feed ih

section

-- A class of characters that tells the two characters at the end of a line not apart.
variable (alike : p '\n' = p '\r')

include alike

/-- The runs at the front of both texts have the same lines. -/
lemma takeWhile (h : SameLines s t) : SameLines (s.takeWhile p) (t.takeWhile p) := by
  induction h with
  | nil => exact .nil
  | @char c _ _ _ ih =>
    rw [List.takeWhile_cons, List.takeWhile_cons]
    split
    next => exact .char ih
    next => exact .nil
  | feed _ ih =>
    cases inside : p '\n' with
    | true => simpa [inside, ← alike] using .feed ih
    | false => simpa [inside, ← alike] using .nil

/-- What is left behind the runs has the same lines. -/
lemma dropWhile (h : SameLines s t) : SameLines (s.dropWhile p) (t.dropWhile p) := by
  induction h with
  | nil => exact .nil
  | @char c _ _ h ih =>
    rw [List.dropWhile_cons, List.dropWhile_cons]
    split
    next => exact ih
    next => exact .char h
  | feed h ih =>
    cases inside : p '\n' with
    | true => simpa [inside, ← alike] using ih
    | false => simpa [inside, ← alike] using .feed h

/-- A property of all characters holds of both texts or of neither. -/
lemma all_eq (h : SameLines s t) : s.all p = t.all p := by
  induction h with
  | nil => rfl
  | char _ ih => rw [List.all_cons, List.all_cons, ih]
  | feed _ ih => simp [ih, ← alike]

/-- What is left before the runs at the end has the same lines. -/
lemma dropTrailing (h : SameLines s t) : SameLines (dropTrailing p s) (dropTrailing p t) := by
  induction h with
  | nil => exact .nil
  | @char c s t _ ih =>
    rw [dropTrailing_cons, dropTrailing_cons]
    by_cases gone : Text.dropTrailing p s = [] ∧ p c = true
    · rw [if_pos gone, if_pos (by rwa [← ih.eq_nil_iff])]
      exact .nil
    · rw [if_neg gone, if_neg (by rwa [← ih.eq_nil_iff])]
      exact .char ih
  | feed _ ih =>
    simp only [dropTrailing_cons, ← ih.eq_nil_iff, ← alike]
    split
    next gone => simpa [gone.2] using .nil
    next => simpa using .feed ih

end

/-- Both texts have the same lines when trimmed. -/
lemma trim (h : SameLines s t) : SameLines (trim s) (trim t) :=
  (h.dropWhile (p := isBlank) (by decide)).dropTrailing (by decide)

/-! ## Cuts -/

/-- Texts that are cut at an inner mark have parts with the same lines. -/
lemma cutAt {mark : Char} {a b : List Char} (inner : Inner mark) (h : SameLines s t)
    (cut : cutAt mark s = some (a, b)) :
    ∃ a' b', Text.cutAt mark t = some (a', b') ∧ SameLines a a' ∧ SameLines b b' := by
  obtain ⟨rfl, none⟩ := eq_of_cutAt cut
  obtain ⟨a', u, rfl, front, rest⟩ := h.split_left
  obtain ⟨b', rfl, behind⟩ := rest.exists_cons inner.1
  exact ⟨a', b', cutAt_append (fun mem => none ((front.mem_iff inner).mpr mem)) b', front, behind⟩

/-- What stands before an inner mark and from there on has the same lines in both texts. -/
lemma upTo {mark : Char} (inner : Inner mark) (h : SameLines s t) :
    SameLines (upTo mark s).1 (upTo mark t).1 ∧ SameLines (upTo mark s).2 (upTo mark t).2 := by
  obtain none | ⟨a, b, none, rfl⟩ := upTo_cases mark s
  · have none' : mark ∉ t := fun mem => none ((h.mem_iff inner).mpr mem)
    rw [upTo_of_not_mem none, upTo_of_not_mem none']
    exact ⟨h, .nil⟩
  · obtain ⟨a', u, rfl, front, rest⟩ := h.split_left
    obtain ⟨b', rfl, behind⟩ := rest.exists_cons inner.1
    have none' : mark ∉ a' := fun mem => none ((front.mem_iff inner).mpr mem)
    rw [upTo_append none, upTo_append none']
    exact ⟨front, behind⟩

/-- Texts with the same lines are cut alike, if their fronts are complete alike. -/
lemma cut {mark : Char} {complete : List Char → Prop} {content rest : List Char} (inner : Inner mark)
    (h : SameLines s t) (cut : Cut mark complete s content rest)
    (alike : ∀ a b a', content = a ++ b → SameLines a a' → (complete a ↔ complete a')) :
    ∃ content' rest', Cut mark complete t content' rest' ∧ SameLines content content' ∧
      SameLines rest rest' := by
  obtain ⟨rfl, done, first⟩ := cut
  obtain ⟨content', u, rfl, front, marked⟩ := h.split_left
  obtain ⟨rest', rfl, behind⟩ := marked.exists_cons inner.1
  refine ⟨content', rest', ⟨rfl, ?_, fun a' b' eq done' => ?_⟩, front, behind⟩
  · exact (alike content [] content' (by simp) front).mp done
  · subst eq
    obtain ⟨a, b, rfl, front', -⟩ := front.split_right inner
    exact first a b rfl ((alike a _ a' rfl front').mpr done')

end SameLines

end XsdInfer.Text
