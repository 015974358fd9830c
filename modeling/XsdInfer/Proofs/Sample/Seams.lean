import Mathlib.Data.List.DropRight
import XsdInfer.Proofs.Sample.Filling
import XsdInfer.Proofs.Text.Cut

/-!
# Seams between runs of data

Runs of character data are trimmed one by one, and set behind one another with a space. This makes the
text that all of the data makes in one run just if between any two runs with something in them the
blanks come to one space (`Seamless`, `textOfRuns_eq_iff`). So the text of an element depends on where
its data is cut, and so does a draft (`Draft.foldlM_addText_iff`).
-/

namespace XsdInfer

namespace Text

variable {s t : List Char} {p : Char → Bool}

/-- The blanks in front of a text. -/
def leading (s : List Char) : List Char :=
  s.takeWhile isBlank

/-- The blanks behind a text. Those of a blank text are all in front of it. -/
def trailing (s : List Char) : List Char :=
  ((s.dropWhile isBlank).reverse.takeWhile isBlank).reverse

/-- The characters at the front are blanks. -/
lemma isBlank_of_mem_leading {c : Char} (h : c ∈ leading s) : isBlank c = true :=
  List.all_eq_true.mp List.all_takeWhile c h

/-- The characters at the end are blanks. -/
lemma isBlank_of_mem_trailing {c : Char} (h : c ∈ trailing s) : isBlank c = true :=
  List.all_eq_true.mp List.all_takeWhile c (List.mem_reverse.mp h)

/-- A text is its trimmed form between its blanks. -/
lemma leading_trim_trailing (s : List Char) : leading s ++ trim s ++ trailing s = s := by
  rw [List.append_assoc, trim, dropLeading, trailing, dropTrailing_append]
  exact List.takeWhile_append_dropWhile

/-- A trimmed text does not begin with a blank. -/
lemma isBlank_eq_false_of_trim {c : Char} {u : List Char} (h : trim s = c :: u) :
    isBlank c = false := by
  have first := List.head?_dropWhile_not isBlank s
  rw [← dropTrailing_append isBlank (s.dropWhile isBlank)] at first
  rw [trim, dropLeading] at h
  rw [h] at first
  simpa using first

/-- A text from which nothing is dropped keeps all before what is dropped. -/
lemma dropTrailing_append_of_eq (h : dropTrailing p s = s) (t : List Char) :
    dropTrailing p (s ++ t) = s ++ dropTrailing p t := by
  induction t using List.reverseRecOn with
  | nil => rw [List.append_nil, h]; exact (List.append_nil s).symm
  | append_singleton t c ih =>
    rw [← List.append_assoc]
    cases here : p c with
    | true => rw [dropTrailing_concat_of_pos here, dropTrailing_concat_of_pos here, ih]
    | false =>
      rw [dropTrailing_concat_of_neg here, dropTrailing_concat_of_neg here, List.append_assoc]

/-- If something is kept of it, all before it is kept, too. -/
lemma append_of_dropTrailing_eq (h : dropTrailing p s = s) (some : s ≠ []) (front : List Char) :
    dropTrailing p (front ++ s) = front ++ s := by
  induction front with
  | nil => exact h
  | cons c front ih =>
    have kept : front ++ s ≠ [] := fun nil => some (List.append_eq_nil_iff.mp nil).2
    rw [List.cons_append, dropTrailing_cons, ih, if_neg fun both => kept both.1]

/-- A trimmed text has no blanks at its end. -/
lemma dropTrailing_trim (s : List Char) : dropTrailing isBlank (trim s) = trim s := by
  rw [trim, dropTrailing, dropTrailing, List.reverse_reverse, List.dropWhile_idempotent]

/-- Behind a text with something in it, the last blanks are dropped from what stands behind its trimmed
form. -/
lemma trim_append_of_visible (visible : trim s ≠ []) (t : List Char) :
    trim (s ++ t) = trim s ++ dropTrailing isBlank (trailing s ++ t) := by
  have split : s ++ t = leading s ++ (trim s ++ (trailing s ++ t)) := by
    nth_rewrite 1 [← leading_trim_trailing s]
    simp
  obtain ⟨c, u, eq⟩ := List.exists_cons_of_ne_nil visible
  have front : (trim s ++ (trailing s ++ t)).dropWhile isBlank = trim s ++ (trailing s ++ t) := by
    rw [eq, List.cons_append, List.dropWhile_cons_of_neg (by simp [isBlank_eq_false_of_trim eq])]
  rw [split, trim, dropLeading, List.dropWhile_append_of_pos fun c => isBlank_of_mem_leading, front,
    dropTrailing_append_of_eq (dropTrailing_trim s)]

/-- Blanks before the same visible character are the same. -/
lemma eq_of_append_visible {c : Char} {a b : List Char} (ha : ∀ d ∈ a, isBlank d = true)
    (hb : ∀ d ∈ b, isBlank d = true) (visible : isBlank c = false) (h : a ++ c :: s = b ++ c :: t) :
    a = b ∧ s = t := by
  have front (u : List Char) : ∀ d ∈ (c :: u).head?, isBlank d = false := by
    intro d mem
    obtain rfl : c = d := by simpa using mem
    exact visible
  obtain rfl : a = b := by
    rw [← takeWhile_append ha (front s), h, takeWhile_append hb (front t)]
  exact ⟨rfl, by simpa using h⟩

end Text

namespace Sample

open Text (isBlank leading trailing trim dropTrailing)

/-- Behind some blanks, the blanks before each run with something in it come to one space. -/
def SeamlessBehind (gap : List Char) : List (List Char) → Prop
  | [] => True
  | run :: runs =>
    if trim run = [] then SeamlessBehind (gap ++ run) runs
    else gap ++ leading run = [' '] ∧ SeamlessBehind (trailing run) runs

/-- Between any two runs with something in them the blanks come to one space. -/
def Seamless : List (List Char) → Prop
  | [] => True
  | run :: runs => if trim run = [] then Seamless runs else SeamlessBehind (trailing run) runs

instance decidableSeamlessBehind (gap : List Char) :
    (runs : List (List Char)) → Decidable (SeamlessBehind gap runs)
  | [] => .isTrue trivial
  | run :: runs =>
    have := decidableSeamlessBehind (gap ++ run) runs
    have := decidableSeamlessBehind (trailing run) runs
    inferInstanceAs (Decidable (if trim run = [] then SeamlessBehind (gap ++ run) runs
      else gap ++ leading run = [' '] ∧ SeamlessBehind (trailing run) runs))

instance decidableSeamless : (runs : List (List Char)) → Decidable (Seamless runs)
  | [] => .isTrue trivial
  | run :: runs =>
    have := decidableSeamless runs
    inferInstanceAs (Decidable (if trim run = [] then Seamless runs
      else SeamlessBehind (trailing run) runs))

variable {runs : List (List Char)} {run gap : List Char}

/-! ## Joined runs -/

/-- A run is joined before the others. -/
lemma joined_cons (run : List Char) (runs : List (List Char)) :
    joined (run :: runs) = joined [run] ++ joined runs :=
  joined_append [run] runs

/-- Behind some blanks, runs are joined to all that comes before the last blanks just if they are
seamless. -/
lemma dropTrailing_flatten_iff (blank : ∀ c ∈ gap, isBlank c = true) :
    dropTrailing isBlank (gap ++ runs.flatten) = joined runs ↔ SeamlessBehind gap runs := by
  -- The blanks in front grow by every run that is blank, and are those at the end of a visible run
  -- otherwise.
  induction runs generalizing gap with
  | nil =>
    have gone : dropTrailing isBlank gap = [] := by
      rw [← List.nil_append gap, Text.dropTrailing_append_of_pos blank]
      rfl
    rw [List.flatten_nil, List.append_nil, gone]
    exact iff_of_true rfl trivial
  | cons run runs ih =>
    rw [List.flatten_cons, joined_cons, joined_singleton, SeamlessBehind]
    by_cases none : trim run = []
    · have longer : ∀ c ∈ gap ++ run, isBlank c = true := fun c mem =>
        (List.mem_append.mp mem).elim (blank c) (Text.trim_eq_nil_iff.mp none c)
      rw [if_pos none, if_pos none, ← List.append_assoc]
      exact ih longer
    · have front : ∀ c ∈ gap ++ leading run, isBlank c = true := fun c mem =>
        (List.mem_append.mp mem).elim (blank c) Text.isBlank_of_mem_leading
      have blanks : ∀ c ∈ trailing run, isBlank c = true := fun c => Text.isBlank_of_mem_trailing
      have rest := ih blanks
      have split : gap ++ (run ++ runs.flatten) =
          gap ++ leading run ++ trim run ++ (trailing run ++ runs.flatten) := by
        nth_rewrite 1 [← Text.leading_trim_trailing run]
        simp
      have kept := Text.append_of_dropTrailing_eq (Text.dropTrailing_trim run) none (gap ++ leading run)
      obtain ⟨c, u, visible⟩ := List.exists_cons_of_ne_nil none
      rw [if_neg none, if_neg none, split, Text.dropTrailing_append_of_eq kept, ← rest, visible,
        List.append_assoc]
      constructor
      · intro same
        obtain ⟨one, more⟩ := Text.eq_of_append_visible (b := [' ']) front (by decide)
          (Text.isBlank_eq_false_of_trim visible) same
        exact ⟨one, List.append_cancel_left more⟩
      · rintro ⟨one, more⟩
        rw [one, more]
        rfl

/-- Runs are joined to what all of their data is joined to just if they are seamless. -/
lemma joined_flatten_iff : joined runs = joined [runs.flatten] ↔ Seamless runs := by
  induction runs with
  | nil => exact iff_of_true rfl trivial
  | cons run runs ih =>
    rw [Seamless, joined_cons, List.flatten_cons, joined_singleton]
    by_cases none : trim run = []
    · have same : trim (run ++ runs.flatten) = trim runs.flatten := by
        have around := Text.trim_append (Text.trim_eq_nil_iff.mp none)
          (fun c mem => absurd mem List.not_mem_nil) runs.flatten
        rwa [List.append_nil] at around
      rw [if_pos none, if_pos none, joined_singleton, same, ← joined_singleton]
      exact ih
    · have split := Text.trim_append_of_visible none runs.flatten
      have some : trim (run ++ runs.flatten) ≠ [] := by
        rw [split]
        exact fun nil => none (List.append_eq_nil_iff.mp nil).1
      rw [if_neg none, if_neg none, joined_singleton, if_neg some, split,
        ← dropTrailing_flatten_iff fun c => Text.isBlank_of_mem_trailing]
      simp [eq_comm]

/-- Blank runs have no seam. -/
lemma seamless_of_blank (blank : ∀ run ∈ runs, ∀ c ∈ run, isBlank c = true) : Seamless runs := by
  induction runs with
  | nil => trivial
  | cons run runs ih =>
    rw [Seamless, if_pos (Text.trim_eq_nil_iff.mpr (blank run (.head _)))]
    exact ih fun run mem => blank run (.tail _ mem)

/-! ## Texts and drafts -/

/-- Joined runs are nothing or start with a space. -/
lemma joined_cases (runs : List (List Char)) :
    joined runs = [] ∨ ∃ text, joined runs = ' ' :: text := by
  unfold joined
  cases (runs.map trim).filter (!·.isEmpty) with
  | nil => exact .inl rfl
  | cons run more => exact .inr ⟨run ++ more.flatMap (' ' :: ·), by simp⟩

/-- A text as it would be joined with others. -/
def spaced (text : Option String) : List Char :=
  text.elim [] (' ' :: ·.toList)

/-- A text is told from what it is when it is joined with others. -/
lemma spaced_injective : Function.Injective spaced := by
  intro a b same
  cases a <;> cases b <;> simp_all [spaced, ← String.toList_inj]

/-- Runs are put behind a text as they are joined. -/
lemma spaced_textWith (text : Option String) (runs : List (List Char)) :
    spaced (textWith text (joined runs)) = spaced text ++ joined runs := by
  obtain nil | ⟨s, cons⟩ := joined_cases runs
  · rw [nil, textWith, List.append_nil]
  · rw [cons]
    cases text <;> simp [spaced, textWith]

/-- Runs that make the same of a text are joined alike. -/
lemma joined_eq_of_textWith {text : Option String} {a b : List (List Char)}
    (h : textWith text (joined a) = textWith text (joined b)) : joined a = joined b := by
  have same := congrArg spaced h
  rw [spaced_textWith, spaced_textWith] at same
  exact List.append_cancel_left same

/-- Texts of which some runs make the same are the same. -/
lemma eq_of_textWith {t u : Option String} {runs : List (List Char)}
    (h : textWith t (joined runs) = textWith u (joined runs)) : t = u := by
  have same := congrArg spaced h
  rw [spaced_textWith, spaced_textWith] at same
  exact spaced_injective (List.append_cancel_right same)

/-- The text of data that comes in one run: it is trimmed, and there is none if the data is blank. -/
def textOfData (data : List Char) : Option String :=
  if trim data = [] then none else some (String.ofList (trim data))

/-- One run makes the text of its data. -/
lemma textOfRuns_singleton (data : List Char) : textOfRuns [data] = textOfData data := by
  rw [textOfRuns_eq, joined_singleton, textOfData]
  split <;> rfl

/-- The text of some runs is that of all of their data in one run just if they are seamless. -/
theorem textOfRuns_eq_iff : textOfRuns runs = textOfData runs.flatten ↔ Seamless runs := by
  rw [← textOfRuns_singleton, textOfRuns_eq, textOfRuns_eq, ← joined_flatten_iff]
  exact ⟨joined_eq_of_textWith, congrArg _⟩

/-- Runs add up to what they are in a row if they have no seam. -/
lemma Frame.foldl_addText_iff {f : Frame} :
    runs.foldl addText f = f.addText runs.flatten ↔ Seamless runs := by
  rw [foldl_addText_eq, addText, appendText_eq, ← joined_flatten_iff]
  constructor
  · intro same
    have texts := congrArg (fun f => f.element.text) same
    exact joined_eq_of_textWith texts
  · intro same
    rw [same]

/-- A draft takes up some runs as it takes up all of their data in one run just if they are seamless. -/
theorem Draft.foldlM_addText_iff {d d' : Draft} (added : d.addText runs.flatten = .ok d') :
    runs.foldlM addText d = .ok d' ↔ Seamless runs := by
  obtain ⟨stack, root⟩ := d
  cases stack with
  | cons f stack =>
    cases added
    rw [Frame.foldlM_addText, ← Frame.foldl_addText_iff (f := f)]
    simp [Frame.addText]
  | nil =>
    by_cases blank : runs.flatten.all isBlank = true
    · simp only [addText, blank, if_true] at added
      cases added
      have each : ∀ run ∈ runs, ∀ c ∈ run, isBlank c = true := fun run mem c inside =>
        List.all_eq_true.mp blank c (List.mem_flatten_of_mem mem inside)
      exact iff_of_true (foldlM_addText_of_blank each _) (seamless_of_blank each)
    · simp only [addText, blank] at added
      cases added

/-- One space fits between two runs, but none and two do not; blank runs at an end do not count. -/
example : Seamless ["a".toList, " b".toList] ∧ Seamless ["a ".toList, [], " ".toList] ∧
    ¬Seamless ["a".toList, "b".toList] ∧ ¬Seamless ["a ".toList, " b".toList] := by decide

end Sample

end XsdInfer
