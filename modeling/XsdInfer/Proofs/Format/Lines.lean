import XsdInfer.Format
import XsdInfer.Proofs.Json.Lines

/-!
# Formats of texts with the same lines

Main statement: the format that a text seems to have does not depend on how its lines end
(`detect_withReturns`). Each format is looked for alike in texts with the same lines: its marks stand
inside of a line or at the start of one, what may go over the end of a line takes both of its characters
alike, and the lines themselves are the same but for a carriage return at the end (`SameLine`).
-/

namespace XsdInfer.Format

open Text (SameLines)
open Text.SameLines (Inner)

variable {s t : List Char}

/-- An inner character is in both texts or in neither. -/
lemma contains_of_sameLines {c : Char} (inner : Inner c) (h : SameLines s t) :
    s.contains c = t.contains c := by
  rw [Bool.eq_iff_iff, List.contains_iff_mem, List.contains_iff_mem]
  exact h.mem_iff inner

/-- An inner character is the first of both texts or of neither. -/
lemma head?_of_sameLines {c : Char} (inner : Inner c) (h : SameLines s t) :
    (s.head? == some c) = (t.head? == some c) := by
  rw [Bool.eq_iff_iff, beq_iff_eq, beq_iff_eq]
  exact h.head?_iff inner

/-- Marks of inner characters are in both texts or in neither. -/
lemma holdsAny_of_sameLines {marks : List String} (inner : ∀ m ∈ marks, ∀ c ∈ m.toList, Inner c)
    (h : SameLines s t) : holdsAny marks s = holdsAny marks t := by
  rw [holdsAny, holdsAny, Bool.eq_iff_iff, List.any_eq_true, List.any_eq_true]
  refine exists_congr fun m => and_congr_right fun mem => ?_
  rw [h.occurs_eq (inner m mem)]

/-! ## Markup and JSON -/

/-- The ends of lines do not matter to what looks like JSON. -/
lemma looksLikeJson_of_sameLines (h : SameLines s t) : looksLikeJson s = looksLikeJson t := by
  have between {first last : Char} (inner : Inner first) (inner' : Inner last) :
      isBetween first last s = isBetween first last t := by
    have ends : (s.getLast? == some last) = (t.getLast? == some last) := by
      rw [Bool.eq_iff_iff, beq_iff_eq, beq_iff_eq]
      exact h.getLast?_iff inner'
    rw [isBetween, isBetween, head?_of_sameLines inner h, ends]
  rw [looksLikeJson, looksLikeJson, Json.isValid_of_sameLines h, between (by decide) (by decide),
    between (by decide) (by decide)]

/-- The ends of lines do not matter to what looks like a schema. -/
lemma looksLikeXsd_of_sameLines (h : SameLines s t) : looksLikeXsd s = looksLikeXsd t := by
  rw [looksLikeXsd, looksLikeXsd, head?_of_sameLines (by decide) h, holdsAny_of_sameLines (by decide) h]

/-- The ends of lines do not matter to what looks like HTML. -/
lemma looksLikeHtml_of_sameLines (h : SameLines s t) : looksLikeHtml s = looksLikeHtml t :=
  holdsAny_of_sameLines (by decide) (h.map (by decide) (by decide))

/-- A tag does not start with anything but its bracket. -/
lemma holdsTag_cons_of_ne {c : Char} (other : c ≠ '<') (s : List Char) :
    holdsTag (c :: s) = holdsTag s := by
  rw [holdsTag]
  exact fun _ _ first _ => other first

/-- A tag is in both texts or in neither. -/
lemma holdsTag_of_sameLines (h : SameLines s t) : holdsTag s = holdsTag t := by
  induction h with
  | nil => rfl
  | @char c s t h ih =>
    by_cases bracket : c = '<'
    · subst bracket
      cases h with
      | nil => rfl
      | char h => rw [holdsTag, holdsTag, contains_of_sameLines (by decide) h, ih]
      | feed h =>
        rw [holdsTag, holdsTag, List.contains_cons, contains_of_sameLines (by decide) h, ih]
        rfl
    · rw [holdsTag_cons_of_ne bracket, holdsTag_cons_of_ne bracket, ih]
  | feed h ih =>
    rw [holdsTag_cons_of_ne (by decide), holdsTag_cons_of_ne (by decide),
      holdsTag_cons_of_ne (by decide), ih]

/-- The ends of lines do not matter to what looks like XML. -/
lemma looksLikeXml_of_sameLines (h : SameLines s t) : looksLikeXml s = looksLikeXml t := by
  rw [looksLikeXml, looksLikeXml, head?_of_sameLines (by decide) h, contains_of_sameLines (by decide) h,
    h.occurs_eq (by decide), h.occurs_eq (by decide), holdsTag_of_sameLines h]

/-! ## Lines -/

/-- The second line is the first one, perhaps with a carriage return at its end. -/
inductive SameLine (line : List Char) : List Char → Prop where
  | refl :
    SameLine line line
  | back :
    SameLine line (line ++ ['\r'])

/-- An inner character is in both lines or in neither. -/
lemma SameLine.contains_eq {c : Char} (inner : Inner c) {line line' : List Char}
    (h : SameLine line line') : line.contains c = line'.contains c := by
  cases h with
  | refl => rfl
  | back => rw [Bool.eq_iff_iff]; simp [inner.2]

/-- An inner character is as often in one line as in the other. -/
lemma SameLine.count_eq {c : Char} (inner : Inner c) {line line' : List Char}
    (h : SameLine line line') : line.count c = line'.count c := by
  cases h with
  | refl => rfl
  | back => simp [inner.2.symm]

/-- Two lines that differ in a return at the end are the same when trimmed. -/
lemma SameLine.trim_eq {line line' : List Char} (h : SameLine line line') :
    Text.trim line = Text.trim line' := by
  cases h with
  | refl => rfl
  | back =>
    have blank := Text.trim_append (a := []) (b := ['\r']) (by decide) (by decide) line
    rwa [List.nil_append, eq_comm] at blank

/-- A character that does not end a line belongs to it. -/
lemma linesFrom_cons_of_ne {c : Char} (other : c ≠ '\n') (line s : List Char) :
    linesFrom line (c :: s) = linesFrom (c :: line) s := by
  rw [linesFrom]
  exact fun first => other first

/-- What has been read of the line is the same; it may itself end with a carriage return, so that one of
the two before the line end is left. -/
lemma forall₂_linesFrom (h : SameLines s t) (line : List Char) :
    List.Forall₂ SameLine (linesFrom line s) (linesFrom line t) := by
  induction h generalizing line with
  | nil =>
    rw [linesFrom]
    split
    next => exact .nil
    next => exact .cons .refl .nil
  | @char c s t h ih =>
    by_cases ends : c = '\n'
    · subst ends
      exact .cons .refl (ih [])
    · rw [linesFrom_cons_of_ne ends, linesFrom_cons_of_ne ends]
      exact ih _
  | @feed s t h ih =>
    -- The carriage return is read as a part of the line, and dropped at its end.
    rw [linesFrom_cons_of_ne (c := '\r') (by decide)]
    refine .cons ?_ (ih [])
    unfold dropReturn
    split
    next => simpa using SameLine.back
    next => exact .refl

/-- The ends of lines do not matter to what looks like a table of values. -/
lemma looksLikeCsv_of_sameLines (h : SameLines s t) : looksLikeCsv s = looksLikeCsv t := by
  have same : List.Forall₂ SameLine (lines s) (lines t) := forall₂_linesFrom h []
  rw [looksLikeCsv, looksLikeCsv]
  generalize lines s = ls at same
  generalize lines t = ls' at same
  cases same with
  | nil => rfl
  | cons first rest =>
    cases rest with
    | nil => rfl
    | cons second => simp only [first.count_eq (c := ',') (by decide), second.count_eq (c := ',') (by decide)]

/-- A property that does not see returns at the end holds of some line in both texts or in neither. -/
lemma any_lines_of_sameLines {p : List Char → Bool}
    (alike : ∀ {line line'}, SameLine line line' → p line = p line') (h : SameLines s t) :
    (lines s).any p = (lines t).any p := by
  have same : List.Forall₂ SameLine (lines s) (lines t) := forall₂_linesFrom h []
  generalize lines s = ls at same
  generalize lines t = ls' at same
  induction same with
  | nil => rfl
  | cons first _ ih => rw [List.any_cons, List.any_cons, alike first, ih]

/-! ## Starts of lines -/

/-- The characters of a key. -/
def inKey (c : Char) : Bool :=
  Text.isWordChar c || c == '-'

/-- Whether a key ends: a colon and a blank. -/
def endsKey : List Char → Bool
  | ':' :: c :: _ => Text.isBlank c
  | _ => false

/-- A key is ahead if a run of its characters, which is not empty, is ended as a key. -/
lemma keyAhead_eq (s : List Char) :
    keyAhead s = (endsKey ((s.dropWhile Text.isBlank).dropWhile inKey) &&
      !((s.dropWhile Text.isBlank).takeWhile inKey).isEmpty) := by
  unfold keyAhead
  simp only [show (fun c => Text.isWordChar c || c == '-') = inKey from rfl]
  generalize (s.dropWhile Text.isBlank).dropWhile inKey = rest
  split
  next c rest => rw [endsKey, Bool.and_comm]
  next rest none =>
    rw [endsKey, Bool.false_and]
    exact none

/-- A key ends in front of both texts or of neither. -/
lemma endsKey_of_sameLines (h : SameLines s t) : endsKey s = endsKey t := by
  cases h with
  | nil => rfl
  | feed => simp [endsKey]
  | @char c s t h =>
    by_cases colon : c = ':'
    · subst colon
      cases h with
      | nil => rfl
      | char => rfl
      | feed =>
        have alike : Text.isBlank '\n' = Text.isBlank '\r' := by decide
        exact alike
    · simp [endsKey, colon]

/-- A key may stand behind line ends, and in front of one. -/
lemma keyAhead_of_sameLines (h : SameLines s t) : keyAhead s = keyAhead t := by
  have outside : inKey '\n' = false ∧ inKey '\r' = false := by decide +kernel
  have alike : inKey '\n' = inKey '\r' := by rw [outside.1, outside.2]
  have behind := h.dropWhile (p := Text.isBlank) (by decide)
  have key := (behind.takeWhile alike).eq_of_left fun mem =>
    absurd (List.all_eq_true.mp List.all_takeWhile _ mem) (by simp [outside.1])
  rw [keyAhead_eq, keyAhead_eq, endsKey_of_sameLines (behind.dropWhile alike), key]

/-- What does not depend on the ends of lines holds at a later line of both texts or of neither. -/
lemma atLaterLine_of_sameLines {p : List Char → Bool} (alike : ∀ {s t}, SameLines s t → p s = p t)
    (h : SameLines s t) : atLaterLine p s = atLaterLine p t := by
  induction h with
  | nil => rfl
  | char h ih => rw [atLaterLine, atLaterLine, alike h, ih]
  | feed h ih => simp [atLaterLine, alike h, ih]

/-- The ends of lines do not matter to what looks like YAML. -/
lemma looksLikeYaml_of_sameLines (h : SameLines s t) : looksLikeYaml s = looksLikeYaml t := by
  have item : Text.occurs "\n- ".toList s = Text.occurs "\n- ".toList t :=
    h.occurs_feed_eq (w := ['-', ' ']) (by decide)
  rw [looksLikeYaml, looksLikeYaml, contains_of_sameLines (by decide) h, atSomeLine, atSomeLine,
    keyAhead_of_sameLines h, atLaterLine_of_sameLines keyAhead_of_sameLines h, item]
  congr 1
  refine any_lines_of_sameLines (fun same => ?_) h
  rw [same.contains_eq (by decide), same.trim_eq]

/-! ## Links -/

/-- A link is in both texts or in neither. -/
lemma holdsLink_of_sameLines (h : SameLines s t) : holdsLink s = holdsLink t := by
  have shut {u v : List Char} (h : SameLines u v) :
      "](".toList.isPrefixOf (u.dropWhile (· != ']')) = "](".toList.isPrefixOf (v.dropWhile (· != ']')) :=
    (h.dropWhile (p := (· != ']')) (by decide)).isPrefixOf_eq (by decide)
  induction h with
  | nil => rfl
  | char h ih => rw [holdsLink, holdsLink, shut h, ih]
  | feed h ih => simp [holdsLink, ih]

/-- The ends of lines do not matter to what looks like Markdown. -/
lemma looksLikeMarkdown_of_sameLines (h : SameLines s t) : looksLikeMarkdown s = looksLikeMarkdown t := by
  rw [looksLikeMarkdown, looksLikeMarkdown, h.occurs_eq (by decide), contains_of_sameLines (by decide) h,
    holdsLink_of_sameLines h]

/-! ## Formats -/

/-- The ends of lines do not matter to the format of a trimmed text. -/
lemma ofTrimmed_of_sameLines (h : SameLines s t) : ofTrimmed s = ofTrimmed t := by
  have none : s.isEmpty = t.isEmpty := by
    rw [Bool.eq_iff_iff, List.isEmpty_iff, List.isEmpty_iff, h.eq_nil_iff]
  rw [ofTrimmed, ofTrimmed, none, looksLikeJson_of_sameLines h, looksLikeXsd_of_sameLines h,
    looksLikeHtml_of_sameLines h, looksLikeXml_of_sameLines h, looksLikeCsv_of_sameLines h,
    looksLikeYaml_of_sameLines h, looksLikeMarkdown_of_sameLines h]

/-- A carriage return before each line feed leaves the format of a text as it is. -/
theorem detect_withReturns (text : String) :
    detect (String.ofList (Text.withReturns text.toList)) = detect text := by
  have lines : SameLines text.toList (Text.withReturns text.toList) := .withReturns _
  rw [detect, detect, String.toList_ofList]
  exact (ofTrimmed_of_sameLines lines.trim).symm

end XsdInfer.Format
