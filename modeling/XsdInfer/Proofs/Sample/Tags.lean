import Mathlib.Data.List.Induction
import Mathlib.Data.List.Nodup
import Mathlib.Data.List.TakeWhile
import XsdInfer.Proofs.Name.Characters
import XsdInfer.Proofs.Sample.Attributes
import XsdInfer.Proofs.Sample.Markup

/-!
# Reading written tags

The assignments of a written tag list their settings (`lists_assignments`), and so are read back; the tag
is told from what follows it by its first bracket outside of quotes (`Event.marks_start_head`,
`Event.marks_empty_head`).
-/

namespace XsdInfer.Sample

open Name (delimiters)

/-- A name that can stand in a tag: it has characters, and none of them is a delimiter. -/
def IsTagName (name : String) : Prop :=
  name.toList ≠ [] ∧ ∀ c ∈ name.toList, c ∉ delimiters

/-- A qualified name can stand in a tag. -/
lemma isTagName_of_isQualified {name : String} (h : Name.isQualified name = true) :
    IsTagName name :=
  ⟨Name.ne_nil_of_isQualified h, Name.not_mem_delimiters_of_isQualified h⟩

/-- A setting as it is kept until its references are resolved. -/
def Setting.raw (s : Setting) : RawAttribute :=
  ⟨s.name, Text.escape s.value.toList⟩

/-- There are four characters of space. -/
lemma isSpace_iff_mem {c : Char} : Text.isSpace c = true ↔ c ∈ [' ', '\t', '\n', '\r'] := by
  simp [Text.isSpace, or_assoc]

/-- What delimits nothing is no space. -/
lemma isSpace_eq_false_of_not_mem {c : Char} (h : c ∉ delimiters) : Text.isSpace c = false := by
  rw [Bool.eq_false_iff]
  intro space
  have inside : ∀ d ∈ [' ', '\t', '\n', '\r'], d ∈ delimiters := by decide
  exact h (inside c (isSpace_iff_mem.mp space))

/-- What delimits nothing is no delimiter. -/
lemma ne_of_not_mem_delimiters {c d : Char} (h : c ∉ delimiters) (hd : d ∈ delimiters) : c ≠ d :=
  fun same => h (same ▸ hd)

/-- Written assignments list their settings. -/
lemma lists_assignments {as : List Assignment} (names : ∀ a ∈ as, IsTagName a.setting.name)
    (trail : Space) :
    Lists (as.flatMap Assignment.text ++ trail.chars) (as.map (·.setting.raw)) := by
  induction as with
  | nil => exact .nil
  | cons a as ih =>
    obtain ⟨named, names⟩ := List.forall_mem_cons.mp names
    obtain ⟨first, more, eq⟩ := List.exists_cons_of_ne_nil named.1
    have plain : ∀ c ∈ first :: more, c ∉ delimiters := eq ▸ named.2
    have goes : ∀ c ∈ more, Goes c := fun c mem =>
      ⟨ne_of_not_mem_delimiters (plain c (.tail _ mem)) (by decide),
        isSpace_eq_false_of_not_mem (plain c (.tail _ mem))⟩
    have quote : '"' ∉ Text.escape a.setting.value.toList :=
      Text.not_mem_escape (.inr (.inr (.inr rfl))) _
    have value : ⟨String.ofList (first :: more), Text.escape a.setting.value.toList⟩ = a.setting.raw := by
      rw [← eq, String.ofList_toList, Setting.raw]
    have text : (a :: as).flatMap Assignment.text ++ trail.chars = a.lead.chars ++ first :: (more ++
        (a.before.chars ++ '=' :: (a.behind.chars ++ '"' :: (Text.escape a.setting.value.toList ++
          '"' :: (as.flatMap Assignment.text ++ trail.chars))))) := by
      simp [Assignment.text, eq]
    rw [text, List.map_cons, ← value]
    exact .cons (isSpace_eq_false_of_not_mem (plain first (.head _))) goes (.inl rfl) quote (ih names)

/-- A tag whose names can stand in it. -/
structure Head.Named (h : Head) : Prop where
  name : IsTagName h.name
  settings : ∀ s ∈ h.settings, IsTagName s.name

namespace Head

/-- What stands behind the name of a tag. -/
def body (h : Head) : List Char :=
  h.assignments.flatMap Assignment.text ++ h.trail.chars

/-- The tag as it is read. -/
def tag (h : Head) : Tag where
  name := h.name
  attributes := h.settings.map Setting.raw

/-- A head is spelled as its name and its body. -/
lemma text_eq (h : Head) : h.text = h.name.toList ++ h.body := by
  rw [text, body, List.append_assoc]

/-- The body of a head starts with space, if it is not empty. -/
lemma takeWhile_body (h : Head) : h.body.takeWhile (!Text.isSpace ·) = [] := by
  unfold body
  cases h.assignments with
  | nil =>
    cases eq : h.trail.chars with
    | nil => rfl
    | cons c s => simp [h.trail.space c (by simp [eq])]
  | cons a as =>
    obtain ⟨c, s, eq⟩ := List.exists_cons_of_ne_nil a.spaced
    have space := a.lead.space c (by simp [eq])
    simp [Assignment.text, eq, space]

variable {h : Head}

/-- The name of a head is read back. -/
lemma nameOf_text (named : h.Named) : Tag.nameOf h.text = h.name.toList := by
  have visible : ∀ c ∈ h.name.toList, (!Text.isSpace c) = true := by
    intro c mem
    simp [isSpace_eq_false_of_not_mem (named.name.2 c mem)]
  rw [Tag.nameOf, text_eq, List.takeWhile_append_of_pos visible, takeWhile_body, List.append_nil]

/-- The parts of a head make its tag. -/
lemma ofParts_eq (named : h.Named) : Tag.ofParts h.name.toList h.body = h.tag := by
  have names : ∀ a ∈ h.assignments, IsTagName a.setting.name := fun a mem =>
    named.settings _ (List.mem_map_of_mem mem)
  have distinct : ((h.assignments.map (·.setting.raw)).map RawAttribute.name).Nodup := by
    rw [List.map_map]
    exact h.nodup
  rw [Tag.ofParts, body, Tag.readAttributes_eq_iff.mpr ⟨lists_assignments names h.trail, distinct⟩]
  simp [tag, settings]

/-- The text of a head makes its tag. -/
lemma ofContent_text (named : h.Named) : Tag.ofContent h.text = h.tag := by
  rw [Tag.ofContent, nameOf_text named, text_eq, List.drop_left, ofParts_eq named]

/-- A head does not end with a slash. -/
lemma getLast?_text_ne (named : h.Named) : h.text.getLast? ≠ some '/' := by
  -- The last character is space, a quote, or one of the name.
  intro last
  rw [text, List.getLast?_append] at last
  cases trail : h.trail.chars.getLast? with
  | some c =>
    have space := h.trail.space c (List.mem_of_getLast? trail)
    rw [trail, Option.some_or] at last
    cases last
    exact absurd space (by decide)
  | none =>
    rw [trail, Option.none_or, List.getLast?_append] at last
    cases eq : h.assignments using List.reverseRecOn with
    | nil =>
      rw [eq, List.flatMap_nil, List.getLast?_nil, Option.none_or] at last
      exact named.name.2 '/' (List.mem_of_getLast? last) (by decide)
    | append_singleton as a =>
      have ends : (as ++ [a]).flatMap Assignment.text = as.flatMap Assignment.text
          ++ (a.lead.chars ++ a.setting.name.toList ++ a.before.chars ++ '=' :: a.behind.chars
            ++ '"' :: Text.escape a.setting.value.toList) ++ ['"'] := by simp [Assignment.text]
      rw [eq, ends, List.getLast?_concat, Option.some_or] at last
      exact absurd last (by decide)

end Head

namespace Event

/-- Text that a reader passes on its way to the end of a tag, with all its quotes closed. -/
def Balanced (s : List Char) : Prop :=
  ∀ read rest, cutTag none read (s ++ rest) = cutTag none (s.reverse ++ read) rest

/-- Balanced texts in a row are balanced. -/
lemma balanced_append {s t : List Char} (hs : Balanced s) (ht : Balanced t) : Balanced (s ++ t) := by
  intro read rest
  rw [List.append_assoc, hs, ht, List.reverse_append, List.append_assoc]

/-- Text without brackets and quotation marks is balanced. -/
lemma balanced_of_plain {s : List Char} (h : ∀ c ∈ s, c ≠ '>' ∧ c ≠ '"' ∧ c ≠ '\'') :
    Balanced s := by
  intro read rest
  induction s generalizing read with
  | nil => rfl
  | cons c s ih =>
    obtain ⟨bracket, double, single⟩ := h c (.head _)
    rw [List.cons_append, cutTag]
    simp only [bracket, double, single, or_self, if_false]
    rw [ih fun c mem => h c (.tail _ mem)]
    simp

/-- A quoted text is balanced. -/
lemma balanced_quoted {v : List Char} (h : '"' ∉ v) : Balanced ('"' :: v ++ ['"']) := by
  intro read rest
  have within (v : List Char) (h : '"' ∉ v) (read : List Char) :
      cutTag (some '"') read (v ++ '"' :: rest) = cutTag none ('"' :: v.reverse ++ read) rest := by
    induction v generalizing read with
    | nil => simp [cutTag]
    | cons c v ih =>
      obtain ⟨other, more⟩ := List.ne_and_not_mem_of_not_mem_cons h
      rw [List.cons_append, cutTag, if_neg (Ne.symm other), ih more]
      simp
  rw [List.append_assoc, List.cons_append, cutTag]
  simp [within v h]

/-- Space is balanced. -/
lemma balanced_space (s : Space) : Balanced s.chars :=
  balanced_of_plain fun c mem => by
    have space := s.space c mem
    refine ⟨?_, ?_, ?_⟩ <;> rintro rfl <;> exact absurd space (by decide)

/-- The name of a tag is balanced. -/
lemma balanced_name {name : String} (h : IsTagName name) : Balanced name.toList :=
  balanced_of_plain fun c mem => by
    have plain := h.2 c mem
    exact ⟨ne_of_not_mem_delimiters plain (by decide), ne_of_not_mem_delimiters plain (by decide),
      ne_of_not_mem_delimiters plain (by decide)⟩

/-- An assignment is balanced. -/
lemma balanced_assignment {a : Assignment} (h : IsTagName a.setting.name) : Balanced a.text := by
  have quote : '"' ∉ Text.escape a.setting.value.toList :=
    Text.not_mem_escape (.inr (.inr (.inr rfl))) _
  have equals : Balanced ('=' :: a.behind.chars) :=
    balanced_append (s := ['=']) (balanced_of_plain (by decide)) (balanced_space a.behind)
  have value := balanced_quoted quote
  have all := balanced_append (balanced_append (balanced_append (balanced_append
    (balanced_space a.lead) (balanced_name h)) (balanced_space a.before)) equals) value
  simpa [Assignment.text] using all

/-- A head is balanced. -/
lemma balanced_head {h : Head} (named : h.Named) : Balanced h.text := by
  have assignments (as : List Assignment) (names : ∀ a ∈ as, IsTagName a.setting.name) :
      Balanced (as.flatMap Assignment.text) := by
    induction as with
    | nil => exact fun _ _ => rfl
    | cons a as ih =>
      exact balanced_append (balanced_assignment (names a (.head _)))
        (ih fun a mem => names a (.tail _ mem))
  exact balanced_append (balanced_append (balanced_name named.name)
    (assignments _ fun a mem => named.settings _ (List.mem_map_of_mem mem)))
    (balanced_space h.trail)

/-- A tag ends at the first bracket outside of quotes. -/
lemma cut_of_balanced {s : List Char} (h : Balanced s) (rest : List Char) :
    Text.Cut '>' (Closed none) (s ++ '>' :: rest) s rest := by
  have cut : cutTag none [] (s ++ '>' :: rest) = some (s, rest) := by
    rw [h, cutTag]
    simp
  obtain ⟨t, same, cut⟩ := cutTag_eq_some_iff.mp cut
  obtain rfl : s = t := by simpa using same
  exact cut

variable {h : Head} {opened : List (List Char)}

/-- Behind the bracket of an element stands no mark of other markup. -/
lemma first_of_head (named : h.Named) (s : List Char) :
    ∀ c ∈ (h.text ++ s).head?, c ∉ ['!', '/', '?'] := by
  obtain ⟨first, more, eq⟩ := List.exists_cons_of_ne_nil named.name.1
  have plain := named.name.2 first (by simp [eq])
  intro c mem inside
  rw [Head.text_eq, eq] at mem
  obtain rfl := Option.some.inj mem
  have marks : ∀ c ∈ ['!', '/', '?'], c ∈ delimiters := by decide
  exact plain (marks _ inside)

/-- A head in brackets marks a start tag. -/
lemma marks_start_head (named : h.Named) (rest : List Char) :
    Marks opened (h.text ++ '>' :: rest) (.start h.tag) (h.name.toList :: opened) rest := by
  have cut := cut_of_balanced (balanced_head named) rest
  rw [← Head.nameOf_text named, ← Head.ofContent_text named]
  exact .start (first_of_head named _) cut (h.getLast?_text_ne named)

/-- A head with a slash in brackets marks an empty tag. -/
lemma marks_empty_head (named : h.Named) (rest : List Char) :
    Marks opened (h.text ++ ['/'] ++ '>' :: rest) (.empty h.tag) opened rest := by
  have balanced : Balanced (h.text ++ ['/']) :=
    balanced_append (balanced_head named) (balanced_of_plain (by decide))
  rw [← Head.ofContent_text named]
  refine .empty ?_ (cut_of_balanced balanced rest)
  rw [List.append_assoc]
  exact first_of_head named _

end Event

end XsdInfer.Sample
