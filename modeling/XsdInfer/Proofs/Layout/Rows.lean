import XsdInfer.Proofs.Layout.Tags
import XsdInfer.Proofs.Sample.Reference

/-!
# The rows of written documents

A row is a line without its end: one tag, behind two spaces for each element that is open around it.
What a row does to the open elements is what its tag says: it opens one, closes one, or holds a whole
one (`Row`). Main statement: the lines of an element are rows that leave open what was open before
(`rows_lines`), if its tags are made of words and no value breaks a line.
-/

namespace XsdInfer.Layout

/-! ## Rows -/

/-- A name in a tag: letters and colons. -/
def IsWord (s : List Char) : Prop :=
  s ≠ [] ∧ ∀ c ∈ s, c.isAlpha = true ∨ c = ':'

instance (s : List Char) : Decidable (IsWord s) :=
  inferInstanceAs (Decidable (s ≠ [] ∧ ∀ c ∈ s, c.isAlpha = true ∨ c = ':'))

/-- What a tag holds that starts an element of a given name: the name, and then attributes with
quoted values. -/
inductive Starts (name : List Char) : List Char → Prop where
  | name (word : IsWord name) : Starts name name
  | attr {front key value : List Char} (before : Starts name front) (word : IsWord key)
      (quoted : ∀ c ∈ value, c ∉ ['<', '>', '"', '\n']) :
      Starts name (front ++ (' ' :: key ++ '=' :: '"' :: value ++ ['"']))

/-- A row between the elements that are open before it and those that are open behind it, the
innermost first. -/
inductive Row : List (List Char) → List Char → List (List Char) → Prop where
  | lone {around : List (List Char)} {name held : List Char} (tag : Starts name held) :
      Row around (indent around.length ++ ('<' :: held ++ "/>".toList)) around
  | start {around : List (List Char)} {name held : List Char} (tag : Starts name held) :
      Row around (indent around.length ++ ('<' :: held ++ ['>'])) (name :: around)
  | stop {around : List (List Char)} {name : List Char} (word : IsWord name) :
      Row (name :: around) (indent around.length ++ ("</".toList ++ name ++ ['>'])) around

/-- Rows one after another. -/
inductive Rows : List (List Char) → List (List Char) → List (List Char) → Prop where
  | nil {around : List (List Char)} : Rows around [] around
  | cons {around inside behind : List (List Char)} {row : List Char} {rows : List (List Char)}
      (first : Row around row inside) (rest : Rows inside rows behind) :
      Rows around (row :: rows) behind

/-- A pair of brackets behind the indentation, with neither brackets nor line ends between them. -/
def Bracketed (row : List Char) : Prop :=
  ∃ depth held, row = indent depth ++ ('<' :: held ++ ['>']) ∧ ∀ c ∈ held, c ∉ ['<', '>', '\n']

section

variable {around inside behind : List (List Char)} {row name held : List Char}
  {rows rows' : List (List Char)}

/-- Rows go on from where others have ended. -/
lemma Rows.append (h : Rows around rows inside) (h' : Rows inside rows' behind) :
    Rows around (rows ++ rows') behind := by
  induction h with
  | nil => exact h'
  | cons first _ ih => exact .cons first (ih h')

/-- One row is a list of rows. -/
lemma Rows.singleton (h : Row around row behind) : Rows around [row] behind :=
  .cons h .nil

/-- A word has no bracket and no line end. -/
lemma IsWord.apart (h : IsWord name) : ∀ c ∈ name, c ∉ ['<', '>', '\n'] := by
  have none : ∀ d ∈ ['<', '>', '\n'], ¬ (d.isAlpha = true ∨ d = ':') := by decide
  exact fun c mem bad => none c bad (h.2 c mem)

/-- What a tag starts with has no bracket and no line end. -/
lemma Starts.apart (h : Starts name held) : ∀ c ∈ held, c ∉ ['<', '>', '\n'] := by
  induction h with
  | name word => exact word.apart
  | @attr front key value _ word quoted ih =>
    have plain : ∀ c ∈ value, c ∉ ['<', '>', '\n'] := by
      have fewer : ['<', '>', '\n'] ⊆ ['<', '>', '"', '\n'] := by decide
      exact fun c mem bad => quoted c mem (fewer bad)
    have blank : ' ' ∉ ['<', '>', '\n'] := by decide
    have equals : '=' ∉ ['<', '>', '\n'] := by decide
    have quote : '"' ∉ ['<', '>', '\n'] := by decide
    simp only [List.cons_append, List.append_assoc, List.forall_mem_append, List.forall_mem_cons]
    exact ⟨ih, blank, word.apart, equals, quote, plain, quote, by simp⟩

/-- A row holds one tag, and nothing stands behind the tag. -/
lemma Row.bracketed (h : Row around row behind) : Bracketed row := by
  cases h with
  | @lone _ _ held tag =>
    refine ⟨around.length, held ++ ['/'], by simp, List.forall_mem_append.mpr ⟨tag.apart, ?_⟩⟩
    exact List.forall_mem_singleton.mpr (by decide)
  | start tag => exact ⟨around.length, _, rfl, tag.apart⟩
  | @stop _ name word =>
    refine ⟨behind.length, '/' :: name, by simp, List.forall_mem_cons.mpr ⟨by decide, ?_⟩⟩
    exact word.apart

/-- Every row is one tag in brackets. -/
lemma Rows.bracketed (h : Rows around rows behind) : ∀ row ∈ rows, Bracketed row := by
  induction h with
  | nil => exact fun _ mem => absurd mem List.not_mem_nil
  | cons first _ ih => exact List.forall_mem_cons.mpr ⟨first.bracketed, ih⟩

/-- A tag in brackets has no line end. -/
lemma Bracketed.no_line_end (h : Bracketed row) : '\n' ∉ row := by
  obtain ⟨depth, held, rfl, apart⟩ := h
  have blank : '\n' ∉ indent depth := fun mem => absurd (List.eq_of_mem_replicate mem) (by decide)
  have inside : '\n' ∉ held := fun mem => apart '\n' mem (by decide)
  simp [blank, inside]

end

/-! ## The rows of an element -/

/-- A tag of words whose values break no line. -/
structure IsRowTag (tag : Tag) : Prop where
  name : IsWord tag.1.toList
  keys : ∀ a ∈ tag.2, IsWord a.1.toList
  values : ∀ a ∈ tag.2, '\n' ∉ a.2.toList

/-- A line without its end. -/
def Line.row (l : Line) : List Char :=
  indent l.depth ++ l.tag

/-- A line is its row with the line end behind it. -/
lemma chars_eq_row (l : Line) : l.chars = l.row ++ ['\n'] :=
  rfl

/-- A line end is written for nothing but a line end. -/
lemma eq_of_mem_escapeChar {c : Char} (h : '\n' ∈ Text.escapeChar c) : c = '\n' := by
  obtain ⟨same, _⟩ | ⟨name, ref, _, known⟩ := Text.escapeChar_cases c
  · rw [same, List.mem_singleton] at h
    exact h.symm
  · have words : ∀ p ∈ Text.predefined, '\n' ∉ '&' :: p.1.toList ++ [';'] := by decide
    have none := words _ (Table.mem_of_lookup known)
    rw [String.toList_ofList] at none
    exact absurd (ref ▸ h) none

/-- An escaped value neither ends its tag nor breaks its line. -/
lemma quoted_escape {s : List Char} (h : '\n' ∉ s) :
    ∀ c ∈ Text.escape s, c ∉ ['<', '>', '"', '\n'] := by
  intro c mem bad
  simp only [List.mem_cons, List.not_mem_nil, or_false] at bad
  obtain rfl | rfl | rfl | rfl := bad
  · exact Text.not_mem_escape (by simp) s mem
  · exact Text.not_mem_escape (by simp) s mem
  · exact Text.not_mem_escape (by simp) s mem
  · obtain ⟨a, at_a, inside⟩ := List.mem_flatMap.mp mem
    exact h (eq_of_mem_escapeChar inside ▸ at_a)

/-- A tag that has started goes on with assignments of words. -/
lemma starts_append {name front : List Char} (h : Starts name front)
    (attributes : List (String × String)) (words : ∀ a ∈ attributes, IsWord a.1.toList)
    (values : ∀ a ∈ attributes, '\n' ∉ a.2.toList) :
    Starts name (front ++ attributes.flatMap assignment) := by
  induction attributes generalizing front with
  | nil => rwa [List.flatMap_nil, List.append_nil]
  | cons a attributes ih =>
    obtain ⟨word, words⟩ := List.forall_mem_cons.mp words
    obtain ⟨value, values⟩ := List.forall_mem_cons.mp values
    rw [List.flatMap_cons, ← List.append_assoc]
    exact ih (.attr h word (quoted_escape value)) words values

/-- A tag of a row starts with its name and holds assignments. -/
lemma starts_inside {name : String} {attributes : List (String × String)}
    (h : IsRowTag (name, attributes)) : Starts name.toList (inside name attributes) :=
  starts_append (.name h.name) attributes h.keys h.values

mutual

/-- The lines of an element are rows, which leave open what was open before. -/
theorem rows_lines (l : Layout) (fine : ∀ tag ∈ l.tags, IsRowTag tag)
    (around : List (List Char)) : Rows around ((l.lines around.length).map Line.row) around := by
  cases l with
  | leaf name attributes =>
    have tag := starts_inside (fine (name, attributes) (.head _))
    exact .singleton (.lone tag)
  | block name attributes body =>
    have here := fine (name, attributes) (.head _)
    -- Inside, the element itself is the innermost that is open, and its end tag closes it.
    have body := rows_linesAll body (fun tag mem => fine tag (.tail _ mem)) (name.toList :: around)
    rw [lines, List.map_append, List.map_cons]
    exact .append (.cons (.start (starts_inside here)) body) (.singleton (.stop here.name))

/-- The lines of elements one after another are rows, which leave open what was open before. -/
theorem rows_linesAll (ls : List Layout) (fine : ∀ tag ∈ tagsAll ls, IsRowTag tag)
    (around : List (List Char)) :
    Rows around ((linesAll around.length ls).map Line.row) around := by
  cases ls with
  | nil => exact .nil
  | cons l ls =>
    rw [linesAll, List.map_append]
    exact (rows_lines l (fun tag mem => fine tag (List.mem_append_left _ mem)) around).append
      (rows_linesAll ls (fun tag mem => fine tag (List.mem_append_right _ mem)) around)

end

/-! ## Documents -/

/-- A text is laid out canonically if it consists of a declaration and rows, each with its end, and the
rows leave no element open. -/
structure LaidOut (text : List Char) (rows : List (List Char)) : Prop where
  whole : text = (declaration.tag :: rows).flatMap (· ++ ['\n'])
  balanced : Rows [] rows []
  bracketed : ∀ row ∈ declaration.tag :: rows, Bracketed row
  unbroken : ∀ row ∈ declaration.tag :: rows, '\n' ∉ row

/-- The declaration is a tag in brackets. -/
lemma bracketed_declaration : Bracketed declaration.tag :=
  ⟨0, "?xml version=\"1.0\" encoding=\"UTF-8\"?".toList, rfl, by decide⟩

/-- A document is laid out canonically. -/
theorem laidOut_document {l : Layout} (fine : ∀ tag ∈ l.tags, IsRowTag tag) :
    LaidOut l.document.toList ((l.lines 0).map Line.row) := by
  have balanced : Rows [] ((l.lines 0).map Line.row) [] := rows_lines l fine []
  have bracketed : ∀ row ∈ declaration.tag :: (l.lines 0).map Line.row, Bracketed row :=
    List.forall_mem_cons.mpr ⟨bracketed_declaration, balanced.bracketed⟩
  refine ⟨?_, balanced, bracketed, fun row mem => (bracketed row mem).no_line_end⟩
  have chars : Line.chars = fun l => l.row ++ ['\n'] := funext chars_eq_row
  rw [document, String.toList_ofList, List.flatMap_cons, List.flatMap_cons, List.flatMap_map, chars]
  rfl

end XsdInfer.Layout
