import XsdInfer.Proofs.Sample.Spelling
import XsdInfer.Proofs.Text.Trim
import XsdInfer.Sample.Document

/-!
# Filling open elements

An open element takes up character data and children one after another. What stands before and behind
a run of data does not count (`Draft.addText_congr`), and in the end the element has what its content
means (`Frame.close_fill`).
-/

namespace XsdInfer

/-- Data that is the same when trimmed is appended alike. -/
lemma Element.appendText_congr {a b : List Char} (h : Text.trim a = Text.trim b) (e : Element) :
    e.appendText a = e.appendText b := by
  rw [appendText, appendText, h]

/-- Blank data is not appended. -/
lemma Element.appendText_of_blank {data : List Char} (h : ∀ c ∈ data, Text.isBlank c = true)
    (e : Element) : e.appendText data = e := by
  rw [appendText, Text.trim_eq_nil_iff.mpr h]

/-- Data that is not blank is set behind the text before it, if there is one. -/
lemma Element.appendText_of_visible {data : List Char} (visible : Text.trim data ≠ []) (e : Element) :
    e.appendText data = e.withText ((e.text.elim "" (· ++ " ")) ++ String.ofList (Text.trim data)) := by
  rw [appendText]
  cases run : Text.trim data with
  | nil => exact absurd run visible
  | cons c s =>
    cases text : e.text with
    | none => simp
    | some => simp

namespace Sample

/-- Data is blank if nothing is left of it when it is trimmed. -/
lemma all_isBlank_iff {data : List Char} : data.all Text.isBlank = true ↔ Text.trim data = [] := by
  rw [List.all_eq_true, Text.trim_eq_nil_iff]

namespace Draft

/-- Data that is the same when trimmed is added alike. -/
lemma addText_congr {a b : List Char} (h : Text.trim a = Text.trim b) (d : Draft) :
    d.addText a = d.addText b := by
  have blank : a.all Text.isBlank = b.all Text.isBlank := by
    rw [Bool.eq_iff_iff, all_isBlank_iff, all_isBlank_iff, h]
  unfold addText
  split
  next => rw [Element.appendText_congr h]
  next => rw [blank]

/-- Blank data is not added. -/
lemma addText_of_blank {data : List Char} (h : ∀ c ∈ data, Text.isBlank c = true) (d : Draft) :
    d.addText data = .ok d := by
  obtain ⟨stack, root⟩ := d
  cases stack with
  | nil => simp [addText, List.all_eq_true.mpr h]
  | cons f stack => simp [addText, Element.appendText_of_blank h]

/-- Blank runs are not added. -/
lemma foldlM_addText_of_blank {runs : List (List Char)}
    (h : ∀ run ∈ runs, ∀ c ∈ run, Text.isBlank c = true) (d : Draft) :
    runs.foldlM addText d = .ok d := by
  induction runs with
  | nil => rfl
  | cons run runs ih =>
    rw [List.foldlM_cons, addText_of_blank (h run (.head _))]
    exact ih fun run mem => h run (.tail _ mem)

end Draft

namespace Frame

/-- An open element with further character data. -/
def addText (f : Frame) (data : List Char) : Frame :=
  { f with element := f.element.appendText data }

/-- An open element with one more child. -/
def addChild (f : Frame) (e : Element) : Frame :=
  { f with children := e :: f.children }

/-- An open element with some content. -/
def fill (f : Frame) : Content → Frame
  | .last s => s.runs.foldl addText f
  | .child s e more => ((s.runs.foldl addText f).addChild e.element).fill more

/-- Runs of data go to the innermost open element. -/
lemma foldlM_addText (f : Frame) (stack : List Frame) (root : Option Element)
    (runs : List (List Char)) :
    runs.foldlM Draft.addText ⟨f :: stack, root⟩ = .ok ⟨runs.foldl addText f :: stack, root⟩ := by
  induction runs generalizing f with
  | nil => rfl
  | cons run runs ih =>
    rw [List.foldlM_cons, List.foldl_cons]
    exact ih (f.addText run)

end Frame

/-- Blank runs make no text. -/
lemma textOfRuns_of_blank {runs : List (List Char)}
    (h : ∀ run ∈ runs, ∀ c ∈ run, Text.isBlank c = true) : textOfRuns runs = none := by
  have none : (runs.map Text.trim).filter (!·.isEmpty) = [] := by
    apply List.filter_eq_nil_iff.mpr
    intro run mem
    obtain ⟨run', mem', rfl⟩ := List.mem_map.mp mem
    rw [Text.trim_eq_nil_iff.mpr (h run' mem')]
    decide
  rw [textOfRuns, none]

/-- The runs of data that are not blank, trimmed, each behind a space. -/
def joined (runs : List (List Char)) : List Char :=
  ((runs.map Text.trim).filter (!·.isEmpty)).flatMap (' ' :: ·)

/-- A text with joined runs behind it. The first space is left out where there is no text. -/
def textWith (text : Option String) : List Char → Option String
  | [] => text
  | c :: run =>
    match text with
    | none => some (String.ofList run)
    | some text => some (text ++ String.ofList (c :: run))

/-- One run is joined to nothing if it is blank, and stands behind a space otherwise. -/
lemma joined_singleton (run : List Char) :
    joined [run] = if Text.trim run = [] then [] else ' ' :: Text.trim run := by
  cases trimmed : Text.trim run <;> simp [joined, trimmed]

/-- Runs in a row are joined one after another. -/
lemma joined_append (runs more : List (List Char)) :
    joined (runs ++ more) = joined runs ++ joined more := by
  simp [joined]

/-- Two runs can be put behind a text one by one. -/
lemma textWith_append (text : Option String) (a b : List Char) :
    textWith (textWith text a) b = textWith text (a ++ b) := by
  cases a with
  | nil => rw [textWith, List.nil_append]
  | cons c a =>
    cases b with
    | nil => rw [List.append_nil, textWith]
    | cons d b => cases text <;> simp [textWith, String.append_assoc]

/-- Spaces between the items of a list and one before make a space before each. -/
lemma cons_intercalate (run : List Char) (more : List (List Char)) :
    ' ' :: [' '].intercalate (run :: more) = (run :: more).flatMap (' ' :: ·) := by
  induction more generalizing run with
  | nil => simp
  | cons next more ih => rw [List.intercalate_cons_cons, List.flatMap_cons, ← ih]; simp

/-- The text of some runs is what is joined of them. -/
lemma textOfRuns_eq (runs : List (List Char)) : textOfRuns runs = textWith none (joined runs) := by
  unfold textOfRuns joined
  cases (runs.map Text.trim).filter (!·.isEmpty) with
  | nil => rfl
  | cons run more => rw [← cons_intercalate]; rfl

/-- More runs are put behind the text of those before. -/
lemma textOfRuns_append (runs more : List (List Char)) :
    textOfRuns (runs ++ more) = textWith (textOfRuns runs) (joined more) := by
  rw [textOfRuns_eq, textOfRuns_eq, textWith_append, joined_append]

/-- More data is joined with the text so far. -/
lemma appendText_eq (e : Element) (data : List Char) :
    e.appendText data = { e with text := textWith e.text (joined [data]) } := by
  rw [joined_singleton, Element.appendText]
  cases Text.trim data with
  | nil => obtain ⟨⟩ := e; simp [textWith]
  | cons c s =>
    rw [if_neg nofun]
    cases text : e.text with
    | none => rfl
    | some t =>
      have spaced : t ++ " " ++ String.ofList (c :: s) = t ++ String.ofList (' ' :: c :: s) := by
        rw [← String.toList_inj]
        simp
      rw [textWith, ← spaced]
      rfl

namespace Frame

/-- Runs of data are joined with the text so far. -/
lemma foldl_addText_eq (runs : List (List Char)) (f : Frame) :
    runs.foldl addText f =
      { f with element := { f.element with text := textWith f.element.text (joined runs) } } := by
  induction runs generalizing f with
  | nil =>
    obtain ⟨⟨⟩⟩ := f
    rfl
  | cons run runs ih =>
    rw [List.foldl_cons, ih, addText, appendText_eq, textWith_append, ← joined_append]
    rfl

/-- Runs of data that are added one by one make one text. -/
lemma foldl_addText (e : Element) (scopes : List Namespace.Declarations) (children : List Element)
    (done runs : List (List Char)) :
    runs.foldl addText ⟨{ e with text := textOfRuns done }, scopes, children⟩ =
      ⟨{ e with text := textOfRuns (done ++ runs) }, scopes, children⟩ := by
  rw [foldl_addText_eq, textOfRuns_append]

/-- An element without text has the text of no runs. -/
lemma eq_text_of_empty {e : Element} (empty : e.text = none) : e = { e with text := textOfRuns [] } := by
  obtain ⟨⟩ := e
  cases empty
  rfl

/-- An element without text comes to have the text of the runs that are added. -/
lemma foldl_addText_of_empty {e : Element} (empty : e.text = none)
    (scopes : List Namespace.Declarations) (children : List Element) (runs : List (List Char)) :
    runs.foldl addText ⟨e, scopes, children⟩ = ⟨{ e with text := textOfRuns runs }, scopes, children⟩ := by
  have filled := foldl_addText e scopes children [] runs
  rwa [← eq_text_of_empty empty, List.nil_append] at filled

/-- Content adds its text and its children to those before it. -/
theorem fill_eq (e : Element) (scopes : List Namespace.Declarations) (children : List Element)
    (done : List (List Char)) (content : Content) :
    fill ⟨{ e with text := textOfRuns done }, scopes, children⟩ content =
      ⟨{ e with text := textOfRuns (done ++ content.runs) }, scopes,
        content.children.reverse ++ children⟩ :=
  match content with
  | .last s => by
    rw [fill, foldl_addText, Content.runs, Content.children]
    rfl
  | .child s sp more => by
    rw [fill, foldl_addText, addChild, fill_eq e scopes _ _ more, Content.runs, Content.children]
    simp

/-- An element that is filled with some content is closed with this content. -/
lemma close_fill {e : Element} (empty : e.text = none) (scopes : List Namespace.Declarations)
    (content : Content) :
    (fill ⟨e, scopes, []⟩ content).close =
      { e with text := textOfRuns content.runs, children := content.children } := by
  have filled := fill_eq e scopes [] [] content
  rw [← eq_text_of_empty empty] at filled
  rw [filled, close]
  simp

end Frame

end Sample

end XsdInfer
