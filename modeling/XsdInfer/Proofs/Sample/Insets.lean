import XsdInfer.Proofs.Inference.Ledger
import XsdInfer.Proofs.Sample.Fronts
import XsdInfer.Proofs.Sample.Retracing

/-!
# Markup inside of character data

A comment, an instruction or a section of literal data is set into a run of character data, between
two of its characters or in the place of some of them (`Passage.withInset`). The data is then read in
three runs, so that the document is the same just if they are seamless, and the inset can be read at
all (`Passage.InData.parse_withInset_iff`). Main statement: the text of an element, and with it the
document and its schema, depend on where the data is cut (`Conversion.depends_on_seams`).
-/

namespace XsdInfer

namespace Sample

open Event (Marks)
open Reference (Decodes)
open Steps (eq_ok_of_mapError foldlM_append_eq_ok_iff foldlM_cons_eq_ok_iff foldlM_nil_eq_ok_iff)

/-! ## Insets -/

/-- Markup that may stand inside of character data, where it says nothing, or the data in it. None of
it contains the mark that ends it. -/
inductive Inset where
  | comment (body : List Char) (whole : ¬ "-->".toList <:+: body)
  | instruction (body : List Char) (whole : ¬ "?>".toList <:+: body)
  | literal (data : List Char) (whole : ¬ "]]>".toList <:+: data)

namespace Inset

/-- An inset from behind its bracket on. -/
def inner : Inset → List Char
  | comment body _ => "!--".toList ++ body ++ "-->".toList
  | instruction body _ => "?".toList ++ body ++ "?>".toList
  | literal data _ => "![CDATA[".toList ++ data ++ "]]>".toList

/-- An inset has something in it. -/
lemma inner_ne_nil (i : Inset) : i.inner ≠ [] := by
  cases i <;> exact List.append_ne_nil_of_right_ne_nil _ (by decide)

/-- An inset as it is written. -/
def text (i : Inset) : List Char :=
  '<' :: i.inner

/-- The data that an inset says. -/
def data : Inset → List Char
  | literal data _ => data
  | _ => []

def event : Inset → Event
  | literal data _ => .cdata data
  | _ => .aside

/-- An inset that a reader comes over: an instruction says something, and holds no bracket. -/
def Readable : Inset → Prop
  | instruction body _ => body ≠ [] ∧ '>' ∉ body
  | _ => True

instance : (i : Inset) → Decidable i.Readable
  | comment _ _ => .isTrue trivial
  | instruction body _ => inferInstanceAs (Decidable (body ≠ [] ∧ '>' ∉ body))
  | literal _ _ => .isTrue trivial

variable {limits : Limits} {opened opened' : List (List Char)} {event : Event} {t : List Char}

/-- A readable inset is read as its event, whatever stands behind it. -/
lemma marks {i : Inset} (readable : i.Readable) (rest : List Char) :
    Marks opened (i.inner ++ rest) i.event opened rest := by
  cases i with
  | comment body whole => exact Event.marks_comment whole rest
  | instruction body whole => exact Event.marks_instruction readable.1 readable.2 rest
  | literal data whole => exact Event.marks_literal whole rest

/-- Only a readable inset is read at all. -/
lemma readable_of_marks {i : Inset} {rest : List Char}
    (h : Marks opened (i.inner ++ rest) event opened' t) : i.Readable := by
  cases i with
  | comment | literal => trivial
  | instruction body whole =>
    have h : Marks opened ("?".toList ++ body ++ "?>".toList ++ rest) event opened' t := h
    rw [Event.instruction_eq] at h
    cases h with
    | empty plain => exact absurd (plain '?' rfl) (by simp)
    | start plain => exact absurd (plain '?' rfl) (by simp)
    | instruction wide last =>
      constructor
      -- Without a body, the two question marks are all that there is, which is too short.
      · rintro rfl
        have cut : Text.upTo '>' ('?' :: ([] ++ '?' :: '>' :: rest)) = (['?', '?'], rest) :=
          Text.upTo_append (s := ['?', '?']) (by decide) rest
        have short : ¬ 2 < Text.width ['?', '?'] := by decide
        rw [cut] at wide
        exact short wide
      · intro mem
        -- With a bracket in the body, markup ends there, and behind a question mark.
        obtain none | ⟨a, b, none, rfl⟩ := Text.upTo_cases '>' body
        · exact none mem
        have bracket : '>' ∉ '?' :: a := by simp [none]
        have cut : Text.upTo '>' ('?' :: (a ++ '>' :: b ++ '?' :: '>' :: rest)) =
            ('?' :: a, b ++ '?' :: '>' :: rest) := by
          rw [← Text.upTo_append bracket]
          simp
        rw [cut] at wide last
        cases a using List.reverseRecOn with
        | nil =>
          have short : ¬ 2 < Text.width ['?'] := by decide
          exact absurd wide short
        | append_singleton a c =>
          rw [← List.cons_append, List.getLast?_concat] at last
          obtain rfl := Option.some.inj last
          exact whole ⟨a, b, by simp⟩

/-- A draft takes up an inset as the data that it says. -/
lemma step_event {i : Inset} {d d' : Draft} :
    d.step limits i.event = .ok d' ↔ d.addText i.data = .ok d' := by
  cases i with
  | comment | instruction =>
    show d.step limits .aside = .ok d' ↔ d.addText [] = .ok d'
    rw [Draft.step, Draft.addText_of_blank (by simp), Except.ok.injEq, Except.ok.injEq]
  | literal data =>
    show (d.addText data).mapError Failure.problem = .ok d' ↔ d.addText data = .ok d'
    refine ⟨eq_ok_of_mapError, fun added => ?_⟩
    rw [added]
    rfl

end Inset

/-! ## Passages -/

/-- A sample, taken apart where some of its character data begins and ends, and around a part of this
data. -/
structure Passage where
  before : List Char
  lead : List Char
  part : List Char := []
  trail : List Char
  behind : List Char

namespace Passage

/-- The data that is taken apart. -/
def run (p : Passage) : List Char :=
  p.lead ++ p.part ++ p.trail

def xml (p : Passage) : String :=
  String.ofList (p.before ++ (p.run ++ p.behind))

/-- The sample with an inset in the place of the part. -/
def withInset (p : Passage) (i : Inset) : String :=
  String.ofList (p.before ++ (p.lead ++ (i.text ++ (p.trail ++ p.behind))))

/-- The data of a passage is a run of character data: a reader comes to its start over some pieces, and
it goes on to the next bracket. -/
structure InData (p : Passage) : Prop where
  reached : ∃ events opened,
    Over [] (withoutMark (p.before ++ (p.run ++ p.behind))) events opened (p.run ++ p.behind)
  nonempty : p.run ≠ []
  plain : '<' ∉ p.run
  stop : p.behind = [] ∨ p.behind.head? = some '<'

variable {limits : Limits} {p : Passage} {i : Inset} {opened : List (List Char)} {more : List Event}
  {x z : List Char} {root : Element}

/-- A byte order mark in front of a text stays there, whatever stands behind it. -/
lemma withoutMark_append {before x y q : List Char} (h : withoutMark (before ++ x) = q ++ x)
    (first : y.head? = x.head? ∨ y.head? = some '<') : withoutMark (before ++ y) = q ++ y := by
  cases before with
  | cons c before =>
    by_cases mark : c = '\uFEFF'
    · subst mark
      have same : before ++ x = q ++ x := h
      rw [List.append_cancel_right same]
      rfl
    · rw [withoutMark_eq_self (by simpa using mark)] at h ⊢
      rw [List.append_cancel_right h]
  | nil =>
    have unmarked : x.head? ≠ some '\uFEFF' := by
      intro marked
      obtain ⟨t, rfl⟩ := List.head?_eq_some_iff.mp marked
      have lengths := congrArg List.length h
      rw [List.length_append] at lengths
      have shorter : t.length = q.length + (t.length + 1) := lengths
      omega
    have plain : y.head? ≠ some '\uFEFF' := by
      obtain same | bracket := first
      · rw [same]
        exact unmarked
      · rw [bracket]
        decide
    rw [List.nil_append, withoutMark_eq_self unmarked] at h
    rw [List.nil_append, withoutMark_eq_self plain]
    have none : q = [] := by simpa using h
    rw [none, List.nil_append]

/-- A reader comes to the data over the same pieces, whether there is an inset in it or not. -/
lemma InData.exists_front (h : p.InData) : ∃ front opened,
    Over [] (withoutMark p.xml.toList) front opened (p.run ++ p.behind) ∧
      ∀ i, Over [] (withoutMark (p.withInset i).toList) front opened
        (p.lead ++ (i.text ++ (p.trail ++ p.behind))) := by
  obtain ⟨front, opened, pieces⟩ := h.reached
  refine ⟨front, opened, by rwa [xml, String.toList_ofList], fun i => ?_⟩
  obtain ⟨c, s, first⟩ := List.exists_cons_of_ne_nil h.nonempty
  have other : (p.run ++ p.behind).head? ≠ some '<' := by
    intro bracket
    have plain := h.plain
    rw [first] at bracket plain
    obtain rfl := Option.some.inj bracket
    exact plain (.head _)
  obtain ⟨q, whole, reads⟩ := pieces.exists_front (by simp [h.nonempty]) other
  have alike : (p.lead ++ (i.text ++ (p.trail ++ p.behind))).head? = (p.run ++ p.behind).head? ∨
      (p.lead ++ (i.text ++ (p.trail ++ p.behind))).head? = some '<' := by
    rw [run]
    cases p.lead with
    | nil => exact .inr rfl
    | cons c lead => exact .inl rfl
  rw [withInset, String.toList_ofList, withoutMark_append whole alike]
  exact reads _

/-- The events of a run that may be missing add its data to a draft. -/
lemma foldlM_run_iff {run data : List Char} {events : List Event} {d d' : Draft}
    (said : events = [] ∧ run = [] ∨ events = [.text run]) (decodes : Decodes run data) :
    events.foldlM (Draft.step limits) d = .ok d' ↔ d.addText data = .ok d' := by
  obtain ⟨rfl, rfl⟩ | rfl := said
  · cases decodes
    rw [foldlM_nil_eq_ok_iff, Draft.addText_of_blank (by simp), Except.ok.injEq]
  · simp only [foldlM_cons_eq_ok_iff, foldlM_nil_eq_ok_iff, exists_eq_right, Draft.step_text_eq_ok_iff]
    constructor
    · rintro ⟨data', decodes', added⟩
      rwa [decodes.unique decodes']
    · exact fun added => ⟨data, decodes, added⟩

/-- With a readable inset, the data is read in three runs. -/
lemma InData.exists_told (h : p.InData) (readable : i.Readable) (lead : Decodes p.lead x)
    (trail : Decodes p.trail z) (told : Told opened p.behind more) :
    ∃ inside, Told opened (p.lead ++ (i.text ++ (p.trail ++ p.behind))) (inside ++ more) ∧
      ∀ d d' : Draft, inside.foldlM (Draft.step limits) d = .ok d' ↔
        [x, i.data, z].foldlM Draft.addText d = .ok d' := by
  have plain := h.plain
  rw [run, List.mem_append, List.mem_append, not_or, not_or] at plain
  obtain ⟨opened', rest, pieces, ends⟩ := told
  obtain ⟨last, last_said, pieces⟩ := pieces.exists_data plain.2 h.stop
  have pieces := Over.markup (Inset.marks readable (p.trail ++ p.behind)) pieces
  obtain ⟨first, first_said, pieces⟩ := pieces.exists_data plain.1.1 (.inr rfl)
  refine ⟨first ++ i.event :: last, ⟨opened', rest, ?_, ends⟩, fun d d' => ?_⟩
  · simpa [Inset.text] using pieces
  · simp only [foldlM_append_eq_ok_iff, foldlM_cons_eq_ok_iff, foldlM_nil_eq_ok_iff, exists_eq_right,
      foldlM_run_iff first_said lead, foldlM_run_iff last_said trail, Inset.step_event]

/-- Only with a readable inset, anything is told of the data and the text behind it. -/
lemma InData.readable_of_told (h : p.InData) {events : List Event}
    (told : Told opened (p.lead ++ (i.text ++ (p.trail ++ p.behind))) events) : i.Readable := by
  have plain := h.plain
  rw [run, List.mem_append, List.mem_append, not_or, not_or] at plain
  have here : Over opened (i.text ++ (p.trail ++ p.behind)) [] opened
      (i.text ++ (p.trail ++ p.behind)) := .done
  obtain ⟨lead, -, pieces⟩ := here.exists_data plain.1.1 (.inr rfl)
  obtain ⟨more, -, opened', rest, pieces, ends⟩ := pieces.exists_split told
  -- The inset is longer than a bracket, and begins with one, so that it is read as markup.
  generalize whole : i.text ++ (p.trail ++ p.behind) = s at pieces
  cases pieces with
  | done =>
    subst whole
    obtain nil | bracket := ends
    · cases nil
    · have none := (List.cons.inj bracket).2
      exact absurd (List.append_eq_nil_iff.mp none).1 i.inner_ne_nil
  | markup marks =>
    cases whole
    exact Inset.readable_of_marks marks
  | @data _ _ run _ _ _ nonempty plain =>
    cases run with
    | nil => exact absurd rfl nonempty
    | cons c run =>
      obtain rfl := (List.cons.inj whole).1
      exact absurd (.head _) plain

/-- The document with an inset is the one without it just if the inset is readable, and the three runs
of data around it and in it are seamless. -/
lemma InData.parse_withInset_iff (h : p.InData) (lead : Decodes p.lead x) (part : Decodes p.part i.data)
    (trail : Decodes p.trail z) (made : parse limits p.xml = .ok root) :
    parse limits (p.withInset i) = .ok root ↔ i.Readable ∧ Seamless [x, i.data, z] := by
  obtain ⟨events, told, led⟩ := parse_eq_ok_iff.mp made
  obtain ⟨front, opened, pieces, pieces'⟩ := h.exists_front
  have data : Over opened (p.run ++ p.behind) [.text p.run] opened p.behind :=
    .data h.nonempty h.plain h.stop .done
  obtain ⟨more, rfl, behind⟩ := (pieces.append data).exists_split told
  simp only [foldlM_append_eq_ok_iff, foldlM_cons_eq_ok_iff, foldlM_nil_eq_ok_iff,
    exists_eq_right] at led
  obtain ⟨d₁, ⟨d, before, taken⟩, after⟩ := led
  have added : d.addText [x, i.data, z].flatten = .ok d₁ := by
    obtain ⟨data, decodes, added⟩ := Draft.step_text_eq_ok_iff.mp taken
    have whole := (lead.append part).append trail
    rw [decodes.unique whole] at added
    simpa using added
  constructor
  · intro made'
    obtain ⟨events', told', led'⟩ := parse_eq_ok_iff.mp made'
    obtain ⟨rest, rfl, inner⟩ := (pieces' i).exists_split told'
    have readable := h.readable_of_told inner
    obtain ⟨inside, inner', same⟩ := h.exists_told readable lead trail behind
    obtain rfl := inner.unique inner'
    simp only [foldlM_append_eq_ok_iff] at led'
    obtain ⟨d', before', d₂, taken', after'⟩ := led'
    obtain rfl := Except.ok.inj (before.symm.trans before')
    -- Both of the drafts behind the data lead to the document, so that they are the same.
    have start : Draft.Regular {} := ⟨trivial, fun f mem => absurd mem List.not_mem_nil⟩
    have regular := start.of_foldlM before
    obtain rfl := Draft.Regular.eq_of_foldlM (regular.of_moves (Draft.step_eq_ok_iff.mp taken))
      (regular.of_foldlM taken') after after'
    exact ⟨readable, (Draft.foldlM_addText_iff added).mp ((same _ _).mp taken')⟩
  · rintro ⟨readable, seamless⟩
    obtain ⟨inside, ⟨opened', rest, inner, ends⟩, same⟩ :=
      h.exists_told readable lead trail behind
    have taken' := (same _ _).mpr ((Draft.foldlM_addText_iff added).mpr seamless)
    have told' : Told [] (withoutMark (p.withInset i).toList) (front ++ (inside ++ more)) :=
      ⟨opened', rest, (pieces' i).append inner, ends⟩
    refine parse_eq_ok_iff.mpr ⟨_, told', ?_⟩
    simp only [foldlM_append_eq_ok_iff]
    exact ⟨d, before, d₁, taken', after⟩

end Passage

/-! ## Conversions -/

/-- An element with the text that its data makes in runs, which is the text of all of the data just if
the runs are seamless. -/
structure Opening.Joins (o : Opening) (p : Element.Place) : Prop where
  runs : p.2.text = textOfRuns o.runs
  whole : p.2.text = textOfData o.runs.flatten ↔ Seamless o.runs

end Sample

namespace Conversion

open Sample
open Event (Marks)

variable {c : Conversion} {xml xml' : String} {root : Element}

/-- Samples of one document are converted alike, if there is room for both. -/
lemma convert_congr (made : parse c.limits xml = .ok root) (made' : parse c.limits xml' = .ok root)
    (room : xml.utf8ByteSize ≤ c.limits.size) (room' : xml'.utf8ByteSize ≤ c.limits.size) :
    c.convert xml = c.convert xml' := by
  have within : c.limits.check .size xml.utf8ByteSize = .ok () := Limits.check_eq_ok_iff.mpr room
  have within' : c.limits.check .size xml'.utf8ByteSize = .ok () := Limits.check_eq_ok_iff.mpr room'
  rw [convert, convert, infer, infer, within, within', made, made']

/-- The text of an element depends on where its data is cut: it is the text of all of the data just if
the runs are seamless. So an inset in the data leaves the document and its schema as they are if the
runs around it are seamless; and if not, the document is another one. -/
theorem depends_on_seams (made : parse c.limits xml = .ok root) :
    (∃ events, Told [] (withoutMark xml.toList) events ∧
      List.Forall₂ Opening.Joins (openings 0 [] events) root.places) ∧
    ∀ (p : Passage) (i : Inset) (x z : List Char), p.xml = xml → p.InData → Reference.Decodes p.lead x →
      Reference.Decodes p.part i.data → Reference.Decodes p.trail z →
        (parse c.limits (p.withInset i) = .ok root ↔ i.Readable ∧ Seamless [x, i.data, z]) ∧
        (i.Readable → Seamless [x, i.data, z] → xml.utf8ByteSize ≤ c.limits.size →
          (p.withInset i).utf8ByteSize ≤ c.limits.size → c.convert (p.withInset i) = c.convert xml) := by
  constructor
  · obtain ⟨events, told, led⟩ := parse_eq_ok_iff.mp made
    refine ⟨events, told, (keeps_of_foldlM led).places.imp fun o p yields => ?_⟩
    obtain ⟨e, -, filled⟩ := yields.here
    have text : p.2.text = textOfRuns o.runs := congrArg Element.text filled
    exact ⟨text, text ▸ textOfRuns_eq_iff⟩
  · rintro p i x z rfl inside lead part trail
    have same := inside.parse_withInset_iff lead part trail made
    refine ⟨same, fun readable seamless room room' => ?_⟩
    exact convert_congr (same.mpr ⟨readable, seamless⟩) made room' room

/-- A reference between spaces is written as literal data. -/
theorem depends_on_seams_literal :
    let p : Passage := ⟨"<a>".toList, "1 ".toList, "&amp;".toList, " 2".toList, "</a>".toList⟩
    ∃ (i : Inset) (root : Element), i.text = "<![CDATA[&]]>".toList ∧ parse {} p.xml = .ok root ∧
      p.InData ∧ parse {} (p.withInset i) = .ok root ∧
        convert {} (p.withInset i) = convert {} p.xml := by
  intro p
  let i : Inset := .literal ['&'] (by decide)
  have tag : Marks [] "a>1 &amp; 2</a>".toList (.start (.ofContent ['a'])) [['a']]
      "1 &amp; 2</a>".toList :=
    Event.marks_start 'a' [] (by decide) (by decide) rfl (by decide) _
  have front : Over [] "<a>1 &amp; 2</a>".toList [.start (.ofContent ['a'])] [['a']]
      "1 &amp; 2</a>".toList := .markup tag .done
  have inside : p.InData := ⟨⟨_, _, front⟩, by decide, by decide, .inr rfl⟩
  have accepted : (parse {} p.xml).isOk = true := by decide +kernel
  obtain ⟨root, made⟩ := Steps.exists_ok_iff.mpr accepted
  have part : Reference.Decodes "&amp;".toList ['&'] := Reference.decode_eq_ok_iff.mp (by decide +kernel)
  obtain ⟨same, converted⟩ := (depends_on_seams (c := {}) made).2 p i "1 ".toList " 2".toList rfl inside
    (.of_plain (by decide)) part (.of_plain (by decide))
  have seamless : Seamless ["1 ".toList, ['&'], " 2".toList] := by decide
  exact ⟨i, root, rfl, made, inside, same.mpr ⟨trivial, seamless⟩,
    converted trivial seamless (by decide +kernel) (by decide +kernel)⟩

/-- Not every readable inset is without effect: here a comment stands between two digits. -/
theorem not_forall_parse_withInset :
    ¬ ∀ (p : Passage) (i : Inset) (x z : List Char) (root : Element), p.InData →
      Reference.Decodes p.lead x → Reference.Decodes p.part i.data → Reference.Decodes p.trail z →
        i.Readable → parse {} p.xml = .ok root → parse {} (p.withInset i) = .ok root := by
  intro h
  let p : Passage := ⟨"<a>".toList, ['1'], [], ['2'], "</a>".toList⟩
  let i : Inset := .comment ['c'] (by decide)
  have tag : Marks [] "a>12</a>".toList (.start (.ofContent ['a'])) [['a']] "12</a>".toList :=
    Event.marks_start 'a' [] (by decide) (by decide) rfl (by decide) _
  have front : Over [] "<a>12</a>".toList [.start (.ofContent ['a'])] [['a']] "12</a>".toList :=
    .markup tag .done
  have inside : p.InData := ⟨⟨_, _, front⟩, by decide, by decide, .inr rfl⟩
  have accepted : (parse {} p.xml).map Element.text = .ok (some "12") := by decide +kernel
  have apart : (parse {} (p.withInset i)).map Element.text = .ok (some "1 2") := by decide +kernel
  cases made : parse {} p.xml with
  | error e =>
    rw [made] at accepted
    cases accepted
  | ok root =>
    have same := h p i ['1'] ['2'] root inside (.of_plain (by decide)) .nil (.of_plain (by decide))
      trivial made
    rw [made] at accepted
    rw [same] at apart
    have texts := accepted.symm.trans apart
    exact absurd texts (by decide)

end Conversion

end XsdInfer
