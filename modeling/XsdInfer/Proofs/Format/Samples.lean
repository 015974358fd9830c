import XsdInfer.Format
import XsdInfer.Proofs.Name.Characters
import XsdInfer.Proofs.Sample.Fronts
import XsdInfer.Proofs.Sample.Gathered
import XsdInfer.Proofs.Sample.Pieces

/-!
# Formats of samples

What format a sample that is read seems to have. A sample holds a tag (`exists_tag_of_parse`), and an end
tag too, unless its root is one empty tag (`exists_stop_of_parse`); in front of the first markup stand
blanks alone, but these may be written as references, and a byte order mark is passed over
(`head?_trim_of_parse`). Main statement: a sample never seems to be JSON; and one that begins with a bracket
seems to be markup, unless it is a lone empty tag without a declaration and without the marks of a schema
or a web page (`detect_of_parse`).
-/

namespace XsdInfer.Sample

open Steps (foldlM_cons_eq_ok_iff foldlM_nil_eq_ok_iff)
open Text (isBlank trim)
open Event (Marks cases_of_ofBangText)

variable {limits : Limits} {opened opened' : List (List Char)} {s t rest : List Char} {event : Event}
  {events : List Event} {d d' : Draft} {root : Element} {tag : Tag}

/-! ## Tags of a sample -/

/-- A tag with a name has something in it, and does not start with its end. -/
lemma Tag.exists_cons_of_named {content : List Char}
    (named : Name.isQualified (ofContent content).name = true) : ∃ c u, content = c :: u ∧ c ≠ '>' := by
  have written : (ofContent content).name.toList = nameOf content := String.toList_ofList
  have plain := Name.not_mem_delimiters_of_isQualified named
  have nonempty := Name.ne_nil_of_isQualified named
  rw [written, nameOf] at plain nonempty
  cases content with
  | nil => exact absurd rfl nonempty
  | cons c u =>
    rw [List.takeWhile_cons] at plain nonempty
    split at nonempty
    next visible =>
      rw [if_pos visible] at plain
      refine ⟨c, u, rfl, ?_⟩
      rintro rfl
      exact plain '>' (.head _) (by decide)
    next => exact absurd rfl nonempty

/-- A tag with a name stands in brackets, and is not empty. -/
lemma exists_of_tag? (marks : Marks opened s event opened' t) (tagged : event.tag? = some tag)
    (named : Name.isQualified tag.name = true) : ∃ c u v, s = c :: (u ++ '>' :: v) ∧ c ≠ '>' := by
  cases marks with
  | bang _ _ said =>
    obtain ⟨-, rfl, -⟩ | ⟨-, rfl, -⟩ | ⟨-, rfl, -⟩ := cases_of_ofBangText said <;> cases tagged
  | stop => cases tagged
  | instruction => cases tagged
  | @empty _ _ content _ _ cut =>
    cases tagged
    obtain ⟨c, u, rfl, other⟩ := Tag.exists_cons_of_named named
    exact ⟨c, u ++ ['/'], t, cut.whole, other⟩
  | @start _ _ content _ _ cut =>
    cases tagged
    obtain ⟨c, u, rfl, other⟩ := Tag.exists_cons_of_named named
    exact ⟨c, u, t, cut.whole, other⟩

/-- What is behind markup is a part of the text. -/
lemma suffix_of_marks (marks : Marks opened s event opened' t) : t <:+ s := by
  by_cases none : t = []
  · rw [none]
    exact List.nil_suffix
  · obtain ⟨q, rfl, -⟩ := marks.exists_front none
    exact List.suffix_append q t

/-- Each event that is no character data is said by markup somewhere in the text. -/
lemma Over.exists_marks (pieces : Over opened s events opened' rest) (mem : event ∈ events)
    (other : ∀ run, event ≠ .text run) :
    ∃ a u opened₁ opened₂ t, s = a ++ '<' :: u ∧ Marks opened₁ u event opened₂ t := by
  induction pieces with
  | done => cases mem
  | @markup _ _ _ s t _ _ _ marks _ ih =>
    obtain rfl | later := List.mem_cons.mp mem
    · exact ⟨[], s, _, _, t, rfl, marks⟩
    · obtain ⟨a, u, _, _, t', rfl, marks'⟩ := ih later
      obtain ⟨q, rfl⟩ := suffix_of_marks marks
      exact ⟨'<' :: (q ++ a), u, _, _, t', by simp, marks'⟩
  | @data _ _ run _ _ _ _ _ _ _ ih =>
    obtain rfl | later := List.mem_cons.mp mem
    · exact absurd rfl (other run)
    · obtain ⟨a, u, _, _, t, rfl, marks⟩ := ih later
      exact ⟨run ++ a, u, _, _, t, by simp, marks⟩

/-- A text without its mark is the end of the text. -/
lemma withoutMark_suffix (s : List Char) : withoutMark s <:+ s := by
  unfold withoutMark
  split
  next => exact List.suffix_cons _ _
  next => exact List.suffix_refl _

/-- The events of a sample that are no character data are said by markup in it. -/
lemma Told.exists_marks (told : Told [] (withoutMark s) events) (mem : event ∈ events)
    (other : ∀ run, event ≠ .text run) :
    ∃ a u opened₁ opened₂ t, s = a ++ '<' :: u ∧ Marks opened₁ u event opened₂ t := by
  obtain ⟨_, _, pieces, -⟩ := told
  obtain ⟨a, u, _, _, t, eq, marks⟩ := pieces.exists_marks mem other
  obtain ⟨mark, whole⟩ := withoutMark_suffix s
  exact ⟨mark ++ a, u, _, _, t, by rw [← whole, eq, List.append_assoc], marks⟩

/-- A sample that is read holds a tag. -/
lemma exists_tag_of_parse {xml : String} (h : parse limits xml = .ok root) :
    ∃ a c u v, xml.toList = a ++ '<' :: c :: (u ++ '>' :: v) ∧ c ≠ '>' := by
  obtain ⟨events, told, made⟩ := parse_eq_ok_iff.mp h
  have length := (keeps_of_foldlM made).length
  rw [Element.places_eq, Element.placesFrom_eq, List.length_cons] at length
  obtain ⟨tag, mem⟩ := List.exists_mem_of_length_pos (Nat.lt_of_lt_of_eq (Nat.succ_pos _) length)
  obtain ⟨event, mem, tagged⟩ := List.mem_filterMap.mp mem
  obtain ⟨c, opens⟩ := exists_opens_of_foldlM made mem tagged
  have other : ∀ run, event ≠ .text run := by
    rintro run rfl
    cases tagged
  obtain ⟨a, s, _, _, _, whole, marks⟩ := told.exists_marks mem other
  obtain ⟨c, u, v, rfl, inside⟩ := exists_of_tag? marks tagged opens.named
  exact ⟨a, c, u, v, whole, inside⟩

/-! ## End tags -/

/-- What is open stays so without an end tag. -/
lemma stack_ne_nil_of_foldlM (h : events.foldlM (Draft.step limits) d = .ok d') (none : .stop ∉ events)
    (deep : d.stack ≠ []) : d'.stack ≠ [] := by
  induction events generalizing d with
  | nil =>
    rw [foldlM_nil_eq_ok_iff] at h
    exact h ▸ deep
  | cons event events ih =>
    obtain ⟨d₁, first, rest⟩ := foldlM_cons_eq_ok_iff.mp h
    refine ih rest (fun mem => none (.tail _ mem)) ?_
    cases Draft.step_eq_ok_iff.mp first with
    | start => exact List.cons_ne_nil _ _
    | empty _ _ attached =>
      cases attached with
      | inside => exact List.cons_ne_nil _ _
      | root => exact absurd rfl deep
    | stop => exact absurd (.head _) none
    | data => exact List.cons_ne_nil _ _
    | blank => exact absurd rfl deep
    | aside => exact deep

/-- Without an end tag, the root comes from an empty tag. -/
lemma plain_of_foldlM {root? : Option Element}
    (h : events.foldlM (Draft.step limits) ⟨[], root?⟩ = .ok ⟨[], some root⟩) (none : .stop ∉ events)
    (plain : ∀ e ∈ root?, e.text = .none ∧ e.children = []) : root.text = .none ∧ root.children = [] := by
  induction events generalizing root? with
  | nil =>
    cases foldlM_nil_eq_ok_iff.mp h
    exact plain root rfl
  | cons event events ih =>
    obtain ⟨d₁, first, rest⟩ := foldlM_cons_eq_ok_iff.mp h
    have none' : .stop ∉ events := fun mem => none (.tail _ mem)
    cases Draft.step_eq_ok_iff.mp first with
    | start => exact absurd rfl (stack_ne_nil_of_foldlM rest none' (List.cons_ne_nil _ _))
    | empty opens _ attached =>
      cases attached with
      | root => exact ih rest none' fun e mem => Option.mem_some.mp mem ▸ plain_of_openTag opens
    | blank => exact ih rest none' plain
    | aside => exact ih rest none' plain

/-- A sample that is read holds an end tag, unless its root has neither children nor a text. -/
lemma exists_stop_of_parse {xml : String} (h : parse limits xml = .ok root)
    (content : root.children ≠ [] ∨ root.text ≠ none) : ∃ a b, xml.toList = a ++ '<' :: '/' :: b := by
  obtain ⟨events, told, made⟩ := parse_eq_ok_iff.mp h
  by_cases mem : .stop ∈ events
  · obtain ⟨a, s, _, _, _, whole, marks⟩ := told.exists_marks mem (by simp)
    cases marks with
    | bang _ _ said =>
      obtain ⟨-, other, -⟩ | ⟨-, other, -⟩ | ⟨-, other, -⟩ := cases_of_ofBangText said <;> cases other
    | @stop _ _ b => exact ⟨a, b, whole⟩
  · obtain ⟨text, children⟩ := plain_of_foldlM made mem (by simp)
    exact absurd content (by simp [text, children])

/-! ## The front of a sample -/

/-- Data that says blanks alone is blank, or a reference stands behind its first blanks. -/
lemma blank_or_reference {run data : List Char} (decodes : Reference.Decodes run data)
    (blank : ∀ c ∈ data, isBlank c = true) :
    (∀ c ∈ run, isBlank c = true) ∨ ∃ a b, run = a ++ '&' :: b ∧ ∀ c ∈ a, isBlank c = true := by
  induction decodes with
  | nil => exact .inl nofun
  | @char c s d _ _ ih =>
    obtain ⟨first, others⟩ := List.forall_mem_cons.mp blank
    obtain all | ⟨a, b, rfl, lead⟩ := ih others
    · exact .inl (List.forall_mem_cons.mpr ⟨first, all⟩)
    · exact .inr ⟨c :: a, b, rfl, List.forall_mem_cons.mpr ⟨first, lead⟩⟩
  | reference => exact .inr ⟨[], _, rfl, nofun⟩

/-- In front of the first bracket of a sample stand blanks alone, but these may be written as references,
and a byte order mark is passed over. -/
lemma head?_trim_of_parse {xml : String} (h : parse limits xml = .ok root) :
    ∃ c ∈ ['<', '&', '\uFEFF'], (trim xml.toList).head? = some c := by
  obtain ⟨a, c, u, v, whole, -⟩ := exists_tag_of_parse h
  have bracket : '<' ∈ xml.toList := by simp [whole]
  obtain ⟨events, ⟨_, _, pieces, -⟩, made⟩ := parse_eq_ok_iff.mp h
  generalize xml.toList = s at bracket pieces
  by_cases mark : s.head? = some '\uFEFF'
  · obtain ⟨t, rfl⟩ := List.head?_eq_some_iff.mp mark
    exact ⟨'\uFEFF', by decide, Text.head?_trim (s := []) (by decide) nofun t⟩
  rw [withoutMark_eq_self mark] at pieces
  have visible : isBlank '<' = false ∧ isBlank '&' = false := by decide
  cases pieces with
  | done => cases foldlM_nil_eq_ok_iff.mp made
  | @markup _ _ _ t => exact ⟨'<', by decide, Text.head?_trim (s := []) visible.1 nofun t⟩
  | @data _ _ run t _ events _ plain stop _ =>
    obtain ⟨d, first, -⟩ := foldlM_cons_eq_ok_iff.mp made
    cases Draft.step_eq_ok_iff.mp first with
    | blank said blank =>
      obtain lead | ⟨x, y, rfl, lead⟩ := blank_or_reference (Event.data?_text_iff.mp said) blank
      · obtain rfl | front := stop
        · exact absurd (by simpa using bracket) plain
        · obtain ⟨t, rfl⟩ := List.head?_eq_some_iff.mp front
          exact ⟨'<', by decide, Text.head?_trim visible.1 lead t⟩
      · rw [List.append_assoc, List.cons_append]
        exact ⟨'&', by decide, Text.head?_trim visible.2 lead (y ++ t)⟩

end XsdInfer.Sample

namespace XsdInfer.Format

variable {limits : Limits} {root : Element} {s : List Char} {c : Char}

/-- Whether a format is one of markup. -/
def isMarkup : Format → Bool
  | xsd => true
  | xml => true
  | html => true
  | _ => false

/-- A tag stays one when something stands before it. -/
lemma holdsTag_cons (h : holdsTag s = true) (c : Char) : holdsTag (c :: s) = true := by
  by_cases bracket : c = '<'
  · subst bracket
    cases s with
    | nil => exact h
    | cons => rw [holdsTag, h, Bool.or_true]
  · rw [holdsTag]
    · exact h
    · exact fun _ _ first _ => bracket first

/-- A bracket and another one behind it make a tag, if there is something in between. -/
lemma holdsTag_append {t : List Char} (other : c ≠ '>') (bracket : '>' ∈ t) (s : List Char) :
    holdsTag (s ++ '<' :: c :: t) = true := by
  induction s with
  | nil => simp [holdsTag, other, bracket]
  | cons a s ih => exact holdsTag_cons ih a

/-- A text that begins with another character is no object and no array. -/
lemma looksLikeJson_eq_false (first : s.head? = some c) (other : c ∉ ['\x7b', '[']) :
    looksLikeJson s = false := by
  simp only [List.mem_cons, List.not_mem_nil, or_false, not_or] at other
  simp [looksLikeJson, isBetween, first, other.1, other.2]

/-- Markup comes right behind JSON, so that what the other formats look for does not matter to it. -/
lemma isMarkup_ofTrimmed_iff (some : s ≠ []) (json : looksLikeJson s = false) :
    (ofTrimmed s).isMarkup = true ↔
      looksLikeXsd s = true ∨ looksLikeHtml s = true ∨ looksLikeXml s = true := by
  have rest : (if looksLikeCsv s then csv else if looksLikeYaml s then yaml
      else if looksLikeMarkdown s then markdown else unknown).isMarkup = false := by
    split_ifs <;> rfl
  rw [ofTrimmed, List.isEmpty_eq_false_iff.mpr some, json]
  simp only [Bool.false_eq_true, if_false]
  by_cases schema : looksLikeXsd s = true
  · simp [schema, isMarkup]
  by_cases page : looksLikeHtml s = true
  · simp [schema, page, isMarkup]
  by_cases markup : looksLikeXml s = true
  · simp [schema, page, markup, isMarkup]
  · simp [schema, page, markup, rest]

/-- What does not look like JSON is not taken for it. -/
lemma ofTrimmed_ne_json (json : looksLikeJson s = false) : ofTrimmed s ≠ .json := by
  rw [ofTrimmed, json]
  simp only [Bool.false_eq_true, if_false]
  split_ifs <;> exact nofun

/-- Trimming leaves the tag that a sample holds. -/
lemma holdsTag_trim_of_parse {xml : String} (h : Sample.parse limits xml = .ok root) :
    '>' ∈ Text.trim xml.toList ∧ holdsTag (Text.trim xml.toList) = true := by
  obtain ⟨a, c, u, v, whole, other⟩ := Sample.exists_tag_of_parse h
  have visible : Text.isBlank '<' = false ∧ Text.isBlank '>' = false := by decide
  have left := Text.trim_between visible.1 visible.2 a (c :: u) v
  rw [List.cons_append] at left
  rw [whole, left]
  exact ⟨by simp, holdsTag_append other (by simp) _⟩

/-- And the start of an end tag. -/
lemma occurs_trim_of_parse {xml : String} (h : Sample.parse limits xml = .ok root)
    (content : root.children ≠ [] ∨ root.text ≠ none) :
    Text.occurs "</".toList (Text.trim xml.toList) = true := by
  obtain ⟨a, b, whole⟩ := Sample.exists_stop_of_parse h content
  have visible : Text.isBlank '<' = false ∧ Text.isBlank '/' = false := by decide
  have left := Text.trim_between visible.1 visible.2 a [] b
  rw [List.nil_append] at left
  rw [whole, left]
  exact Text.occurs_append "</".toList _ _

/-- A text that holds a tag seems to be markup just if it has the marks of a web page, or begins with a
bracket and has the marks of a schema, a declaration or an end tag. -/
lemma isMarkup_ofTrimmed_iff_of_tag (json : looksLikeJson s = false) (bracket : '>' ∈ s)
    (tag : holdsTag s = true) : (ofTrimmed s).isMarkup = true ↔
      looksLikeHtml s = true ∨ s.head? = some '<' ∧ (looksLikeXsd s = true ∨
        Text.occurs "<?xml".toList s = true ∨ Text.occurs "</".toList s = true) := by
  have schema : looksLikeXsd s = true → s.head? = some '<' := by
    intro marks
    simp only [looksLikeXsd, Bool.and_eq_true, beq_iff_eq] at marks
    exact marks.1
  have markup : looksLikeXml s = true ↔ s.head? = some '<' ∧
      (Text.occurs "<?xml".toList s = true ∨ Text.occurs "</".toList s = true) := by
    simp only [looksLikeXml, List.contains_iff_mem.mpr bracket, tag, Bool.and_eq_true, Bool.or_eq_true,
      beq_iff_eq, true_and, and_true]
  rw [isMarkup_ofTrimmed_iff (List.ne_nil_of_mem bracket) json, markup]
  tauto

/-- A sample that is read never seems to be JSON. It seems to be markup just if it has the marks of a web
page, or begins with a bracket and has the marks of a schema, a declaration or an end tag; so one that
begins with a bracket does, if there is anything in its root. -/
theorem detect_of_parse {xml : String} (h : Sample.parse limits xml = .ok root) :
    let s := Text.trim xml.toList
    detect xml ≠ json ∧
      ((detect xml).isMarkup = true ↔ looksLikeHtml s = true ∨ s.head? = some '<' ∧
        (looksLikeXsd s = true ∨ Text.occurs "<?xml".toList s = true ∨
          Text.occurs "</".toList s = true)) ∧
      (s.head? = some '<' → root.children ≠ [] ∨ root.text ≠ none → (detect xml).isMarkup = true) := by
  intro s
  obtain ⟨c, mem, first⟩ := Sample.head?_trim_of_parse h
  obtain ⟨bracket, tag⟩ := holdsTag_trim_of_parse h
  have other : ∀ c ∈ ['<', '&', '\uFEFF'], c ∉ ['\x7b', '['] := by decide
  have json : looksLikeJson s = false := looksLikeJson_eq_false first (other c mem)
  have whole := isMarkup_ofTrimmed_iff_of_tag json bracket tag
  refine ⟨ofTrimmed_ne_json json, whole, fun front content => whole.mpr (.inr ⟨front, .inr (.inr ?_)⟩)⟩
  exact occurs_trim_of_parse h content

/-- A sample whose text has the marks of other formats. -/
theorem detect_of_parse_imitating :
    let xml := "<a>\n- k: *[1](2),3\n- l: 4,5</a>"
    (∃ root, Sample.parse {} xml = .ok root ∧ root.text ≠ none) ∧
      detect xml ≠ json ∧ (detect xml).isMarkup = true := by
  intro xml
  have accepted : (Sample.parse {} xml).isOk = true := by decide +kernel
  obtain ⟨root, made⟩ := Steps.exists_ok_iff.mpr accepted
  have filled : ((Sample.parse {} xml).toOption.bind Element.text).isSome = true := by decide +kernel
  have text : root.text ≠ none := by
    rw [made] at filled
    exact Option.isSome_iff_ne_none.mp filled
  obtain ⟨other, -, markup⟩ := detect_of_parse made
  exact ⟨⟨root, made, text⟩, other, markup (by decide) (.inr text)⟩

/-- A lone empty tag seems to be nothing, and so does what stands behind a byte order mark or behind a
blank that is written as a reference. -/
theorem exists_unknown_of_parse :
    (∃ root, Sample.parse {} "<a/>" = .ok root ∧ detect "<a/>" = unknown) ∧
      (∃ root, Sample.parse {} "\uFEFF<a></a>" = .ok root ∧ detect "\uFEFF<a></a>" = unknown) ∧
        ∃ root, Sample.parse {} "&#32;<a></a>" = .ok root ∧ detect "&#32;<a></a>" = unknown := by
  have accepted {xml : String} (h : (Sample.parse {} xml).isOk = true) (none : detect xml = unknown) :
      ∃ root, Sample.parse {} xml = .ok root ∧ detect xml = unknown := by
    obtain ⟨root, made⟩ := Steps.exists_ok_iff.mpr h
    exact ⟨root, made, none⟩
  exact ⟨accepted (by decide +kernel) (by decide +kernel), accepted (by decide +kernel) (by decide +kernel),
    accepted (by decide +kernel) (by decide +kernel)⟩

end XsdInfer.Format
