import XsdInfer.Proofs.Sample.Events
import XsdInfer.Proofs.Sample.Moves
import XsdInfer.Proofs.Sample.Printing

/-!
# Reading back what is written

Main statement: whatever spelling of a tree is read, the tree comes out, if its names are well formed,
nothing in it ties it to a schema, and it keeps the limits (`parse_eq_ok_of_spelling`). The draft
inside of an element holds what the elements around it declare and how deep it is (`Draft.Inside`),
and each spelling leads from one draft to that with the element attached (`completes_spelling`).
-/

namespace XsdInfer

open Element (Place placesFrom)

namespace Sample

open Event (Reads)

variable {limits : Limits} {opened : List (List Char)} {rest : List Char} {d d' : Draft}
  {root : Element} {path : List Element}

/-- A draft inside of some elements, given from the nearest on. -/
structure Draft.Inside (d : Draft) (path : List Element) : Prop where
  scopes : d.scopes = path.map Element.namespaces
  depth : d.stack.length = path.length

/-- Data that starts with something visible is read and added. -/
lemma completes_visible {c : Char} {s : List Char} (visible : Text.isSpace c = false)
    (add : d.addText (c :: s) = .ok d') (stop : rest = [] ∨ rest.head? = some '<')
    (next : Completes limits rest opened d' root) :
    Completes limits (Text.escape (c :: s) ++ rest) opened d root := by
  obtain ⟨a, t, first, visible'⟩ := Text.exists_escapeChar_eq_cons visible
  have text : Text.escape (c :: s) = a :: (t ++ Text.escape s) := by
    rw [Text.escape_cons, first, List.cons_append]
  have plain : '<' ∉ a :: (t ++ Text.escape s) := text ▸ Text.not_mem_escape (.inl rfl) _
  rw [text]
  apply completes_of_reads (Event.reads_text visible' plain stop) _ next
  -- The event leaves out the space behind the run, which does not matter to the draft.
  rw [← text, Text.dropTrailing_isSpace_escape, Draft.step, Draft.addRawText,
    Reference.decode_escape]
  simp only [Draft.addText_congr (Text.trim_dropTrailing_isSpace (c :: s)), add]
  rfl

/-- A run of character data is added without the space around it. -/
lemma completes_run {data : List Char} (add : d.addText data = .ok d')
    (stop : rest = [] ∨ rest.head? = some '<') (next : Completes limits rest opened d' root) :
    Completes limits (Text.escape data ++ rest) opened d root := by
  have space : ∀ c ∈ data.takeWhile Text.isSpace, Text.isSpace c = true := fun c mem =>
    List.all_eq_true.mp List.all_takeWhile c mem
  rw [Text.escape_eq_append, List.append_assoc]
  apply completes_space ⟨data.takeWhile Text.isSpace, space⟩
  have trimmed : Text.trim (data.dropWhile Text.isSpace) = Text.trim data :=
    Text.trim_dropWhile_isSpace data
  cases eq : data.dropWhile Text.isSpace with
  | nil =>
    rw [eq] at trimmed
    have blank : Text.trim data = [] := trimmed.symm
    rw [Draft.addText_of_blank (Text.trim_eq_nil_iff.mp blank)] at add
    cases add
    exact next
  | cons c s =>
    have visible : Text.isSpace c = false := by
      have := List.head?_dropWhile_not Text.isSpace data
      rw [eq] at this
      simpa using this
    rw [eq] at trimmed
    have add : d.addText (c :: s) = .ok d' := by rw [Draft.addText_congr trimmed, add]
    exact completes_visible visible add stop next

/-- The runs of a stretch are added one after another. -/
lemma completes_stretch {s : Stretch} (add : s.runs.foldlM Draft.addText d = .ok d')
    (stop : rest = [] ∨ rest.head? = some '<') (next : Completes limits rest opened d' root) :
    Completes limits (s.text ++ rest) opened d root := by
  obtain ⟨first, more⟩ := s
  induction more generalizing first d with
  | nil =>
    have add : d.addText first = .ok d' := by simpa [Stretch.runs] using add
    rw [Stretch.text, List.flatMap_nil, List.append_nil]
    exact completes_run add stop next
  | cons m more ih =>
    rw [Stretch.runs, List.map_cons, List.foldlM_cons] at add
    cases one : d.addText first with
    | error problem => rw [one] at add; cases add
    | ok d₁ =>
      rw [one] at add
      have text : (⟨first, m :: more⟩ : Stretch).text ++ rest =
          Text.escape first ++ (m.1.text ++ ((⟨m.2, more⟩ : Stretch).text ++ rest)) := by
        simp [Stretch.text]
      -- What breaks a stretch begins with a bracket, where a run ends.
      have bracket : (m.1.text ++ ((⟨m.2, more⟩ : Stretch).text ++ rest)).head? = some '<' := by
        cases m.1 <;> rfl
      rw [text]
      apply completes_run one (.inr bracket)
      exact completes_of_reads (Event.reads_aside m.1) rfl (ih m.2 add)

namespace Draft.Inside

/-- The innermost of the open elements tells what is declared around. -/
lemma of_frame {f : Frame} {stack : List Frame} {r : Option Element}
    (inside : Draft.Inside ⟨f :: stack, r⟩ path) {g : Frame} (same : g.scopes = f.scopes) :
    Draft.Inside ⟨g :: stack, r⟩ path :=
  ⟨same.trans inside.scopes, inside.depth⟩

/-- Data makes no difference to the scopes. -/
lemma scopes_foldl_addText (runs : List (List Char)) (f : Frame) :
    (runs.foldl Frame.addText f).scopes = f.scopes := by
  rw [Frame.foldl_addText_eq]

/-- A tag opens what it means, and its depth is within the limits. -/
lemma opens {h : Head} (inside : d.Inside path) (fits : Element.Readable limits (path, h.element)) :
    openTag limits d.scopes h.tag = .ok h.element ∧ d.stack.length + 1 ≤ limits.depth := by
  rw [inside.scopes, inside.depth]
  exact ⟨openTag_head fits.named fits.untied fits.within, fits.within.depth⟩

/-- A head that can be read opens its element. -/
lemma push {h : Head} (inside : d.Inside path) (fits : Element.Readable limits (path, h.element))
    {e : Element} (room : Attached e d d') :
    d.step limits (.start h.tag) =
      .ok { d with stack := ⟨h.element, h.element.namespaces :: d.scopes, []⟩ :: d.stack } := by
  obtain ⟨element, depth⟩ := inside.opens fits
  refine Draft.step_of_moves (.start (fun none => ?_) element depth)
  cases room with
  | inside => cases none
  | root => rfl

/-- A head that can be read stands for an element without content. -/
lemma pushEmpty {h : Head} (inside : d.Inside path)
    (fits : Element.Readable limits (path, h.element)) (attached : Attached h.element d d') :
    d.step limits (.empty h.tag) = .ok d' := by
  obtain ⟨element, depth⟩ := inside.opens fits
  exact Draft.step_of_moves (.empty element depth attached)

end Draft.Inside

/-- A spelling starts with a bracket. -/
lemma Spelling.head?_text (sp : Spelling) (rest : List Char) :
    (sp.text ++ rest).head? = some '<' := by
  cases sp <;> simp [Spelling.text]

/-- An element can be read if it can with text and children. -/
lemma readable_head {h : Head} {text : Option String} {children : List Element}
    (fits : Element.Readable limits (path, { h.element with text, children })) :
    Element.Readable limits (path, h.element) where
  named := ⟨fits.named.name, fits.named.attributes, fits.named.prefixes⟩
  untied := fits.untied
  within := ⟨fits.within.depth, fits.within.attributes, fits.within.namespaces⟩

mutual

/-- Over a written element a reader comes to the draft with that element attached. -/
theorem completes_spelling {sp : Spelling} {opened : List (List Char)} {rest : List Char}
    {d d' : Draft} {path : List Element}
    (fits : ∀ p ∈ placesFrom path sp.element, Element.Readable limits p) (inside : d.Inside path)
    (attached : Attached sp.element d d') (next : Completes limits rest opened d' root) :
    Completes limits (sp.text ++ rest) opened d root := by
  have here := fits _ (Element.self_mem_placesFrom path sp.element)
  cases sp with
  | lone h =>
    rw [Spelling.element] at here attached
    have named := h.named_of_wellNamed here.named
    rw [Spelling.text]
    exact completes_of_reads (Event.reads_empty named) (inside.pushEmpty here attached) next
  | pair h content trail =>
    rw [Spelling.element] at here
    have fits_head := readable_head here
    have named := h.named_of_wellNamed fits_head.named
    have text : (Spelling.pair h content trail).text ++ rest = '<' :: h.text ++ '>' ::
        (content.text ++ ("</".toList ++ h.name.toList ++ trail.chars ++ '>' :: rest)) := by
      simp [Spelling.text]
    rw [text]
    apply completes_of_reads (Event.reads_start named) (inside.push fits_head attached)
    -- Behind the start tag, the draft is inside of the element itself.
    have inside' : Draft.Inside
        { d with stack := ⟨h.element, h.element.namespaces :: d.scopes, []⟩ :: d.stack }
        ((Spelling.pair h content trail).element :: path) := by
      constructor
      · rw [List.map_cons, ← inside.scopes]
        rfl
      · simp [inside.depth]
    have fits' : ∀ e ∈ content.children,
        ∀ p ∈ placesFrom ((Spelling.pair h content trail).element :: path) e,
          Element.Readable limits p := by
      intro e mem p below
      apply fits p
      rw [Element.placesFrom_eq]
      exact .tail _ (List.mem_flatMap.mpr ⟨e, mem, below⟩)
    apply completes_content fits' inside' rfl
    -- What is attached at the end tag is what the spelling means.
    have closed := Frame.close_fill (e := h.element) rfl (h.element.namespaces :: d.scopes) content
    rw [Spelling.element, ← closed] at attached
    exact completes_of_reads (Event.reads_stop named.name trail)
      (Draft.step_of_moves (.stop attached)) next

/-- Over written content a reader comes to the draft with the innermost open element filled. -/
theorem completes_content {content : Content} {opened : List (List Char)} {rest : List Char}
    {f : Frame} {stack : List Frame} {r : Option Element} {path : List Element}
    (fits : ∀ e ∈ content.children, ∀ p ∈ placesFrom path e, Element.Readable limits p)
    (inside : Draft.Inside ⟨f :: stack, r⟩ path) (bracket : rest.head? = some '<')
    (next : Completes limits rest opened ⟨f.fill content :: stack, r⟩ root) :
    Completes limits (content.text ++ rest) opened ⟨f :: stack, r⟩ root := by
  cases content with
  | last s =>
    exact completes_stretch (Frame.foldlM_addText f stack r s.runs) (.inr bracket) next
  | child s sp more =>
    rw [Content.text, List.append_assoc, List.append_assoc]
    refine completes_stretch (Frame.foldlM_addText f stack r s.runs)
      (.inr (sp.head?_text _)) ?_
    have inside' := inside.of_frame (Draft.Inside.scopes_foldl_addText s.runs f)
    apply completes_spelling (fits _ (.head _)) inside' .inside
    exact completes_content (fun e mem => fits e (.tail _ mem)) (inside'.of_frame rfl) bracket next

end

/-- The spelling of a document has no mark before it. -/
lemma withoutMark_text (d : DocumentSpelling) : withoutMark d.text = d.text := by
  have first : ∀ c ∈ d.text.head?, c = '<' ∨ Text.isBlank c = true := by
    obtain ⟨⟨run, more⟩, root, behind, blank⟩ := d
    have blank : ∀ c ∈ run, Text.isBlank c = true := blank run (by simp [Stretch.runs])
    rw [DocumentSpelling.text, Stretch.text, Text.escape_of_blank blank]
    cases run with
    | cons a run =>
      intro c at_start
      cases at_start
      exact .inr (blank _ (.head _))
    | nil =>
      cases more with
      | cons m more =>
        obtain ⟨aside, run⟩ := m
        cases aside <;> (intro c at_start; cases at_start; exact .inl rfl)
      | nil =>
        intro c at_start
        rw [List.flatMap_nil, List.nil_append, List.nil_append, root.head?_text] at at_start
        cases at_start
        exact .inl rfl
  exact withoutMark_eq_self fun mark => absurd (first '\uFEFF' mark) (by decide)

/-- A document is read back from each of its spellings, if its elements can be read. -/
lemma parse_text (limits : Limits) (d : DocumentSpelling)
    (fits : ∀ p ∈ d.root.element.places, Element.Readable limits p) :
    parse limits (String.ofList d.text) = .ok d.root.element := by
  rw [Element.places_eq] at fits
  have before : d.before.runs.foldlM Draft.addText {} = .ok {} :=
    Draft.foldlM_addText_of_blank (fun run mem => d.blank run (by simp [mem])) _
  have behind : d.behind.runs.foldlM Draft.addText ⟨[], some d.root.element⟩ =
      .ok ⟨[], some d.root.element⟩ :=
    Draft.foldlM_addText_of_blank (fun run mem => d.blank run (by simp [mem])) _
  have completes : Completes limits d.text [] {} d.root.element := by
    have last : Completes limits (d.behind.text ++ []) [] ⟨[], some d.root.element⟩
        d.root.element := completes_stretch behind (.inl rfl) completes_end
    rw [List.append_nil] at last
    rw [DocumentSpelling.text, List.append_assoc]
    refine completes_stretch before (.inr (d.root.head?_text _)) ?_
    exact completes_spelling fits ⟨rfl, rfl⟩ .root last
  have read := completes [] 0 (Text.width d.text) rfl
  rw [parse, String.toList_ofList, Sample.read, withoutMark_text]
  simp only [read]
  rfl

/-- A tree is read back from each of its spellings. There is one, unless the tree holds what no
reading leaves in it: a key that stands twice in a table, or a text that is not trimmed. The order of
declarations in the tree is that in which they are written. -/
theorem parse_eq_ok_of_spelling (limits : Limits) (t : Element)
    (fits : ∀ p ∈ t.places, Element.Readable limits p) :
    (∀ d : DocumentSpelling, d.root.element = t → parse limits (String.ofList d.text) = .ok t) ∧
      ((∀ p ∈ t.places, p.2.Tidy) → ∃ d : DocumentSpelling, d.root.element = t) := by
  constructor
  · rintro d rfl
    exact parse_text limits d fits
  · intro tidy
    rw [Element.places_eq] at fits tidy
    obtain ⟨sp, eq⟩ := exists_spelling t fun p mem => ⟨(fits p mem).named, tidy p mem⟩
    exact ⟨{ root := sp, blank := by simp [Stretch.runs] }, eq⟩

/-- A tree is read back from a document with asides, space in tags, references and two runs of
text. -/
theorem parse_two_runs :
    let t : Element := ⟨"p:a", ⟨[("x", "1<\"")]⟩, some "u& v",
      [⟨"b", {}, none, [], {}⟩], ⟨⟨[("p", "urn:p")]⟩, none⟩⟩
    (∀ p ∈ t.places, Element.Readable {} p) ∧
      parse {} "<!--c-->\n<p:a x = \"1&lt;&quot;\" xmlns:p=\"urn:p\"> u&amp; <b/><?i?>v\n</p:a >\n" =
        .ok t := by
  intro t
  have fits : ∀ p ∈ t.places, Element.Readable {} p := by decide +kernel
  let space : Space := ⟨[' '], by decide⟩
  let head : Head := {
    name := "p:a"
    assignments := [⟨space, .plain "x" "1<\"", space, space, by decide⟩,
      ⟨space, .prefixed "p" "urn:p", {}, {}, by decide⟩]
    nodup := by decide }
  let content : Content := .child { first := " u& ".toList } (.lone { name := "b", nodup := by decide })
    (.last { more := [(.instruction ['i'] (by decide) (by decide), "v\n".toList)] })
  let d : DocumentSpelling := {
    before := { more := [(.comment ['c'] (by decide), ['\n'])] }
    root := .pair head content space
    behind := { first := ['\n'] }
    blank := by decide }
  have text : String.ofList d.text =
      "<!--c-->\n<p:a x = \"1&lt;&quot;\" xmlns:p=\"urn:p\"> u&amp; <b/><?i?>v\n</p:a >\n" := by
    decide +kernel
  have runs : textOfRuns content.runs = some "u& v" := by decide +kernel
  have root : d.root.element = t := by
    show ({ head.element with text := textOfRuns content.runs, children := content.children } :
      Element) = t
    rw [runs]
    rfl
  refine ⟨fits, ?_⟩
  rw [← text]
  exact (parse_eq_ok_of_spelling {} t fits).1 d root

/-- An instruction without a body is not read, although no question mark and no bracket stands in
it. -/
theorem not_forall_parse_instruction :
    ¬ ∀ body : List Char, '?' ∉ body ∧ '>' ∉ body →
      parse {} (String.ofList ("<?".toList ++ body ++ "?>".toList ++ "<a/>".toList)) =
        .ok { name := "a" } := by
  intro all
  have stopped : ∃ fault, read "<??><a/>".toList = ⟨[], some fault⟩ := by
    show ∃ fault, readFrom [] ⟨"<??><a/>".toList, 0, []⟩ = ⟨[], some fault⟩
    rw [readFrom_eq]
    exact ⟨_, rfl⟩
  obtain ⟨fault, eq⟩ := stopped
  have failed : ∃ error, parse {} "<??><a/>" = .error error := by
    simp only [parse, eq]
    exact ⟨_, rfl⟩
  obtain ⟨error, eq⟩ := failed
  have ok : parse {} "<??><a/>" = .ok { name := "a" } := all [] (by decide)
  rw [eq] at ok
  cases ok

end Sample

end XsdInfer
