import XsdInfer.Proofs.Layout.Text
import XsdInfer.Proofs.Strict.Declaration
import XsdInfer.Proofs.Strict.Sequence
import XsdInfer.Proofs.Strict.Tag

/-!
# Written elements read strictly

A reader completes a tree to a root (`Completes`), if it does so wherever in a text it stands; a token
that it takes is one step of the tree (`completes_of_gives`). Of an element, proper tags are read as
its start (`completes_opened`), its end (`completes_close`) or all of it (`completes_empty`), and
blanks between tags do not matter (`completes_indent`).
-/

namespace XsdInfer.Strict

open Scan (Takes)

/-- The root that tokens make. -/
def Tokens.root (tokens : Tokens) : Except Fault Node := do
  let t ← tokens.found.foldlM Tree.step {}
  match tokens.fault with
  | some fault => .error fault
  | none => t.finish

/-- A reader at a text completes a tree to a root. -/
def Completes (mode : Mode) (s : List Char) (t : Tree) (root : Node) : Prop :=
  ∀ read place, read.reverse.foldlM Tree.step {} = .ok t →
    (readFrom read mode ⟨s, place⟩).root = .ok root

/-- What is next in a mode is one token, which has a property, and then some rest. -/
def Gives (mode : Mode) (s : List Char) (P : Token × Mode → Prop) (rest : List Char) : Prop :=
  ∃ m, Scan.ofMode mode s = some m ∧ Takes m s P rest

variable {mode : Mode} {s rest : List Char} {t : Tree} {root : Node}

/-- A token takes the tree one step on. -/
lemma completes_of_gives {P : Token × Mode → Prop} (gives : Gives mode s P rest)
    (h : ∀ token mode', P (token, mode') →
      ∃ t', t.step token = .ok t' ∧ Completes mode' rest t' root) :
    Completes mode s t root := by
  intro read place done
  obtain ⟨m, ahead, takes⟩ := gives
  obtain ⟨⟨token, mode'⟩, place', taken, holds⟩ := takes place
  obtain ⟨t', step, behind⟩ := h token mode' holds
  have more : (token :: read).reverse.foldlM Tree.step {} = .ok t' := by
    rw [List.reverse_cons, List.foldlM_append, done]
    show [token].foldlM Tree.step t = _
    simp only [List.foldlM_cons, List.foldlM_nil, step]
    rfl
  rw [readFrom_eq]
  simp only [ahead, taken]
  exact behind _ _ more

/-- Behind the root, the end of a line is the end of the document. -/
lemma completes_end : Completes .epilog ['\n'] ⟨none, [], some root⟩ root := by
  intro read place done
  have ahead : Scan.ofMode .epilog ['\n'] = none := by simp [Scan.ofMode, Scan.ofEpilog, begins, Text.isSpace]
  rw [readFrom_eq]
  simp only [ahead, Tokens.root, done]
  rfl

/-! ## What is ahead -/

namespace Scan

variable {c : Char}

/-- Before the root, a bracket with a name behind it starts a tag. -/
lemma ofProlog_tag {lead : List Char} (space : ∀ a ∈ lead, Text.isSpace a = true)
    (other : '!' ≠ c ∧ '?' ≠ c ∧ '/' ≠ c) (s : List Char) :
    ofProlog (lead ++ '<' :: c :: s) = some (padded tagStart (.tag 0)) := by
  have behind : (lead ++ '<' :: c :: s).dropWhile Text.isSpace = '<' :: c :: s := by
    rw [List.dropWhile_append_of_pos space]
    rfl
  simp [ofProlog, behind, begins, other]

/-- In an element, a bracket with a name behind it starts a tag. -/
lemma ofContent_tag (depth : Nat) (other : '!' ≠ c ∧ '?' ≠ c ∧ '/' ≠ c) (s : List Char) :
    ofContent depth ('<' :: c :: s) = some (plain tagStart (.tag depth)) := by
  simp [ofContent, begins, other]

/-- In an element, a bracket with a slash behind it starts a closing tag. -/
lemma ofContent_close (depth : Nat) (s : List Char) :
    ofContent depth ('<' :: '/' :: s) = some (plain closeTag (.behindElement (depth - 1))) := by
  simp [ofContent, begins]

/-- In an element, anything but a bracket starts data. -/
lemma ofContent_data (depth : Nat) (other : c ≠ '<') (s : List Char) :
    ofContent depth (c :: s) = some (plain data (.content depth)) := by
  simp [ofContent, begins, other, other.symm]

/-- The two blanks that are written between tags are characters of a document, and not part of any
mark. -/
lemma isXmlChar_of_blank (h : c ∈ ['\n', ' ']) : isXmlChar c = true ∧ c ∉ ['<', ']'] := by
  have all : ∀ c ∈ ['\n', ' '], isXmlChar c = true ∧ c ∉ ['<', ']'] := by decide
  exact all c h

/-- Line ends and spaces before a tag are taken as data. -/
lemma takes_data (blank : ∀ a ∈ c :: s, a ∈ ['\n', ' ']) :
    Takes data (c :: s ++ '<' :: rest) (fun token => ∃ place, token = .text ⟨c :: s, place⟩)
      ('<' :: rest) := by
  have first := isXmlChar_of_blank (blank c (.head _))
  have taken : Takes anyChar (c :: s ++ '<' :: rest) (· = c) (s ++ '<' :: rest) := by
    intro place
    simp only [anyChar, List.cons_append, first.1, if_true]
    exact ⟨_, _, rfl, rfl⟩
  have upTo : Takes (upTo (·.head? == some '<')) (s ++ '<' :: rest) (· = s) ('<' :: rest) := by
    refine takes_upTo (fun a mem => ?_) (fun a mem t => ?_) fun a mem => ?_
    · exact (isXmlChar_of_blank (blank a (.tail _ mem))).1
    · have other := (isXmlChar_of_blank (blank a (.tail _ mem))).2
      simp only [List.mem_cons, not_or] at other
      simp [other.1]
    · cases mem
      exact ⟨by decide, rfl⟩
  have plain : Text.occurs "]]>".toList (c :: s) = false := by
    apply Text.occurs_eq_false
    intro mem
    exact (isXmlChar_of_blank (blank ']' mem)).2 (by simp)
  refine takes_here.bind fun place _ => taken.bind fun a same => upTo.bind fun body same' => ?_
  subst same same'
  exact (takes_refuse plain _).bind fun _ _ => takes_pure ⟨place, rfl⟩

end Scan

/-- Where a tag of an element may start inside of some others: behind space before the root, and
right away in content. -/
inductive Front : Mode → List Char → Nat → Prop where
  | prolog {lead : List Char} (space : ∀ c ∈ lead, Text.isSpace c = true) : Front .prolog lead 0
  | content (depth : Nat) : Front (.content depth) [] depth

/-- The start of a tag is read, and its attributes come next. -/
lemma gives_start {lead : List Char} {depth : Nat} (front : Front mode lead depth) {name : String}
    (named : isTagName name = true) (stop : ∀ c ∈ rest.head?, isNameChar c = false) :
    Gives mode (lead ++ '<' :: (name.toList ++ rest))
      (fun r => r.2 = .tag depth ∧ ∃ place, r.1 = .tag (tagName name) place) rest := by
  have taken := Scan.takes_tagStart named stop
  obtain ⟨q, w, word, _, eq, _⟩ := isTagName_cases named
  obtain ⟨c, u, rfl, start⟩ := isNameStart_of_isWord word
  have other : '!' ≠ c ∧ '?' ≠ c ∧ '/' ≠ c := by
    refine ⟨?_, ?_, ?_⟩ <;> rintro rfl <;> exact absurd start (by decide)
  rw [eq] at taken ⊢
  cases front with
  | prolog space =>
    refine ⟨_, Scan.ofProlog_tag space other _, ?_⟩
    refine Takes.bind (Scan.takes_spaces space fun c mem => ?_) fun _ _ =>
      taken.bind fun token holds => Scan.takes_pure ⟨rfl, holds⟩
    cases mem
    decide
  | content depth =>
    refine ⟨_, Scan.ofContent_tag depth other _, ?_⟩
    exact taken.bind fun token holds => Scan.takes_pure ⟨rfl, holds⟩

/-- A closing tag is read, and what stands behind the element comes next. -/
lemma gives_close {name : String} (named : isTagName name = true) (depth : Nat) :
    Gives (.content (depth + 1)) ("</".toList ++ name.toList ++ '>' :: rest)
      (fun r => r.2 = .behindElement depth ∧ ∃ place, r.1 = .close (tagName name) place) rest := by
  refine ⟨_, Scan.ofContent_close (depth + 1) _, ?_⟩
  exact (Scan.takes_closeTag named).bind fun token holds => Scan.takes_pure ⟨rfl, holds⟩

/-- Blanks in front of a tag are given as text in content. -/
lemma gives_blank {c : Char} (blank : ∀ a ∈ c :: s, a ∈ ['\n', ' ']) (depth : Nat) :
    Gives (.content depth) (c :: s ++ '<' :: rest)
      (fun r => r.2 = .content depth ∧ ∃ place, r.1 = .text ⟨c :: s, place⟩) ('<' :: rest) := by
  have other := (Scan.isXmlChar_of_blank (blank c (.head _))).2
  refine ⟨_, Scan.ofContent_data depth (fun same => other (by simp [same])) _, ?_⟩
  exact (Scan.takes_data blank).bind fun token holds => Scan.takes_pure ⟨rfl, holds⟩

/-- A part of a tag is read in the mode for them. -/
lemma gives_part {depth : Nat} {P : Token × Mode → Prop} {c : Char}
    (taken : Takes (Scan.tagPart depth) (c :: s) P rest) : Gives (.tag depth) (c :: s) P rest :=
  ⟨_, rfl, taken⟩

/-! ## Elements -/

variable {stack : List Frame} {complete : Option Node} {around : Scopes} {lead : List Char}
  {name : String} {attributes : List (String × String)}

/-- The attributes of a tag are read one by one and told of the tag. -/
lemma completes_attributes {done more : List (String × String)} {p : PendingTag}
    (told : p.Says name done) (tag : IsTag around name (done ++ more)) {depth : Nat}
    (behind : ∀ p, PendingTag.Says p name (done ++ more) →
      Completes (.tag depth) rest ⟨some p, stack, complete⟩ root) :
    Completes (.tag depth) (more.flatMap Layout.assignment ++ rest) ⟨some p, stack, complete⟩
      root := by
  -- What has been read moves from the attributes to come to those that are done.
  induction more generalizing done p with
  | nil => exact behind p (by rwa [List.append_nil])
  | cons a more ih =>
    have inside : a ∈ done ++ a :: more := by simp
    have taken (s : List Char) : Takes (Scan.tagPart depth) (Layout.assignment a ++ s) _ s :=
      Scan.takes_assignment (tag.keys a inside) (tag.held a inside) depth
    rw [List.flatMap_cons, List.append_assoc]
    apply completes_of_gives (gives_part (taken _))
    intro token mode' holds
    obtain ⟨rfl, place, place', rfl⟩ := holds
    have new : a.1 ∉ done.map Prod.fst := by
      have nodup := tag.nodup
      rw [List.map_append, List.nodup_append] at nodup
      exact fun mem => nodup.2.2 _ mem _ (by simp) rfl
    have free : ∀ d ∈ declares? a, d.2 ≠ Namespace.xml ∧ d.2 ≠ Namespace.xmlns :=
      fun d mem => tag.free d (List.mem_filterMap.mpr ⟨a, inside, mem⟩)
    obtain ⟨p', added, told'⟩ := told.add (tag.keys a inside) new free place'
    refine ⟨⟨some p', stack, complete⟩, ?_, ih told' (by simpa using tag) (by simpa using behind)⟩
    have value : String.ofList (normalChars a.2.toList) = normalText a.2 := rfl
    simp only [Tree.step, Tree.addAttribute, resolve_escape, bind, Except.bind, value, added]
    rfl

/-- A tag is read up to the bracket that ends it. -/
lemma completes_tag {depth : Nat} (front : Front mode lead depth)
    (tag : IsTag around name attributes) (stop : ∀ c ∈ rest.head?, isNameChar c = false)
    (behind : ∀ p, PendingTag.Says p name attributes →
      Completes (.tag depth) rest ⟨some p, stack, complete⟩ root) :
    Completes mode (lead ++ '<' :: (Layout.inside name attributes ++ rest)) ⟨none, stack, complete⟩
      root := by
  have ends : ∀ c ∈ (attributes.flatMap Layout.assignment ++ rest).head?,
      isNameChar c = false := by
    cases attributes with
    | nil => exact stop
    | cons a attributes =>
      intro c mem
      cases mem
      decide
  rw [Layout.inside, List.append_assoc]
  apply completes_of_gives (gives_start front tag.named ends)
  intro token mode' holds
  obtain ⟨rfl, place, rfl⟩ := holds
  obtain ⟨q, w, _, _, _, _, read, other⟩ := isTagName_cases tag.named
  refine ⟨⟨some { name := tagName name, place }, stack, complete⟩, ?_, ?_⟩
  · have apart : (tagName name).qualifier ≠ declarer := by
      rw [read]
      exact other
    simp only [Tree.step, Tree.startTag, apart, if_false]
  · have new : PendingTag.Says { name := tagName name, place } name [] := ⟨rfl, rfl, rfl⟩
    exact completes_attributes new tag behind

/-- An empty tag is read as a node without children. -/
lemma completes_empty (front : Front mode lead stack.length) (tag : IsTag around name attributes)
    (scopes : Tree.scopes ⟨none, stack, complete⟩ = around)
    (behind : Completes (.behindElement stack.length) rest
      (Tree.attach ⟨none, stack, complete⟩ (tagNode around name attributes)) root) :
    Completes mode (lead ++ '<' :: (Layout.inside name attributes ++ ("/>".toList ++ rest)))
      ⟨none, stack, complete⟩ root := by
  refine completes_tag front tag (fun c mem => ?_) fun p told => ?_
  · cases mem
    decide
  apply completes_of_gives (gives_part (Scan.takes_empty _))
  intro token mode' holds
  cases holds
  refine ⟨_, ?_, behind⟩
  have same : Tree.scopes ⟨some p, stack, complete⟩ = around := scopes
  simp only [Tree.step, Tree.endTag, same, told.node tag, bind, Except.bind]
  rfl

/-- A start tag is read, and its node is open then. -/
lemma completes_opened (front : Front mode lead stack.length) (tag : IsTag around name attributes)
    (scopes : Tree.scopes ⟨none, stack, complete⟩ = around)
    (behind : Completes (.content (stack.length + 1)) rest
      ⟨none, ⟨tagName name, tagNode around name attributes, []⟩ :: stack, complete⟩ root) :
    Completes mode (lead ++ '<' :: (Layout.inside name attributes ++ '>' :: rest))
      ⟨none, stack, complete⟩ root := by
  refine completes_tag front tag (fun c mem => ?_) fun p told => ?_
  · cases mem
    decide
  apply completes_of_gives (gives_part (Scan.takes_opened _))
  intro token mode' holds
  cases holds
  refine ⟨_, ?_, behind⟩
  have same : Tree.scopes ⟨some p, stack, complete⟩ = around := scopes
  simp only [Tree.step, Tree.endTag, same, told.node tag, told.name, bind, Except.bind]
  rfl

/-- A closing tag is read, and its node gets its children. -/
lemma completes_close (named : isTagName name = true) {n : Node} {children : List Node}
    (behind : Completes (.behindElement stack.length) rest
      (Tree.attach ⟨none, stack, complete⟩ { n with children := children.reverse }) root) :
    Completes (.content (stack.length + 1)) ("</".toList ++ name.toList ++ '>' :: rest)
      ⟨none, ⟨tagName name, n, children⟩ :: stack, complete⟩ root := by
  apply completes_of_gives (gives_close named _)
  intro token mode' holds
  obtain ⟨rfl, place, rfl⟩ := holds
  refine ⟨_, ?_, behind⟩
  simp only [Tree.step, Tree.close, if_true]
  rfl

/-- Blanks in front of a tag do not matter. -/
lemma completes_indent (indentation : Nat) {depth : Nat}
    (behind : Completes (.content depth) ('<' :: rest) t root) :
    Completes (.content depth) ('\n' :: Layout.indent indentation ++ '<' :: rest) t root := by
  refine completes_of_gives (gives_blank (fun c => Layout.mem_blanks_of_mem_indent) depth)
    fun token mode' holds => ?_
  obtain ⟨rfl, place, rfl⟩ := holds
  have resolved := resolve_escape place ('\n' :: Layout.indent indentation)
  -- Blanks are written as they are, so they are text without references.
  rw [Text.escape_of_blank fun c mem => Layout.isBlank_of_mem_indent mem] at resolved
  refine ⟨t, ?_, behind⟩
  simp only [Tree.step, resolved]
  rfl

end XsdInfer.Strict
