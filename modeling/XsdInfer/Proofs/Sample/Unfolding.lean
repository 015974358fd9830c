import XsdInfer.Proofs.Sample.Attributes
import XsdInfer.Proofs.Sample.Fronts
import XsdInfer.Proofs.Sample.Height

/-!
# Empty tags and pairs of tags

An element without content is written as an empty tag, or as a start tag with its end tag behind it. Main
statement: a sample is read as the same document whichever way one of its elements is written, under all
limits alike, and the limit on depth is kept just by the documents that are not higher (`parse_unfolded`).
The tag may stand behind anything that is made of whole pieces (`Whole`), even if a reader finds fault with
it.
-/

namespace XsdInfer.Sample

open Event (Marks Closed Complete bangKind?)
open Steps (foldlM_append_eq_ok_iff foldlM_cons_eq_ok_iff foldlM_nil_eq_ok_iff)

variable {limits : Limits} {opened opened' : List (List Char)} {s t x content : List Char}
  {event : Event} {events : List Event} {d d' : Draft} {tag : Tag}

/-! ## Whole pieces -/

/-- Markup from behind its opening bracket up to the bracket that ends it, whether it says anything or
not. -/
inductive IsMarkup : List Char → Prop where
  | bang {s content : List Char} {markup : Markup} {complete : List Char → Bool} :
    bangKind? s = some (markup, complete) →
    Text.Cut '>' (Complete complete []) ('!' :: s) content [] →
    IsMarkup ('!' :: s)
  | stop {name : List Char} :
    '>' ∉ name →
    IsMarkup ('/' :: (name ++ ['>']))
  | instruction {body : List Char} :
    '>' ∉ body →
    IsMarkup ('?' :: (body ++ ['>']))
  | element {s content : List Char} :
    (∀ c ∈ s.head?, c ∉ ['!', '/', '?']) →
    Text.Cut '>' (Closed none) s content [] →
    IsMarkup s

/-- A text that is made of whole pieces: markup, and runs of character data. -/
inductive Whole : List Char → Prop where
  | nil :
    Whole []
  | markup {s t : List Char} :
    IsMarkup s →
    Whole t →
    Whole ('<' :: (s ++ t))
  | data {run t : List Char} :
    run ≠ [] →
    '<' ∉ run →
    t = [] ∨ t.head? = some '<' →
    Whole t →
    Whole (run ++ t)

/-- A reader comes over whole markup to what stands behind it. -/
lemma IsMarkup.rest_eq (h : IsMarkup s) (marks : Marks opened (s ++ x) event opened' t) : t = x := by
  -- One case for each kind of markup: its first character leaves no other way to read it, and its end is
  -- the first that there is.
  cases h with
  | @bang s content markup complete kind cut =>
    have text : '!' :: (s ++ x) = content ++ '>' :: x := by
      rw [← List.cons_append, cut.whole, List.append_assoc, List.singleton_append]
    rw [List.cons_append] at marks
    cases marks with
    | bang kind' cut' _ =>
      cases s with
      | nil => cases kind
      | cons c s =>
        have same := (bangKind?_cons c (s ++ x) s).trans kind
        cases Option.some.inj (kind'.symm.trans same)
        rw [text] at cut'
        exact (cut'.unique (cut.with_rest x)).2
    | empty first => exact absurd (first '!' rfl) (by simp)
    | start first => exact absurd (first '!' rfl) (by simp)
  | @stop name plain =>
    rw [List.cons_append, List.append_assoc, List.singleton_append] at marks
    cases marks with
    | stop => rw [Text.upTo_append plain]
    | empty first => exact absurd (first '/' rfl) (by simp)
    | start first => exact absurd (first '/' rfl) (by simp)
  | @instruction body plain =>
    rw [List.cons_append, List.append_assoc, List.singleton_append] at marks
    cases marks with
    | instruction =>
      have bracket : '>' ∉ '?' :: body := by simp [plain]
      rw [← List.cons_append, Text.upTo_append bracket]
    | empty first => exact absurd (first '?' rfl) (by simp)
    | start first => exact absurd (first '?' rfl) (by simp)
  | @element s content plain cut =>
    have text : s ++ x = content ++ '>' :: x := by
      rw [cut.whole, List.append_assoc, List.singleton_append]
    have first : ∀ c ∈ (s ++ x).head?, c ∉ ['!', '/', '?'] := by
      cases s with
      | nil => exact absurd cut Text.Cut.not_nil
      | cons c s => exact plain
    have here : Text.Cut '>' (Closed none) (s ++ x) content x := text ▸ cut.with_rest x
    generalize s ++ x = u at marks first here
    cases marks with
    | bang => exact absurd (first '!' rfl) (by simp)
    | stop => exact absurd (first '/' rfl) (by simp)
    | instruction => exact absurd (first '?' rfl) (by simp)
    | empty _ cut' => exact (cut'.unique here).2
    | start _ cut' _ => exact (cut'.unique here).2

/-- What is told from a bracket on begins with some markup. -/
lemma Told.markup_cases (told : Told opened ('<' :: s) events) (some : s ≠ []) :
    ∃ event opened' t more, events = event :: more ∧ Marks opened s event opened' t ∧ Told opened' t more := by
  obtain ⟨opened₁, rest, pieces, ends⟩ := told
  generalize whole : '<' :: s = u at pieces
  cases pieces with
  | done =>
    subst whole
    obtain nil | bracket := ends
    · cases nil
    · exact absurd (List.cons.inj bracket).2 some
  | markup marks pieces =>
    cases whole
    exact ⟨_, _, _, _, rfl, marks, _, _, pieces, ends⟩
  | @data _ _ run _ _ _ nonempty plain =>
    cases run with
    | nil => exact absurd rfl nonempty
    | cons c run =>
      obtain rfl := (List.cons.inj whole).1
      exact absurd (.head _) plain

/-- What is told of whole pieces and a bracket behind them is told whatever stands behind the bracket. -/
lemma Whole.exists_split (whole : Whole s) (told : Told opened (s ++ '<' :: x) events) :
    ∃ front opened' more, events = front ++ more ∧ Told opened' ('<' :: x) more ∧
      ∀ y, Over opened (s ++ '<' :: y) front opened' ('<' :: y) := by
  -- By induction on the pieces: each of them is read alike before any text that begins with a bracket.
  induction whole generalizing opened events with
  | nil => exact ⟨[], opened, events, rfl, told, fun y => .done⟩
  | @markup s t markup _ ih =>
    rw [List.cons_append, List.append_assoc] at told
    obtain ⟨event, opened₁, t', more, rfl, marks, behind⟩ := told.markup_cases (by simp)
    obtain rfl := markup.rest_eq marks
    obtain ⟨front, opened', more, rfl, last, reads⟩ := ih behind
    obtain ⟨q, same, here⟩ := marks.exists_front (by simp)
    obtain rfl := List.append_cancel_right same
    refine ⟨event :: front, opened', more, rfl, last, fun y => ?_⟩
    rw [List.cons_append, List.append_assoc]
    exact .markup (here _) (reads y)
  | @data run t nonempty plain stop _ ih =>
    have bracket (y : List Char) : t ++ '<' :: y = [] ∨ (t ++ '<' :: y).head? = some '<' := by
      obtain rfl | first := stop
      · exact .inr rfl
      · exact .inr (by simp [first])
    rw [List.append_assoc] at told
    have piece : Over opened (run ++ (t ++ '<' :: x)) [.text run] opened (t ++ '<' :: x) :=
      .data nonempty plain (bracket x) .done
    obtain ⟨more, rfl, behind⟩ := piece.exists_split told
    obtain ⟨front, opened', more, rfl, last, reads⟩ := ih behind
    refine ⟨.text run :: front, opened', more, rfl, last, fun y => ?_⟩
    rw [List.append_assoc]
    exact .data nonempty plain (bracket y) (reads y)

/-! ## Space behind attributes -/

/-- Space at the end of a tag lists nothing more. -/
lemma lists_append_space_iff {as : List RawAttribute} (gap : Space) :
    Lists (s ++ gap.chars) as ↔ Lists s as := by
  constructor
  · intro h
    generalize whole : s ++ gap.chars = u at h
    induction h generalizing s with
    | @nil trail =>
      have all : ∀ c ∈ s, Text.isSpace c = true := fun c mem =>
        trail.space c (whole ▸ List.mem_append_left _ mem)
      exact @Lists.nil ⟨s, all⟩
    | @cons lead before behind first quote more value rest as visible goes quoted plain _ ih =>
      have other : quote ∉ gap.chars := by
        intro mem
        have space := gap.space quote mem
        obtain rfl | rfl := quoted <;> exact absurd space (by decide)
      have text (rest : List Char) : lead.chars ++ first :: (more ++ (before.chars ++ '=' ::
          (behind.chars ++ quote :: (value ++ quote :: rest)))) =
          lead.chars ++ first :: (more ++ (before.chars ++ '=' :: (behind.chars ++ quote :: value))) ++
            quote :: rest := by
        simp
      -- The quote behind the last value is not in the space, so all attributes are before it.
      rw [text] at whole
      obtain ⟨w, rfl⟩ := Text.exists_of_mark other whole
      rw [List.append_assoc, List.cons_append] at whole
      have behind := ih (List.cons.inj (List.append_cancel_left whole)).2
      rw [← text]
      exact .cons visible goes quoted plain behind
  · intro h
    induction h with
    | @nil trail =>
      have all : ∀ c ∈ trail.chars ++ gap.chars, Text.isSpace c = true :=
        List.forall_mem_append.mpr ⟨trail.space, gap.space⟩
      exact @Lists.nil ⟨trail.chars ++ gap.chars, all⟩
    | cons visible goes quoted plain _ ih =>
      simp only [List.append_assoc, List.cons_append]
      exact .cons visible goes quoted plain ih

namespace Tag

/-- Space behind the content of a tag makes no difference to its name. -/
lemma nameOf_append_space (content : List Char) (gap : Space) :
    nameOf (content ++ gap.chars) = nameOf content := by
  have whole : nameOf content ++ content.dropWhile (!Text.isSpace ·) = content :=
    List.takeWhile_append_dropWhile
  have stop : ∀ c ∈ (content.dropWhile (!Text.isSpace ·) ++ gap.chars).head?, (!Text.isSpace c) = false := by
    have first := List.head?_dropWhile_not (!Text.isSpace ·) content
    cases behind : content.dropWhile (!Text.isSpace ·) with
    | nil =>
      intro c mem
      simp [gap.space c (List.mem_of_mem_head? mem)]
    | cons c s =>
      rw [behind] at first
      simpa using first
  have name : ∀ c ∈ nameOf content, (!Text.isSpace c) = true := fun c mem =>
    List.all_eq_true.mp List.all_takeWhile c mem
  have taken := Text.takeWhile_append name stop
  rwa [← List.append_assoc, whole] at taken

/-- A tag is read alike with space behind it, if it can be read. -/
lemma ofContent_append_space {gap : Space}
    (readable : (ofContent content).fault = none ∨ (ofContent (content ++ gap.chars)).fault = none) :
    ofContent (content ++ gap.chars) = ofContent content := by
  have body : (content ++ gap.chars).drop (nameOf content).length =
      content.drop (nameOf content).length ++ gap.chars :=
    List.drop_append_of_le_length (List.takeWhile_sublist _).length_le
  have alike (as : List RawAttribute) :
      readAttributes [] [] (Text.width (nameOf content))
          (content.drop (nameOf content).length ++ gap.chars) = (as, none) ↔
        readAttributes [] [] (Text.width (nameOf content)) (content.drop (nameOf content).length) =
          (as, none) := by
    rw [readAttributes_eq_iff, readAttributes_eq_iff, lists_append_space_iff]
  have read : ∃ as, readAttributes [] [] (Text.width (nameOf content))
      (content.drop (nameOf content).length) = (as, none) := by
    obtain none | none := readable
    · exact ⟨_, Prod.ext rfl none⟩
    · rw [ofContent, nameOf_append_space, body] at none
      exact ⟨_, (alike _).mp (Prod.ext rfl none)⟩
  obtain ⟨as, plain⟩ := read
  rw [ofContent, nameOf_append_space, body, ofContent, ofParts, ofParts, (alike as).mpr plain, plain]

end Tag

/-! ## Drafts -/

/-- An element that is opened and closed at once is attached. -/
lemma Draft.exists_start_stop_iff :
    (∃ d₁, Moves limits d (.start tag) d₁ ∧ Moves limits d₁ .stop d') ↔ Moves limits d (.empty tag) d' := by
  have closed {e : Element} (opens : openTag limits d.scopes tag = .ok e) :
      Frame.close ⟨e, e.namespaces :: d.scopes, []⟩ = e := by
    obtain ⟨name, attributes, text, children, namespaces⟩ := e
    cases (plain_of_openTag opens).2
    rfl
  constructor
  · rintro ⟨d₁, starts, stops⟩
    cases starts with
    | start first opens deep =>
      cases stops with
      | stop attached =>
        rw [closed opens] at attached
        exact .empty opens deep attached
      | data said => cases said
    | data said | blank said => cases said
  · intro moves
    cases moves with
    | @empty _ _ _ e opens deep attached =>
      have first : d.stack = [] → d.root = none := by
        intro none
        cases attached with
        | inside => cases none
        | root => rfl
      refine ⟨_, .start first opens deep, .stop ?_⟩
      rw [closed opens]
      exact attached
    | data said | blank said => cases said

/-- A tag that moves a draft can be opened. -/
lemma Draft.Moves.exists_opens (moves : Moves limits d event d') (tagged : event.tag? = some tag) :
    ∃ c, Opens limits tag c := by
  cases moves with
  | start _ opens _ =>
    cases tagged
    obtain ⟨c, opens, -⟩ := openTag_eq_ok_iff.mp opens
    exact ⟨c, opens⟩
  | empty opens _ _ =>
    cases tagged
    obtain ⟨c, opens, -⟩ := openTag_eq_ok_iff.mp opens
    exact ⟨c, opens⟩
  | stop | aside => cases tagged
  | data said | blank said =>
    rw [(Event.of_data? said).1] at tagged
    cases tagged

/-! ## Quotes -/

/-- A reader is in quotes of one of two kinds, if in any. -/
lemma quote_of_mem_foldl {quote : Option Char} (kinds : ∀ q ∈ quote, q = '"' ∨ q = '\'') (s : List Char) :
    ∀ q ∈ s.foldl Event.quoteBehind quote, q = '"' ∨ q = '\'' := by
  induction s generalizing quote with
  | nil => exact kinds
  | cons c s ih =>
    refine ih fun q mem => ?_
    unfold Event.quoteBehind at mem
    split at mem
    next q' =>
      split at mem
      next => cases mem
      next =>
        cases mem
        exact kinds _ rfl
    next =>
      split at mem
      next mark =>
        cases mem
        exact mark
      next => cases mem

/-- A slash closes no quotes. -/
lemma closed_of_slash (h : Closed none (s ++ ['/'])) : Closed none s := by
  rw [Closed, List.foldl_append] at h
  cases state : s.foldl Event.quoteBehind none with
  | none => exact state
  | some q =>
    rw [state] at h
    have other : '/' ≠ q := by
      obtain rfl | rfl := quote_of_mem_foldl (by simp) s q state <;> decide
    exact absurd h (by simp [Event.quoteBehind, other])

/-- Space opens no quotes. -/
lemma closed_append_space (h : Closed none s) (gap : Space) : Closed none (s ++ gap.chars) := by
  rw [Closed, List.foldl_append, show s.foldl Event.quoteBehind none = none from h]
  have all := gap.space
  generalize gap.chars = t at all
  induction t with
  | nil => rfl
  | cons c t ih =>
    obtain ⟨space, all⟩ := List.forall_mem_cons.mp all
    have other : ¬(c = '"' ∨ c = '\'') := by
      rintro (rfl | rfl) <;> cases space
    rw [List.foldl_cons, Event.quoteBehind, if_neg other]
    exact ih all

/-! ## Empty tags -/

/-- A byte order mark is told without what stands behind a bracket. -/
lemma withoutMark_append_bracket (front x : List Char) :
    withoutMark (front ++ '<' :: x) = withoutMark front ++ '<' :: x := by
  cases front with
  | nil => rfl
  | cons c front =>
    by_cases mark : c = '\uFEFF'
    · subst mark
      rfl
    · rw [List.cons_append, withoutMark_eq_self (by simpa using mark),
        withoutMark_eq_self (by simpa using mark), List.cons_append]

/-- A text in which an empty tag stands behind whole pieces, with the space that is put behind the text of
the tag when it is written as a start tag: one that ends with a slash needs some. -/
structure LoneTag where
  front : List Char
  content : List Char
  gap : Space := {}
  rest : List Char
  whole : Whole (withoutMark front)
  first : ∀ c ∈ (content ++ ['/']).head?, c ∉ ['!', '/', '?']
  cut : Text.Cut '>' (Closed none) (content ++ '/' :: '>' :: rest) (content ++ ['/']) rest
  last : (content ++ gap.chars).getLast? ≠ some '/'

namespace LoneTag

variable {l : LoneTag}

/-- What stands behind the bracket of the empty tag. -/
def lone (l : LoneTag) : List Char :=
  l.content ++ '/' :: '>' :: l.rest

/-- What stands behind the bracket of the start tag: the rest of it, its end tag, and the same text. -/
def pair (l : LoneTag) : List Char :=
  l.content ++ l.gap.chars ++ '>' :: '<' :: '/' :: (Tag.nameOf l.content ++ '>' :: l.rest)

/-- The text as it is. -/
def short (l : LoneTag) : String :=
  .ofList (l.front ++ '<' :: l.lone)

/-- The text with a start tag and its end tag in the place of the empty tag. -/
def long (l : LoneTag) : String :=
  .ofList (l.front ++ '<' :: l.pair)

/-- The short form of a tag says an empty tag. -/
lemma over_short (l : LoneTag) :
    Over opened ('<' :: l.lone) [.empty (.ofContent l.content)] opened l.rest := by
  refine .markup (.empty (fun c mem => l.first c ?_) l.cut) .done
  rw [lone] at mem
  cases content : l.content <;> rw [content] at mem <;> exact mem

/-- The long form of a tag starts with a start tag. -/
lemma marks_start (l : LoneTag) :
    Marks opened l.pair (.start (.ofContent (l.content ++ l.gap.chars))) (Tag.nameOf l.content :: opened)
      ('<' :: '/' :: (Tag.nameOf l.content ++ '>' :: l.rest)) := by
  have plain : '>' ∉ l.gap.chars := fun mem => absurd (l.gap.space _ mem) (by decide)
  have cut : Text.Cut '>' (Closed none) l.pair (l.content ++ l.gap.chars)
      ('<' :: '/' :: (Tag.nameOf l.content ++ '>' :: l.rest)) := by
    refine ⟨rfl, closed_append_space (closed_of_slash l.cut.done) l.gap, fun a b split => ?_⟩
    obtain ⟨w, inside⟩ := Text.exists_of_mark plain split
    exact l.cut.first a (w ++ ['/']) (by simp [inside])
  have first : ∀ c ∈ l.pair.head?, c ∉ ['!', '/', '?'] := by
    intro c mem
    rw [pair] at mem
    cases content : l.content with
    | nil => exact absurd (l.first '/' (by rw [content]; rfl)) (by simp)
    | cons a s =>
      rw [content] at mem
      exact l.first c (by rw [content]; exact mem)
  have start : Marks opened l.pair _ _ _ := .start first cut l.last
  rwa [Tag.nameOf_append_space] at start

/-- Where the tag can be opened, the start tag and its end tag are read. -/
lemma over_long (l : LoneTag) {c : Collected} (opens : Opens limits (.ofContent l.content) c) :
    Over opened ('<' :: l.pair) [.start (.ofContent l.content), .stop] opened l.rest := by
  have named : IsTagName (String.ofList (Tag.nameOf l.content)) := isTagName_of_isQualified opens.named
  have stop : Marks (_ :: opened) _ _ _ _ := Event.marks_stop named {} l.rest
  rw [String.toList_ofList, List.append_nil] at stop
  have start : Marks opened l.pair _ _ _ := l.marks_start
  rw [Tag.ofContent_append_space (.inl opens.readable)] at start
  exact .markup start (.markup stop .done)

/-- If what stands in the place of the empty tag makes a document, the tag can be opened. -/
lemma exists_opens (l : LoneTag) (told : Told opened ('<' :: l.pair) events)
    (led : events.foldlM (Draft.step limits) d = .ok d') : ∃ c, Opens limits (.ofContent l.content) c := by
  have start : Over opened ('<' :: l.pair) _ _ _ := .markup l.marks_start .done
  obtain ⟨post, rfl, -⟩ := start.exists_split told
  simp only [foldlM_append_eq_ok_iff, foldlM_cons_eq_ok_iff, foldlM_nil_eq_ok_iff, exists_eq_right,
    Draft.step_eq_ok_iff] at led
  obtain ⟨d₁, starts, -⟩ := led
  obtain ⟨c, opens⟩ := starts.exists_opens rfl
  rw [Tag.ofContent_append_space (.inr opens.readable)] at opens
  exact ⟨c, opens⟩

/-- A document is read from an empty tag just if it is read from a start tag and its end tag. -/
theorem parse_short_iff (l : LoneTag) {root : Element} :
    parse limits l.short = .ok root ↔ parse limits l.long = .ok root := by
  rw [parse_eq_ok_iff, parse_eq_ok_iff, short, long, String.toList_ofList, String.toList_ofList,
    withoutMark_append_bracket, withoutMark_append_bracket]
  -- What is told in front and behind is the same, and so are the drafts on both sides of the element.
  constructor
  · rintro ⟨events, told, led⟩
    obtain ⟨front, opened, more, rfl, behind, reads⟩ := l.whole.exists_split told
    obtain ⟨post, rfl, opened', ends, pieces, last⟩ := l.over_short.exists_split behind
    simp only [foldlM_append_eq_ok_iff, foldlM_cons_eq_ok_iff, foldlM_nil_eq_ok_iff, exists_eq_right,
      Draft.step_eq_ok_iff] at led
    obtain ⟨d, before, d', moves, after⟩ := led
    obtain ⟨c, opens⟩ := moves.exists_opens rfl
    obtain ⟨d₁, starts, stops⟩ := Draft.exists_start_stop_iff.mpr moves
    refine ⟨_, ⟨opened', ends, (reads l.pair).append ((l.over_long opens).append pieces), last⟩, ?_⟩
    simp only [foldlM_append_eq_ok_iff, foldlM_cons_eq_ok_iff, foldlM_nil_eq_ok_iff, exists_eq_right,
      Draft.step_eq_ok_iff]
    exact ⟨d, before, d', ⟨d₁, starts, stops⟩, after⟩
  · rintro ⟨events, told, led⟩
    obtain ⟨front, opened, more, rfl, behind, reads⟩ := l.whole.exists_split told
    obtain ⟨d, before, led⟩ := foldlM_append_eq_ok_iff.mp led
    obtain ⟨c, opens⟩ := l.exists_opens behind led
    obtain ⟨post, rfl, opened', ends, pieces, last⟩ := (l.over_long opens).exists_split behind
    simp only [foldlM_append_eq_ok_iff, foldlM_cons_eq_ok_iff, foldlM_nil_eq_ok_iff, exists_eq_right,
      Draft.step_eq_ok_iff] at led
    obtain ⟨d', starts_stops, after⟩ := led
    have moves := Draft.exists_start_stop_iff.mp starts_stops
    refine ⟨_, ⟨opened', ends, (reads l.lone).append (l.over_short.append pieces), last⟩, ?_⟩
    simp only [foldlM_append_eq_ok_iff, foldlM_cons_eq_ok_iff, foldlM_nil_eq_ok_iff, exists_eq_right,
      Draft.step_eq_ok_iff]
    exact ⟨d, before, d', moves, after⟩

end LoneTag

/-! ## Documents -/

/-- A document is read alike from an empty tag and from a start tag with its end tag, under all limits; and
of all limits on depth that it is read under, the least is its height. Below that, the limit is exceeded. -/
theorem parse_unfolded (limits : Limits) :
    (∀ (l : LoneTag) (root : Element), parse limits l.short = .ok root ↔ parse limits l.long = .ok root) ∧
    ∀ (xml : String) (root : Element) (lifted : Nat), parse (limits.withDepth lifted) xml = .ok root →
      ∀ n, (root.height ≤ n → parse (limits.withDepth n) xml = .ok root) ∧
        (n < root.height → parse (limits.withDepth n) xml = .error (.ofBreach ⟨.depth, n + 1, n⟩)) :=
  ⟨fun l _ => l.parse_short_iff, fun _ _ _ made n => parse_withDepth made n⟩

/-- An empty tag on the second level, behind a comment. -/
theorem parse_unfolded_inner :
    ∃ (l : LoneTag) (root : Element), l.short = "<a><!----><b x=\"/>\"/></a>" ∧
      l.long = "<a><!----><b x=\"/>\"></b></a>" ∧ parse {} l.short = .ok root ∧ parse {} l.long = .ok root ∧
      parse (({} : Limits).withDepth 2) l.short = .ok root ∧
      parse (({} : Limits).withDepth 1) l.short = .error (.limit "XML depth 2 exceeds maximum 1") := by
  have outer : Event.cutTag none [] "a>".toList = some (['a'], []) := by decide +kernel
  obtain ⟨_, rfl, outer⟩ := Event.cutTag_eq_some_iff.mp outer
  have body : ¬ "-->".toList <:+: [] := by decide
  have comment : IsMarkup "!---->".toList := .bang rfl (Event.cut_comment body [])
  have found : Event.cutTag none [] "b x=\"/>\"/></a>".toList =
      some ("b x=\"/>\"/".toList, "</a>".toList) := by
    decide +kernel
  obtain ⟨_, rfl, cut⟩ := Event.cutTag_eq_some_iff.mp found
  -- Decided as it stands, this may be tried on every character there is.
  have named (c : Char) (s : List Char) (other : c ∉ ['!', '/', '?']) :
      ∀ a ∈ (c :: s).head?, a ∉ ['!', '/', '?'] := fun _ mem => Option.some.inj mem ▸ other
  let l : LoneTag := {
    front := "<a><!---->".toList
    content := "b x=\"/>\"".toList
    rest := "</a>".toList
    whole := .markup (.element (named 'a' _ (by decide)) outer) (.markup comment .nil)
    first := named 'b' _ (by decide)
    cut
    last := by decide }
  have short : l.short = "<a><!----><b x=\"/>\"/></a>" := by
    show String.ofList ("<a><!---->".toList ++ '<' :: ("b x=\"/>\"".toList ++ "/></a>".toList)) = _
    decide +kernel
  have long : l.long = "<a><!----><b x=\"/>\"></b></a>" := by
    show String.ofList ("<a><!---->".toList ++ '<' :: ("b x=\"/>\"".toList ++ [] ++ "></b></a>".toList)) = _
    decide +kernel
  have height : (parse {} l.short).toOption.map Element.height = some 2 := by
    rw [short]
    decide +kernel
  cases made : parse {} l.short with
  | error e =>
    rw [made] at height
    cases height
  | ok root =>
    rw [made] at height
    have height : root.height = 2 := Option.some.inj height
    obtain ⟨same, depth⟩ := parse_unfolded {}
    have bound := depth l.short root 1000 made
    refine ⟨l, root, short, long, made, (same l root).mp made, (bound 2).1 ?_, (bound 1).2 ?_⟩
    · rw [height]
    · rw [height]
      decide

end XsdInfer.Sample
