import Mathlib.Data.List.Forall2
import XsdInfer.Proofs.Sample.Pieces
import XsdInfer.Proofs.Text.Lines

/-!
# Pieces of samples with the same lines

Two samples with the same lines say the same but for line ends in values, in character data and in the
tags that cannot be read anyway (`Event.SameLines`). Main statement: what some pieces of a sample say,
those of the other one say as well (`Over.sameLines`), with one case for each kind of markup
(`Event.Marks.sameLines`). Names hold no line ends, so that the open tags are the same.
-/

namespace XsdInfer.Sample

open Text (SameLines)
open Text.SameLines (Inner)
open Event (Marks)
open Steps (exists_ok_of_bind)

variable {s t content rest : List Char}

/-! ## Tags -/

/-- Attributes whose values have the same lines. -/
structure RawAttribute.SameLines (a b : RawAttribute) : Prop where
  name : a.name = b.name
  raw : Text.SameLines a.raw b.raw

/-- Tags whose attributes have the same lines, if they can be read. -/
structure Tag.SameLines (a b : Tag) : Prop where
  name : a.name = b.name
  fault : a.fault = none → b.fault = none
  attributes : a.fault = none → List.Forall₂ RawAttribute.SameLines a.attributes b.attributes

namespace Tag

/-- A text without space has no line end. -/
lemma not_mem_of_visible (h : ∀ c ∈ s, Text.isSpace c = false) : '\n' ∉ s := fun mem =>
  absurd (h _ mem) (by decide)

/-- The name of a tag has no line end. -/
lemma not_mem_nameOf (content : List Char) : '\n' ∉ nameOf content :=
  not_mem_of_visible fun c mem => by simpa using List.all_eq_true.mp List.all_takeWhile c mem

/-- Tags with the same lines have the same name. -/
lemma nameOf_of_sameLines (h : Text.SameLines s t) : nameOf t = nameOf s :=
  (h.takeWhile (p := (!Text.isSpace ·)) rfl).eq_of_left (not_mem_nameOf s)

/-- Behind the name of a tag comes what starts with space. -/
lemma drop_nameOf (content : List Char) :
    content.drop (nameOf content).length = content.dropWhile (!Text.isSpace ·) := by
  have whole : nameOf content ++ content.dropWhile (!Text.isSpace ·) = content :=
    List.takeWhile_append_dropWhile
  exact (congrArg _ whole.symm).trans List.drop_left

/-- A name is read as it is, and the text behind it has the same lines. -/
lemma readKey_of_sameLines {position : Nat} {first : Char} {key : Key} (h : Text.SameLines s t)
    (read : readKey position first s = .ok key) (position' : Nat) :
    ∃ key', readKey position' first t = .ok key' ∧ key'.name = key.name ∧
      Text.SameLines key.rest key'.rest := by
  have more := h.takeWhile (p := fun c => c != '=' && !Text.isSpace c) rfl
  have behind := (h.dropWhile (p := fun c => c != '=' && !Text.isSpace c) rfl).dropWhile
    (p := Text.isSpace) rfl
  have plain : '\n' ∉ s.takeWhile fun c => c != '=' && !Text.isSpace c := by
    refine not_mem_of_visible fun c mem => ?_
    have inside := List.all_eq_true.mp List.all_takeWhile c mem
    rw [Bool.and_eq_true, Bool.not_eq_true'] at inside
    exact inside.2
  unfold readKey at read ⊢
  simp only at read ⊢
  split at read
  next rest equals =>
    cases read
    rw [equals] at behind
    obtain ⟨rest', equals', same⟩ := behind.exists_cons (by decide)
    rw [equals']
    exact ⟨_, rfl, by rw [more.eq_of_left plain], same⟩
  next => cases read

/-- A value is read alike from both texts. -/
lemma readValue_of_sameLines {position after : Nat} {value : List Char}
    (h : Text.SameLines s t) (read : readValue position s = .ok (value, rest, after))
    (position' : Nat) :
    ∃ value' rest' after', readValue position' t = .ok (value', rest', after') ∧
      Text.SameLines value value' ∧ Text.SameLines rest rest' := by
  have quoted := h.dropWhile (p := Text.isSpace) rfl
  unfold readValue at read ⊢
  simp only at read ⊢
  split at read
  next => cases read
  next quote u eq =>
    split at read
    next mark =>
      have inner : Inner quote := by
        obtain rfl | rfl := mark <;> decide
      split at read
      next cut =>
        cases read
        rw [eq] at quoted
        obtain ⟨u', eq', same⟩ := quoted.exists_cons inner.1
        obtain ⟨value', rest', cut', inside, behind⟩ := same.cutAt inner cut
        simp only [eq', mark, if_true, cut']
        exact ⟨value', rest', _, rfl, inside, behind⟩
      next => cases read
    next => cases read

/-- An attribute is read alike from both texts. -/
lemma readAttribute_of_sameLines {seen seen' : List (List Char × Nat)} {position after : Nat}
    {first : Char} {key : Key} {value : List Char} (names : seen.map Prod.fst = seen'.map Prod.fst)
    (h : Text.SameLines s t)
    (read : readAttribute seen position first s = .ok (key, value, rest, after)) (position' : Nat) :
    ∃ key' value' rest' after',
      readAttribute seen' position' first t = .ok (key', value', rest', after') ∧
        key'.name = key.name ∧ Text.SameLines value value' ∧ Text.SameLines rest rest' := by
  unfold readAttribute at read ⊢
  obtain ⟨key₁, one, read⟩ := exists_ok_of_bind read
  obtain ⟨_, new, read⟩ := exists_ok_of_bind read
  obtain ⟨⟨_, _, _⟩, found, read⟩ := exists_ok_of_bind read
  cases read
  obtain ⟨key', one', name, behind⟩ := readKey_of_sameLines h one position'
  obtain ⟨value', rest', after', found', inside, last⟩ :=
    readValue_of_sameLines behind found key'.restPosition
  have new' : checkNew seen' key' = .ok () := by
    rw [checkNew_eq_ok_iff, name, ← names]
    exact checkNew_eq_ok_iff.mp new
  refine ⟨key', value', rest', after', ?_, name, inside, last⟩
  rw [one']
  simp only [bind, Except.bind, new', found']
  rfl

/-- Attributes that can all be read are read from a text with the same lines. -/
lemma readAttributes_of_sameLines {done done' attributes : List RawAttribute}
    {seen seen' : List (List Char × Nat)} {position : Nat}
    (before : List.Forall₂ RawAttribute.SameLines done done')
    (names : seen.map Prod.fst = seen'.map Prod.fst) (h : Text.SameLines s t)
    (read : readAttributes done seen position s = (attributes, none)) (position' : Nat) :
    ∃ attributes', readAttributes done' seen' position' t = (attributes', none) ∧
      List.Forall₂ RawAttribute.SameLines attributes attributes' := by
  -- By the recursion of the reader. Positions may differ, but the names that are seen do not.
  fun_induction readAttributes done seen position s generalizing done' seen' position' t with
  | case1 done seen position s space =>
    cases read
    have space' : t.dropWhile Text.isSpace = [] := by
      rw [← (h.dropWhile (p := Text.isSpace) rfl).eq_nil_iff, space]
    exact ⟨_, readAttributes_of_nil space', List.forall₂_reverse_iff.mpr before⟩
  | case2 => cases read
  | case3 done seen position s first u begins key value rest after one ih =>
    have visible : Text.isSpace first = false := by
      have := List.head?_dropWhile_not Text.isSpace s
      rw [begins] at this
      simpa using this
    have behind := h.dropWhile (p := Text.isSpace) rfl
    rw [begins] at behind
    obtain ⟨u', begins', same⟩ := behind.exists_cons (by rintro rfl; cases visible)
    obtain ⟨key', value', rest', after', one', name, inside, last⟩ :=
      readAttribute_of_sameLines names same one (position' + Text.width (t.takeWhile Text.isSpace))
    rw [readAttributes_of_cons begins' one', name]
    have first :
        RawAttribute.SameLines ⟨String.ofList key.name, value⟩ ⟨String.ofList key.name, value'⟩ :=
      ⟨rfl, inside⟩
    exact ih (.cons first before) (by rw [List.map_cons, List.map_cons, names]) last read after'

/-- Contents with the same lines make like tags. -/
lemma ofContent_of_sameLines (h : Text.SameLines s t) : SameLines (ofContent s) (ofContent t) := by
  have body := h.dropWhile (p := (!Text.isSpace ·)) rfl
  rw [← drop_nameOf, ← drop_nameOf] at body
  have attributes (readable : (ofContent s).fault = none) :
      (ofContent t).fault = none ∧
        List.Forall₂ RawAttribute.SameLines (ofContent s).attributes (ofContent t).attributes := by
    have read : readAttributes [] [] (Text.width (nameOf s)) (s.drop (nameOf s).length) =
        ((ofContent s).attributes, none) := Prod.ext rfl readable
    obtain ⟨attributes, read', same⟩ :=
      readAttributes_of_sameLines .nil rfl body read (Text.width (nameOf t))
    have first : (ofContent t).attributes = attributes := congrArg Prod.fst read'
    have fault : (ofContent t).fault = none := congrArg Prod.snd read'
    exact ⟨fault, first ▸ same⟩
  exact ⟨congrArg String.ofList (nameOf_of_sameLines h).symm, fun readable => (attributes readable).1,
    fun readable => (attributes readable).2⟩

end Tag

/-! ## Markup -/

/-- Events whose values and character data have the same lines. -/
inductive Event.SameLines : Event → Event → Prop where
  | start {a b : Tag} :
    Tag.SameLines a b →
    SameLines (.start a) (.start b)
  | empty {a b : Tag} :
    Tag.SameLines a b →
    SameLines (.empty a) (.empty b)
  | stop :
    SameLines .stop .stop
  | text {a b : List Char} :
    Text.SameLines a b →
    SameLines (.text a) (.text b)
  | cdata {a b : List Char} :
    Text.SameLines a b →
    SameLines (.cdata a) (.cdata b)
  | aside :
    SameLines .aside .aside

namespace Event

/-- A line end is no quote. -/
lemma foldl_quoteBehind_of_sameLines {quote : Option Char} (inner : ∀ q ∈ quote, Inner q)
    (h : Text.SameLines s t) : s.foldl quoteBehind quote = t.foldl quoteBehind quote := by
  induction h generalizing quote with
  | nil => rfl
  | @char c s t _ ih =>
    refine ih fun q mem => ?_
    unfold quoteBehind at mem
    split at mem
    next q' =>
      split at mem
      next => cases mem
      next =>
        cases mem
        exact inner _ rfl
    next =>
      split at mem
      next mark =>
        cases mem
        obtain rfl | rfl := mark <;> decide
      next => cases mem
  | feed _ ih =>
    have still (c : Char) (end_of_line : ¬ Inner c) (other : c ≠ '"' ∧ c ≠ '\'') :
        quoteBehind quote c = quote := by
      unfold quoteBehind
      split
      next q =>
        rw [if_neg]
        rintro rfl
        exact end_of_line (inner c rfl)
      next => rw [if_neg (by simp [other])]
    rw [List.foldl_cons, List.foldl_cons, List.foldl_cons, still '\r' (by decide) (by decide),
      still '\n' (by decide) (by decide)]
    exact ih inner

/-- Markup is of the same kind in both texts. -/
lemma bangKind?_of_sameLines {kind : Markup × (List Char → Bool)} (h : Text.SameLines s t)
    (known : bangKind? s = some kind) : bangKind? t = some kind := by
  unfold bangKind? at known
  split at known
  next =>
    obtain ⟨t', rfl, -⟩ := h.exists_cons (by decide)
    exact known
  next =>
    obtain ⟨t', rfl, -⟩ := h.exists_cons (by decide)
    exact known
  next =>
    obtain ⟨t', rfl, -⟩ := h.exists_cons (by decide)
    exact known
  next =>
    obtain ⟨t', rfl, -⟩ := h.exists_cons (by decide)
    exact known
  next => cases known

/-- A text of less than three characters has two, one or none. -/
lemma short_cases {u : List Char} (short : u.length < 3) :
    (∃ x y, u = [x, y]) ∨ (∃ x, u = [x]) ∨ u = [] := by
  have lengths : u.length = 2 ∨ u.length = 1 ∨ u.length = 0 := by omega
  rwa [List.length_eq_two, List.length_eq_one_iff, List.length_eq_zero_iff] at lengths

/-- The fronts of markup with an exclamation mark are complete alike. -/
lemma complete_of_sameLines {markup : Markup} {complete : List Char → Bool} {a b a' : List Char}
    (kind : bangKind? s = some (markup, complete)) (front : '!' :: s = a ++ b)
    (h : Text.SameLines a a') : Complete complete [] a ↔ Complete complete [] a' := by
  have doctype : Complete completeDoctype [] a ↔ Complete completeDoctype [] a' := by
    rw [Complete, Complete, List.append_nil, List.append_nil, completeDoctype, completeDoctype]
    simp only [List.count_reverse, h.count_eq (c := '<') (by decide), h.count_eq (c := '>') (by decide)]
  unfold bangKind? at kind
  split at kind
  next =>
    cases kind
    rw [completeCData_iff, completeCData_iff]
    constructor
    · rintro ⟨u, rfl⟩
      obtain ⟨u', w, rfl, -, behind⟩ := h.split_left
      exact ⟨u', by rw [behind.eq_of_left (by decide)]⟩
    · rintro ⟨u', rfl⟩
      obtain ⟨u, rfl, -⟩ := h.split_right_plain (by decide)
      exact ⟨u, rfl⟩
  next =>
    cases kind
    rw [completeComment_iff, completeComment_iff]
    constructor
    · rintro ⟨u, rfl, long⟩
      obtain ⟨u', w, rfl, same, behind⟩ := h.split_left
      exact ⟨u', by rw [behind.eq_of_left (by decide)], long.trans same.length_le⟩
    · rintro ⟨u', rfl, long⟩
      obtain ⟨u, rfl, same⟩ := h.split_right_plain (by decide)
      refine ⟨u, rfl, Nat.le_of_not_lt fun short => ?_⟩
      -- So short a front is the mark and the hyphen, in which no line ends.
      have plain : '\n' ∉ u := by
        obtain ⟨x, y, rfl⟩ | ⟨x, rfl⟩ | rfl := short_cases short
        · simp only [List.cons_append, List.cons.injEq] at front
          obtain ⟨rfl, rfl, -⟩ := front
          decide
        · simp only [List.cons_append, List.cons.injEq] at front
          obtain ⟨rfl, -⟩ := front
          decide
        · simp
      rw [same.eq_of_left plain] at long
      omega
  next => cases kind; exact doctype
  next => cases kind; exact doctype
  next => cases kind

/-- A lead without line ends, in any case of the letters, stands in front of a text with the same lines,
too. -/
lemma startsFolded_of_sameLines {lead : List Char} (inner : '\n' ∉ lead.map Char.toLower)
    (starts : Text.startsFolded lead s = true) (h : Text.SameLines s t) :
    Text.startsFolded lead t = true ∧ Text.SameLines (s.drop lead.length) (t.drop lead.length) := by
  rw [Text.startsFolded, beq_iff_eq] at starts
  have plain : '\n' ∉ s.take lead.length := by
    intro mem
    have folded : Char.toLower '\n' ∈ (s.take lead.length).map Char.toLower := List.mem_map_of_mem mem
    rw [starts] at folded
    exact inner folded
  have whole : s.take lead.length ++ s.drop lead.length = s := List.take_append_drop _ _
  have long : (s.take lead.length).length = lead.length := by
    have := congrArg List.length starts
    simpa using this
  rw [← whole] at h
  obtain ⟨u, rfl, behind⟩ := h.split_plain plain
  rw [Text.startsFolded, List.take_left' long, List.drop_left' long, beq_iff_eq]
  exact ⟨starts, behind⟩

/-- What literal character data says stands between its start and its end. -/
lemma exists_cdata (starts : Text.startsFolded "![CDATA[".toList s = true)
    (done : Complete completeCData [] s) :
    ∃ d, s.drop 8 = d ++ [']', ']'] ∧ (s.drop 8).take (s.length - 10) = d := by
  obtain ⟨w, rfl⟩ := completeCData_iff.mp done
  -- The start ends with another bracket than the end.
  have long : 8 ≤ w.length := by
    rw [Text.startsFolded, beq_iff_eq] at starts
    have last : ((w ++ [']', ']'])[7]?).map Char.toLower = some '[' := by
      have same := congrArg (fun s => s[7]?) starts
      rw [List.getElem?_map, List.getElem?_take_of_lt (by decide)] at same
      exact same
    by_contra short
    rw [List.getElem?_append_right (by omega)] at last
    obtain ⟨c, found, folded⟩ := Option.map_eq_some_iff.mp last
    have closing : ∀ c ∈ [']', ']'], Char.toLower c ≠ '[' := by decide
    exact closing c (List.mem_of_getElem? found) folded
  have behind : (w ++ [']', ']']).drop 8 = w.drop 8 ++ [']', ']'] := List.drop_append_of_le_length long
  refine ⟨w.drop 8, behind, ?_⟩
  rw [behind, List.take_left']
  simp

/-- What markup with an exclamation mark says has the same lines. -/
lemma ofBangText_of_sameLines {markup : Markup} {complete : List Char → Bool} {event : Event}
    {u : List Char} (kind : bangKind? u = some (markup, complete)) (done : Complete complete [] s)
    (done' : Complete complete [] t) (said : ofBangText markup s = .ok event)
    (h : Text.SameLines s t) :
    ∃ event', ofBangText markup t = .ok event' ∧ SameLines event event' := by
  obtain ⟨rfl, rfl, begins⟩ | ⟨rfl, rfl, begins⟩ | ⟨rfl, rfl, begins, visible⟩ :=
    cases_of_ofBangText said
  · obtain ⟨rest, rfl⟩ := List.isPrefixOf_iff_prefix.mp begins
    obtain ⟨rest', rfl, -⟩ := h.split_plain (by decide)
    exact ⟨.aside, by simp [ofBangText], .aside⟩
  · have literal : complete = completeCData := by
      unfold bangKind? at kind
      split at kind <;> simp_all
    subst literal
    obtain ⟨begins', behind⟩ := startsFolded_of_sameLines (by decide) begins h
    obtain ⟨d, ends, data⟩ := exists_cdata begins done
    obtain ⟨d', ends', data'⟩ := exists_cdata begins' done'
    have behind : Text.SameLines (s.drop 8) (t.drop 8) := behind
    rw [ends, ends'] at behind
    obtain ⟨d₁, same, inside⟩ := behind.split_right_plain (by decide)
    obtain rfl := List.append_cancel_right same
    refine ⟨.cdata d', ?_, ?_⟩
    · rw [ofBangText, if_pos begins', data']
    · rw [data]
      exact .cdata inside
  · obtain ⟨begins', behind⟩ := startsFolded_of_sameLines (by decide) begins h
    have visible' : (t.drop 8).all Text.isSpace = false := by
      rw [← visible]
      exact (behind.all_eq rfl).symm
    refine ⟨.aside, ?_, .aside⟩
    rw [ofBangText, if_pos begins', visible']
    rfl

/-- A name in an end tag stays as it is, if it holds no line end. -/
lemma endName_of_sameLines (plain : '\n' ∉ endName s) (h : Text.SameLines s t) :
    endName t = endName s := by
  have same := h.dropTrailing (p := Text.isSpace) rfl
  unfold endName at plain ⊢
  cases name : Text.dropTrailing Text.isSpace s with
  | nil =>
    rw [name] at plain
    rw [h.eq_of_left plain, name]
  | cons c u =>
    rw [name] at plain same
    rw [same.eq_of_left plain]

/-- A tag is cut in a text with the same lines, and begins as it does. -/
lemma cut_tag_of_sameLines (first : ∀ c ∈ s.head?, c ∉ ['!', '/', '?'])
    (cut : Text.Cut '>' (Closed none) s content rest) (h : Text.SameLines s t) :
    (∀ c ∈ t.head?, c ∉ ['!', '/', '?']) ∧
      ∃ content' rest', Text.Cut '>' (Closed none) t content' rest' ∧
        Text.SameLines content content' ∧ Text.SameLines rest rest' := by
  constructor
  · intro c head mem
    have inner : Inner c := by
      simp only [List.mem_cons, List.not_mem_nil, or_false] at mem
      obtain rfl | rfl | rfl := mem <;> decide
    exact first c ((h.head?_iff inner).mpr head) mem
  · refine h.cut (by decide) cut fun a b a' _ same => ?_
    rw [Closed, Closed, foldl_quoteBehind_of_sameLines (by simp) same]

/-- Markup is said by a text with the same lines, inside of the same tags. -/
theorem Marks.sameLines {opened opened' : List (List Char)} {event : Event}
    (marks : Marks opened s event opened' rest) (plain : ∀ name ∈ opened, '\n' ∉ name)
    (h : Text.SameLines s t) :
    ∃ event' rest', Marks opened t event' opened' rest' ∧ SameLines event event' ∧
      Text.SameLines rest rest' := by
  cases marks with
  | @bang _ s content _ markup complete _ kind cut said =>
    obtain ⟨t, rfl, behind⟩ := h.exists_cons (by decide)
    obtain ⟨content', rest', cut', inside, last⟩ := h.cut (by decide) cut fun a b a' front same =>
      complete_of_sameLines kind (b := b ++ '>' :: rest) (by rw [cut.whole, front, List.append_assoc])
        same
    obtain ⟨event', said', same⟩ := ofBangText_of_sameLines kind cut.done cut'.done said inside
    exact ⟨event', rest', .bang (bangKind?_of_sameLines behind kind) cut' said', same, last⟩
  | @stop _ name s ends =>
    obtain ⟨t, rfl, behind⟩ := h.exists_cons (by decide)
    have inner : Inner '>' := by decide
    obtain ⟨content, last⟩ := behind.upTo inner
    have ends' : endName (Text.upTo '>' t).1 = name := by
      rw [endName_of_sameLines (ends ▸ plain name (.head _)) content, ends]
    exact ⟨.stop, _, .stop ends', .stop, last⟩
  | @instruction _ s wide ends =>
    obtain ⟨t, rfl, behind⟩ := h.exists_cons (by decide)
    have inner : Inner '>' := by decide
    obtain ⟨content, last⟩ := h.upTo inner
    exact ⟨.aside, _, .instruction (wide.trans_le content.width_le)
      ((content.getLast?_iff (by decide)).mp ends), .aside, last⟩
  | @empty _ _ content _ first cut =>
    obtain ⟨first', _, rest', cut', inside, last⟩ := cut_tag_of_sameLines first cut h
    obtain ⟨content', w, rfl, same, slash⟩ := inside.split_left
    rw [slash.eq_of_left (by decide)] at cut'
    exact ⟨_, rest', .empty first' cut', .empty (Tag.ofContent_of_sameLines same), last⟩
  | @start _ _ content _ first cut ends =>
    obtain ⟨first', content', rest', cut', inside, last⟩ := cut_tag_of_sameLines first cut h
    have ends' : content'.getLast? ≠ some '/' := fun slash =>
      ends ((inside.getLast?_iff (by decide)).mpr slash)
    rw [← Tag.nameOf_of_sameLines inside]
    exact ⟨_, rest', .start first' cut' ends', .start (Tag.ofContent_of_sameLines inside), last⟩

/-- Markup keeps the names of the open tags free of line ends. -/
lemma Marks.plain {opened opened' : List (List Char)} {event : Event}
    (marks : Marks opened s event opened' rest) (plain : ∀ name ∈ opened, '\n' ∉ name) :
    ∀ name ∈ opened', '\n' ∉ name := by
  cases marks with
  | stop _ => exact fun name mem => plain name (.tail _ mem)
  | start _ _ _ => exact List.forall_mem_cons.mpr ⟨Tag.not_mem_nameOf _, plain⟩
  | _ => exact plain

end Event

/-! ## Pieces -/

/-- What some pieces say, those of a text with the same lines say as well. -/
theorem Over.sameLines {opened opened' : List (List Char)} {events : List Event}
    (pieces : Over opened s events opened' rest) (plain : ∀ name ∈ opened, '\n' ∉ name)
    (h : SameLines s t) :
    ∃ events' rest', Over opened t events' opened' rest' ∧
      List.Forall₂ Event.SameLines events events' ∧ SameLines rest rest' := by
  -- An end tag is compared with the names that are open, in which no line ends.
  induction pieces generalizing t with
  | done => exact ⟨[], t, .done, .nil, h⟩
  | markup marks _ ih =>
    obtain ⟨t, rfl, behind⟩ := h.exists_cons (by decide)
    obtain ⟨event', u, marks', first, behind'⟩ := marks.sameLines plain behind
    obtain ⟨events', rest', pieces, more, last⟩ := ih (marks.plain plain) behind'
    exact ⟨_, rest', .markup marks' pieces, .cons first more, last⟩
  | data nonempty unmarked stop _ ih =>
    obtain ⟨run', u, rfl, data, behind⟩ := h.split_left
    obtain ⟨events', rest', pieces, more, last⟩ := ih plain behind
    refine ⟨_, rest', .data ?_ ?_ ?_ pieces, .cons (.text data) more, last⟩
    · exact fun none => nonempty (data.eq_nil_iff.mpr none)
    · exact fun mem => unmarked ((data.mem_iff (by decide)).mpr mem)
    · exact stop.imp behind.eq_nil_iff.mp (behind.head?_iff (by decide)).mp

/-- What is told, is told by a text with the same lines. -/
lemma Told.sameLines {events : List Event} (told : Told [] s events) (h : SameLines s t) :
    ∃ events', Told [] t events' ∧ List.Forall₂ Event.SameLines events events' := by
  obtain ⟨opened, rest, pieces, ends⟩ := told
  obtain ⟨events', rest', pieces', same, last⟩ := pieces.sameLines (fun _ mem => absurd mem nofun) h
  refine ⟨events', ⟨opened, rest', pieces', ?_⟩, same⟩
  obtain rfl | rfl := ends
  · exact .inl (last.eq_of_left nofun)
  · exact .inr (last.eq_of_left (by decide))

end XsdInfer.Sample
