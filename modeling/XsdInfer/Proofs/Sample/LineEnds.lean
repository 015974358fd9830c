import XsdInfer.Proofs.Element.Lines
import XsdInfer.Proofs.Sample.Lines

/-!
# Line ends of samples

Drafts with the same lines stay so over events with the same lines (`Draft.Moves.sameLines`), so that a
sample is read as a tree with the same lines, whatever its line ends (`exists_parse_of_sameLines`). Main
statement: a carriage return before each line feed of a sample does not change what comes out of its
conversion (`Conversion.convert_withReturns`).
-/

namespace XsdInfer

open Text (SameLines Alike)
open Steps (exists_ok_of_bind eq_ok_of_mapError)

namespace Sample

variable {s t : List Char} {limits : Limits}

/-! ## References -/

namespace Reference

/-- A number is written in digits alone. -/
lemma isSome_of_number {base : String} {radix n : Nat} {digit? : Char → Option Nat}
    (h : number base radix digit? s = .ok n) : ∀ c ∈ s, (digit? c).isSome = true := by
  unfold number at h
  generalize 0 = start at h
  induction s generalizing start with
  | nil => exact fun _ mem => absurd mem List.not_mem_nil
  | cons c s ih =>
    rw [List.foldlM_cons] at h
    obtain ⟨next, first, rest⟩ := exists_ok_of_bind h
    refine List.forall_mem_cons.mpr ⟨?_, ih next rest⟩
    cases digit : digit? c with
    | some d => rfl
    | none => rw [digit] at first; cases first

/-- The name of a character holds no line feed. -/
lemma Means.plain_of_feed {name : List Char} {c : Char} (h : Means name c) : '\n' ∉ name := by
  have resolved := h.resolved
  unfold resolve at resolved
  split at resolved
  next s =>
    obtain ⟨n, written, -⟩ := exists_ok_of_bind resolved
    unfold code at written
    intro mem
    have mem : '\n' ∈ s := by simpa using mem
    split at written
    next =>
      split at written
      next => cases written
      next => exact absurd (isSome_of_number written '\n' (by simpa using mem)) (by decide)
    next =>
      split at written
      next => cases written
      next => exact absurd (isSome_of_number written _ mem) (by decide)
  next =>
    split at resolved
    next c' known =>
      obtain ⟨front, behind, eq, -⟩ := List.lookup_eq_some_iff.mp known
      have names : ∀ p ∈ Text.predefined, '\n' ∉ p.1.toList := by decide
      have plain := names (String.ofList name, c') (by rw [eq]; simp)
      rwa [String.toList_ofList] at plain
    next => cases resolved

/-- What texts with the same lines say has the same lines. -/
lemma Decodes.sameLines {d : List Char} (decodes : Decodes s d) (h : SameLines s t) :
    ∃ e, Decodes t e ∧ SameLines d e := by
  induction decodes generalizing t with
  | nil =>
    cases h
    exact ⟨[], .nil, .nil⟩
  | @char c s d other _ ih =>
    cases h with
    | char h =>
      obtain ⟨e, decodes, same⟩ := ih h
      exact ⟨c :: e, .char other decodes, .char same⟩
    | feed h =>
      obtain ⟨e, decodes, same⟩ := ih h
      exact ⟨'\r' :: '\n' :: e, .char (by decide) (.char other decodes), .feed same⟩
  | @reference name s d c means _ ih =>
    -- No line ends inside of a reference, so that it is the same in both texts.
    obtain ⟨u, rfl, behind⟩ := h.exists_cons (by decide)
    obtain ⟨v, rfl, rest⟩ := behind.split_plain means.plain_of_feed
    obtain ⟨t, rfl, last⟩ := rest.exists_cons (by decide)
    obtain ⟨e, decodes, same⟩ := ih last
    exact ⟨c :: e, .reference means decodes, .char same⟩

end Reference

/-! ## Tags -/

/-- What is collected from tags with the same lines. -/
structure Collected.SameLines (c c' : Collected) : Prop where
  namespaces : c.namespaces.SameLines c'.namespaces
  plain : List.Forall₂ AlikeEntries c.plain c'.plain

namespace Collected

variable {c c' d : Collected}

/-- Like attributes are added alike. -/
lemma add_of_sameLines {name value value' : String} (h : c.SameLines c')
    (same : Alike value value') (added : c.add name value = .ok d) :
    ∃ d', c'.add name value' = .ok d' ∧ d.SameLines d' := by
  unfold add at added ⊢
  split at added
  next unprefixed =>
    cases added
    have now : Option.Rel Alike (some value) (some value') := .some same
    rw [if_pos unprefixed]
    exact ⟨_, rfl, ⟨h.namespaces.prefixed, now⟩, h.plain⟩
  next other =>
    rw [if_neg other]
    split at added
    next pre declared =>
      cases added
      have now := h.namespaces.prefixed.insert (k := pre) same
      exact ⟨_, rfl, ⟨now, h.namespaces.unprefixed⟩, h.plain⟩
    next =>
      split at added
      next qualified =>
        cases added
        have entry : AlikeEntries (name, value) (name, value') := ⟨rfl, same⟩
        rw [if_pos qualified]
        exact ⟨_, rfl, h.namespaces, .cons entry h.plain⟩
      next => cases added

/-- Like attributes are added alike as they are written. -/
lemma addRaw_of_sameLines {a a' : RawAttribute} (h : c.SameLines c') (same : a.SameLines a')
    (added : c.addRaw a = .ok d) : ∃ d', c'.addRaw a' = .ok d' ∧ d.SameLines d' := by
  unfold addRaw at added ⊢
  split at added
  next value decoded =>
    obtain ⟨value', decodes, alike⟩ := (Reference.decode_eq_ok_iff.mp decoded).sameLines same.raw
    rw [Reference.decode_eq_ok_iff.mpr decodes, ← same.name]
    refine add_of_sameLines h ?_ added
    rwa [Alike, String.toList_ofList, String.toList_ofList]
  next => cases added

/-- Like lists of attributes are collected alike. -/
lemma foldlM_of_sameLines {as as' : List RawAttribute} (h : c.SameLines c')
    (same : List.Forall₂ RawAttribute.SameLines as as') (added : as.foldlM addRaw c = .ok d) :
    ∃ d', as'.foldlM addRaw c' = .ok d' ∧ d.SameLines d' := by
  induction same generalizing c c' with
  | nil =>
    cases added
    exact ⟨c', rfl, h⟩
  | cons first _ ih =>
    rw [List.foldlM_cons] at added ⊢
    obtain ⟨c₁, one, more⟩ := exists_ok_of_bind added
    obtain ⟨c₂, one', h'⟩ := addRaw_of_sameLines h first one
    rw [one']
    exact ih h' more

/-- The attributes of like tags are collected alike. -/
lemma ofTag_of_sameLines {tag tag' : Tag} (same : tag.SameLines tag') (collected : ofTag tag = .ok d) :
    ∃ d', ofTag tag' = .ok d' ∧ d.SameLines d' := by
  obtain ⟨c, added, faultless⟩ := exists_ok_of_bind collected
  cases fault : tag.fault with
  | some f => rw [fault] at faultless; cases faultless
  | none =>
    rw [fault] at faultless
    cases faultless
    have start : Collected.SameLines {} {} := ⟨⟨.nil, .none⟩, .nil⟩
    obtain ⟨d', added', h⟩ := foldlM_of_sameLines start (same.attributes fault) added
    refine ⟨d', ?_, h⟩
    rw [ofTag, added', same.fault fault]
    rfl

end Collected

/-- A prefix stands for like namespaces in like scopes. -/
lemma boundTo?_of_sameLines {scopes scopes' : List Namespace.Declarations}
    (h : List.Forall₂ Namespace.Declarations.SameLines scopes scopes') (pre : String) :
    Option.Rel Alike (boundTo? scopes pre) (boundTo? scopes' pre) := by
  induction h with
  | nil => exact .none
  | @cons d d' scopes scopes' first _ ih =>
    have here := first.get? pre
    rw [boundTo?, boundTo?, List.findSome?_cons, List.findSome?_cons]
    generalize d.get? pre = x at here ⊢
    generalize d'.get? pre = y at here ⊢
    cases here with
    | none => exact ih
    | some same => exact .some same

/-- A name ties to a schema in both scopes or in neither. -/
lemma tiesToSchema_of_sameLines {scopes scopes' : List Namespace.Declarations}
    (h : List.Forall₂ Namespace.Declarations.SameLines scopes scopes') (name : String) :
    tiesToSchema scopes name = tiesToSchema scopes' name := by
  have instance_eq {x y : Option String} (h : Option.Rel Alike x y) :
      (x == some Namespace.xsi) = (y == some Namespace.xsi) := by
    cases h with
    | none => rfl
    | some same =>
      rw [Bool.eq_iff_iff, beq_iff_eq, beq_iff_eq, Option.some_inj, Option.some_inj,
        same.eq_iff (by decide)]
  unfold tiesToSchema
  split
  next pre _ => exact instance_eq (boundTo?_of_sameLines h pre)
  next => rfl

/-- Tags with the same lines open elements with the same lines. -/
lemma openTag_of_sameLines {around around' : List Namespace.Declarations} {tag tag' : Tag} {e : Element}
    (scopes : List.Forall₂ Namespace.Declarations.SameLines around around') (same : tag.SameLines tag')
    (opens : openTag limits around tag = .ok e) :
    ∃ e', openTag limits around' tag' = .ok e' ∧ e.SameLines e' := by
  unfold openTag at opens ⊢
  obtain ⟨_, named, opens⟩ := exists_ok_of_bind opens
  obtain ⟨c, collected, opens⟩ := exists_ok_of_bind opens
  obtain ⟨_, namespaces, opens⟩ := exists_ok_of_bind opens
  obtain ⟨_, attributes, opens⟩ := exists_ok_of_bind opens
  cases opens
  obtain ⟨c', collected', h⟩ := Collected.ofTag_of_sameLines same (eq_ok_of_mapError collected)
  -- Which attributes are left out goes by the declarations in force, and these are alike.
  have ties := tiesToSchema_of_sameLines (.cons h.namespaces scopes)
  have kept : List.Forall₂ AlikeEntries
      (c.plain.reverse.filter fun a => !tiesToSchema (c.namespaces :: around) a.1)
      (c'.plain.reverse.filter fun a => !tiesToSchema (c'.namespaces :: around') a.1) := by
    refine List.rel_filter (fun a b entry => ?_) (List.forall₂_reverse_iff.mpr h.plain)
    simp only [entry.1, ties]
  have filled {as as' : List (String × String)} (kept : List.Forall₂ AlikeEntries as as')
      {e e' : Element} (same : e.SameLines e') :
      (as.foldl (fun e a => e.withAttribute a.1 a.2) e).SameLines
        (as'.foldl (fun e a => e.withAttribute a.1 a.2) e') := by
    induction kept generalizing e e' with
    | nil => exact same
    | cons first _ ih => exact ih (same.withAttribute first)
  have start : Element.SameLines { name := tag.name, namespaces := c.namespaces }
      { name := tag'.name, namespaces := c'.namespaces } :=
    .intro same.name .nil .none .nil h.namespaces
  have made : (Collected.ofTag tag').mapError Failure.problem = .ok c' := by
    rw [collected']
    rfl
  rw [h.namespaces.size] at namespaces
  rw [h.plain.length_eq] at attributes
  refine ⟨_, ?_, filled kept start⟩
  rw [← same.name, named, made]
  simp only [bind, Except.bind]
  rw [namespaces, attributes]
  rfl

/-! ## Drafts -/

/-- Open elements with the same lines. -/
structure Frame.SameLines (f g : Frame) : Prop where
  element : f.element.SameLines g.element
  scopes : List.Forall₂ Namespace.Declarations.SameLines f.scopes g.scopes
  children : List.Forall₂ Element.SameLines f.children g.children

namespace Draft

/-- Drafts with the same lines. -/
structure SameLines (d e : Draft) : Prop where
  stack : List.Forall₂ Frame.SameLines d.stack e.stack
  root : Option.Rel Element.SameLines d.root e.root

variable {d d' e : Draft}

/-- Like drafts have like scopes. -/
lemma scopes_of_sameLines (h : d.SameLines e) :
    List.Forall₂ Namespace.Declarations.SameLines d.scopes e.scopes := by
  obtain ⟨stack, root⟩ := d
  obtain ⟨stack', root'⟩ := e
  cases h.stack with
  | nil => exact .nil
  | cons first _ => exact first.scopes

/-- Like elements go to their places alike. -/
lemma attached_of_sameLines {a b : Element} (attached : Attached a d d') (h : d.SameLines e)
    (same : a.SameLines b) : ∃ e', Attached b e e' ∧ d'.SameLines e' := by
  obtain ⟨stack', root'⟩ := e
  cases attached with
  | inside =>
    cases h.stack with
    | cons first rest =>
      refine ⟨_, .inside, .cons ?_ rest, h.root⟩
      exact ⟨first.element, first.scopes, .cons same first.children⟩
  | root =>
    cases h.stack
    cases h.root
    exact ⟨_, .root, .nil, .some same⟩

/-- Like events say like data. -/
lemma data?_of_sameLines {event event' : Event} {data : List Char} (said : event.data? = some data)
    (same : Event.SameLines event event') :
    ∃ data', event'.data? = some data' ∧ Text.SameLines data data' := by
  cases same with
  | text raw =>
    obtain ⟨data', decodes, alike⟩ := (Event.data?_text_iff.mp said).sameLines raw
    exact ⟨data', Event.data?_text_iff.mpr decodes, alike⟩
  | cdata alike =>
    cases said
    exact ⟨_, rfl, alike⟩
  | _ => cases said

/-- Events with the same lines move drafts with the same lines alike. -/
theorem Moves.sameLines {event event' : Event} (moves : Moves limits d event d') (h : d.SameLines e)
    (same : Event.SameLines event event') :
    ∃ e', Moves limits e event' e' ∧ d'.SameLines e' := by
  cases moves with
  | @start _ tag a first opens deep =>
    cases same with
    | start tags =>
      obtain ⟨b, opens', element⟩ := openTag_of_sameLines (scopes_of_sameLines h) tags opens
      refine ⟨_, .start ?_ opens' ?_, .cons ⟨element, ?_, .nil⟩ h.stack, h.root⟩
      -- With nothing open on one side, nothing is open on the other, and so there is no root on either.
      · intro none
        have rooted := h.root
        have alone := h.stack
        rw [none, List.forall₂_nil_right_iff] at alone
        rw [first alone] at rooted
        generalize e.root = r at rooted ⊢
        cases rooted
        rfl
      · rwa [← h.stack.length_eq]
      · exact .cons element.namespaces (scopes_of_sameLines h)
  | @empty _ _ tag a opens deep attached =>
    cases same with
    | empty tags =>
      obtain ⟨b, opens', element⟩ := openTag_of_sameLines (scopes_of_sameLines h) tags opens
      obtain ⟨e', attached', after⟩ := attached_of_sameLines attached h element
      exact ⟨e', .empty opens' (by rwa [← h.stack.length_eq]) attached', after⟩
  | @stop f stack root _ attached =>
    obtain ⟨stack', root'⟩ := e
    cases same
    cases h.stack with
    | @cons _ g _ _ first rest =>
      have closed : f.close.SameLines g.close :=
        first.element.withChildren (List.forall₂_reverse_iff.mpr first.children)
      have around : SameLines ⟨stack, root⟩ ⟨_, root'⟩ := ⟨rest, h.root⟩
      obtain ⟨e', attached', after⟩ := attached_of_sameLines attached around closed
      exact ⟨e', .stop attached', after⟩
  | @data _ data f stack root said =>
    obtain ⟨stack', root'⟩ := e
    obtain ⟨data', said', alike⟩ := data?_of_sameLines said same
    cases h.stack with
    | cons first rest =>
      refine ⟨_, .data said', .cons ?_ rest, h.root⟩
      exact ⟨first.element.appendText alike, first.scopes, first.children⟩
  | @blank _ data root said blank =>
    obtain ⟨stack', root'⟩ := e
    obtain ⟨data', said', alike⟩ := data?_of_sameLines said same
    have blank' : data'.all Text.isBlank = true := by
      rw [← alike.all_eq (p := Text.isBlank) (by decide)]
      exact List.all_eq_true.mpr blank
    cases h.stack
    exact ⟨_, .blank said' (List.all_eq_true.mp blank'), h⟩
  | aside =>
    cases same
    exact ⟨e, .aside, h⟩

/-- Events with the same lines lead to drafts with the same lines. -/
lemma foldlM_of_sameLines {events events' : List Event} (made : events.foldlM (step limits) d = .ok d')
    (h : d.SameLines e) (same : List.Forall₂ Event.SameLines events events') :
    ∃ e', events'.foldlM (step limits) e = .ok e' ∧ d'.SameLines e' := by
  induction same generalizing d e with
  | nil =>
    cases made
    exact ⟨e, rfl, h⟩
  | cons first _ ih =>
    rw [List.foldlM_cons] at made ⊢
    obtain ⟨d₁, one, more⟩ := exists_ok_of_bind made
    obtain ⟨e₁, one', h'⟩ := (step_eq_ok_iff.mp one).sameLines h first
    rw [step_eq_ok_iff.mpr one']
    exact ih more h'

end Draft

/-- Texts have the same lines without their marks. -/
lemma withoutMark_of_sameLines (h : SameLines s t) : SameLines (withoutMark s) (withoutMark t) := by
  cases h with
  | nil => exact .nil
  | @char c s t h =>
    by_cases mark : c = '\uFEFF'
    · subst mark
      exact h
    · rw [withoutMark_eq_self (by simpa using mark), withoutMark_eq_self (by simpa using mark)]
      exact .char h
  | feed h => exact .feed h

/-- A sample with the same lines is read as a tree with the same lines. -/
theorem exists_parse_of_sameLines {xml xml' : String} {root : Element} (h : Alike xml xml')
    (made : parse limits xml = .ok root) :
    ∃ root', parse limits xml' = .ok root' ∧ root.SameLines root' := by
  obtain ⟨events, told, led⟩ := parse_eq_ok_iff.mp made
  obtain ⟨events', told', same⟩ := told.sameLines (withoutMark_of_sameLines h)
  have start : Draft.SameLines {} {} := ⟨.nil, .none⟩
  obtain ⟨d, led', after⟩ := Draft.foldlM_of_sameLines led start same
  obtain ⟨stack, root?⟩ := d
  obtain ⟨none, rooted⟩ := after
  cases none
  cases rooted with
  | some lines => exact ⟨_, parse_eq_ok_iff.mpr ⟨events', told', led'⟩, lines⟩

end Sample

/-! ## Conversions -/

/-- Inference comes to one schema for trees with the same lines whose roots have one namespace. -/
lemma Schema.infer_of_sameLines {root root' : Element} (h : root.SameLines root')
    (namespaces : root.namespace? = root'.namespace?) (scope : Scope) (limits : Limits) :
    infer scope limits root = infer scope limits root' := by
  have shape := h.sameShape
  have described : described scope root = described scope root' := by
    show Schema.mk root.name root.namespace? 0 (described scope root).types = _
    rw [shape.types_described scope, h.name, namespaces]
    rfl
  rw [infer_eq, infer_eq, shape.typeKeys_eq scope, described]

namespace Conversion

variable {c : Conversion} {xml xsd : String}

/-- The text of the schema does not depend on the line ends of a sample: a carriage return before each
line feed does not change it, if there is room for the longer sample and the name of the namespace of
the root stands on one line. -/
theorem convert_withReturns
    (namespaces : ∀ root, Sample.parse c.limits xml = .ok root →
      ∀ uri, root.namespace? = some uri → '\n' ∉ uri.toList)
    (room : (String.ofList (Text.withReturns xml.toList)).utf8ByteSize ≤ c.limits.size)
    (h : c.convert xml = .ok xsd) :
    c.convert (String.ofList (Text.withReturns xml.toList)) = .ok xsd := by
  have lines : Alike xml (String.ofList (Text.withReturns xml.toList)) := by
    rw [Alike, String.toList_ofList]
    exact SameLines.withReturns _
  obtain ⟨s, converted, rfl⟩ := exists_infer_of_convert h
  obtain ⟨-, root, made, inferred⟩ := infer_eq_ok_iff.mp converted
  obtain ⟨root', made', same⟩ := Sample.exists_parse_of_sameLines lines made
  have one : root.namespace? = root'.namespace? := by
    rw [Element.namespace?, Element.namespace?, Element.qualifier?, Element.qualifier?, ← same.name]
    exact same.namespaces.ofElement_eq (namespaces root made)
  rw [Schema.infer_of_sameLines same one] at inferred
  exact convert_of_infer (infer_eq_ok_iff.mpr ⟨room, root', made', inferred⟩)

/-- Lines that end between and inside of markup, in a value, in character data and in a time. -/
theorem convert_withReturns_document :
    let xml := "<?xml version=\"1.0\"\n?>\n<!--\n--><o:a\nxmlns:o='urn:o' k='1\n'>u\nv<b\n>10:00:00\n+1</b\n>" ++
      "\n<![CDATA[\n]]></o:a>\n"
    ∃ xsd, convert {} xml = .ok xsd ∧
      (∀ root, Sample.parse {} xml = .ok root →
        ∀ uri, root.namespace? = some uri → '\n' ∉ uri.toList) ∧
      (String.ofList (Text.withReturns xml.toList)).utf8ByteSize ≤ ({} : Limits).size ∧
      convert {} (String.ofList (Text.withReturns xml.toList)) = .ok xsd := by
  intro xml
  have accepted : (convert {} xml).isOk = true := by decide +kernel
  have namespaced : (Sample.parse {} xml).map Element.namespace? = .ok (some "urn:o") := by
    decide +kernel
  have namespaces : ∀ root, Sample.parse {} xml = .ok root →
      ∀ uri, root.namespace? = some uri → '\n' ∉ uri.toList := by
    intro root parsed uri here
    rw [parsed] at namespaced
    obtain rfl := Option.some.inj (here.symm.trans (Except.ok.inj namespaced))
    decide
  have room : (String.ofList (Text.withReturns xml.toList)).utf8ByteSize ≤ ({} : Limits).size := by
    decide +kernel
  cases converted : convert {} xml with
  | error e => rw [converted] at accepted; cases accepted
  | ok xsd => exact ⟨xsd, rfl, namespaces, room, convert_withReturns namespaces room converted⟩

end Conversion

end XsdInfer
