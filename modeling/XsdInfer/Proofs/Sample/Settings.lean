import XsdInfer.Proofs.Sample.Gathered
import XsdInfer.Proofs.Sample.Opening
import XsdInfer.Proofs.Sample.Pieces

/-!
# Settings of tags

What an element keeps of its tag. Main statement: the elements of a document declare the namespaces that
their tags declare, and have the other attributes of their tags in order, but for those that tie the
document to a schema (`parse_keeps_settings`). Whether an attribute does that is told by the nearest
declaration of its qualifier (`Nearest`), on its own tag or on one that is open there. No attribute
displaces another, since a tag does not name one twice.
-/

namespace XsdInfer

open Element (Place)
open Steps (exists_ok_of_bind)

/-! ## Nearest declarations -/

namespace Element

/-- What a prefix stands for by the nearest declaration on some elements, the innermost one first. -/
def Nearest (es : List Element) (pre uri : String) : Prop :=
  ∃ inner e outer, es = inner ++ e :: outer ∧ e.namespaces.prefixed.get? pre = some uri ∧
    ∀ f ∈ inner, f.namespaces.prefixed.get? pre = none

/-- The name of an attribute that ties a document to a schema. The prefix `xml` never does. -/
def Tied (es : List Element) (name : String) : Prop :=
  ∃ pre, Name.qualifier? name = some pre ∧ pre ≠ "xml" ∧ Nearest es pre Namespace.xsi

variable {es : List Element} {pre uri name : String}

/-- The nearest declaration is the first one that is found from inside. -/
lemma nearest_iff : Nearest es pre uri ↔
    es.findSome? (·.namespaces.prefixed.get? pre) = some uri := by
  rw [List.findSome?_eq_some_iff]
  rfl

end Element

namespace Sample

variable {es : List Element} {pre uri name : String}

/-- A prefix stands for what the nearest declaration says, but for the one that is always known. -/
lemma boundTo?_of_ne (other : pre ≠ "xml") (es : List Element) :
    boundTo? (es.map Element.namespaces) pre = es.findSome? (·.namespaces.prefixed.get? pre) := by
  rw [boundTo?, List.findSome?_map]
  congr 1
  funext e
  exact if_neg other

/-- The prefix `xml` stands for its own namespace, whatever is declared. -/
lemma boundTo?_xml (es : List Element) :
    boundTo? (es.map Element.namespaces) "xml" ≠ some Namespace.xsi := by
  cases es with
  | nil => exact fun none => by cases none
  | cons e es =>
    intro bound
    have own : some Namespace.xml = some Namespace.xsi := bound
    exact absurd own (by decide)

/-- A name ties to a schema as its prefix says. -/
lemma tiesToSchema_iff : tiesToSchema (es.map Element.namespaces) name = true ↔ Element.Tied es name := by
  unfold tiesToSchema
  split
  next pre qualified =>
    rw [beq_iff_eq]
    constructor
    · intro bound
      have other : pre ≠ "xml" := by
        rintro rfl
        exact boundTo?_xml es bound
      exact ⟨pre, qualified, other, Element.nearest_iff.mpr (boundTo?_of_ne other es ▸ bound)⟩
    · rintro ⟨pre', qualified', other, nearest⟩
      obtain rfl : pre = pre' := Option.some.inj (qualified.symm.trans qualified')
      rw [boundTo?_of_ne other]
      exact Element.nearest_iff.mp nearest
  next none =>
    refine iff_of_false (by simp) ?_
    rintro ⟨pre, qualified, -⟩
    rw [none] at qualified
    cases qualified

end Sample

instance (es : List Element) (name : String) : Decidable (Element.Tied es name) :=
  decidable_of_iff (Sample.tiesToSchema (es.map Element.namespaces) name = true) Sample.tiesToSchema_iff

namespace Sample

variable {limits : Limits} {around : List Namespace.Declarations} {tag : Tag} {c : Collected}
  {ss : List Setting} {a : RawAttribute} {as : List RawAttribute} {name value : String}
  {s : List Char} {opened : List (List Char)} {events : List Event} {root : Element}

/-! ## Settings -/

/-- The setting that is meant by a name and a value. -/
def Setting.ofName (name value : String) : Setting :=
  if name = "xmlns" then .unprefixed value
  else
    match Collected.declaredPrefix? name with
    | some pre => .prefixed pre value
    | none => .plain name value

/-- What an attribute of a tag says, with the references in its value resolved. -/
def RawAttribute.Says (a : RawAttribute) (s : Setting) : Prop :=
  ∃ value, Reference.Decodes a.raw value ∧ s = .ofName a.name (String.ofList value)

namespace Setting

/-- The name for declarations alone declares the namespace of names without prefix. -/
lemma ofName_xmlns (uri : String) : ofName "xmlns" uri = .unprefixed uri :=
  rfl

/-- The name for declarations with a prefix declares it. -/
lemma ofName_prefixed (pre uri : String) : ofName ("xmlns:" ++ pre) uri = .prefixed pre uri := by
  rw [ofName, if_neg (Collected.prefixed_ne pre), Collected.declaredPrefix?_prefixed]

/-- Any other name is that of an attribute. -/
lemma ofName_plain (other : name ≠ "xmlns") (undeclared : Collected.declaredPrefix? name = none)
    (value : String) : ofName name value = .plain name value := by
  rw [ofName, if_neg other, undeclared]

/-- A setting has the name for which it was made. -/
lemma name_ofName (n value : String) : (ofName n value).name = n := by
  by_cases same : n = "xmlns"
  · subst same
    rfl
  · cases declared : Collected.declaredPrefix? n with
    | none =>
      rw [ofName_plain same declared]
      rfl
    | some pre =>
      obtain rfl := Collected.eq_of_declaredPrefix? declared
      rw [ofName_prefixed]
      rfl

end Setting

/-- An attribute says a setting of its own name. -/
lemma RawAttribute.Says.name_eq {s : Setting} (h : a.Says s) : s.name = a.name := by
  obtain ⟨value, -, rfl⟩ := h
  exact Setting.name_ofName _ _

/-- Attributes say settings of their own names. -/
lemma RawAttribute.map_name_of_says (h : List.Forall₂ RawAttribute.Says as ss) :
    ss.map Setting.name = as.map RawAttribute.name := by
  induction h with
  | nil => rfl
  | cons told _ ih => rw [List.map_cons, List.map_cons, told.name_eq, ih]

namespace Collected

/-- What is collected with one more attribute is what its setting says. -/
lemma eq_of_add (new : name ∉ ss.map Setting.name) (h : (ofSettings ss).add name value = .ok c) :
    c = ofSettings (ss ++ [.ofName name value]) := by
  unfold add at h
  split at h
  next same =>
    subst same
    cases h
    rw [Setting.ofName_xmlns, ofSettings_unprefixed new]
  next other =>
    split at h
    next pre declared =>
      obtain rfl := eq_of_declaredPrefix? declared
      cases h
      rw [Setting.ofName_prefixed, ofSettings_prefixed new]
    next undeclared =>
      split at h
      next =>
        cases h
        rw [Setting.ofName_plain other undeclared, ofSettings_plain]
      next => cases h

/-- What is collected is what the attributes say, if no two have one name. -/
lemma exists_settings (distinct : (as.map RawAttribute.name).Nodup)
    (h : as.foldlM addRaw {} = .ok c) :
    ∃ ss, List.Forall₂ RawAttribute.Says as ss ∧ c = ofSettings ss := by
  -- From the last attribute on: it is new to those before it, so that it is put to what they say.
  induction as using List.reverseRecOn generalizing c with
  | nil =>
    cases h
    exact ⟨[], .nil, rfl⟩
  | append_singleton as a ih =>
    rw [List.map_append, List.nodup_append] at distinct
    obtain ⟨c', before, last⟩ := Steps.foldlM_append_eq_ok_iff.mp h
    obtain ⟨ss, told, rfl⟩ := ih distinct.1 before
    rw [List.foldlM_cons] at last
    obtain ⟨c'', added, rest⟩ := exists_ok_of_bind last
    cases rest
    unfold addRaw at added
    split at added
    next value decoded =>
      have new : a.name ∉ ss.map Setting.name := fun old =>
        distinct.2.2 _ (RawAttribute.map_name_of_says told ▸ old) _ (by simp) rfl
      refine ⟨ss ++ [.ofName a.name (String.ofList value)], ?_, eq_of_add new added⟩
      exact List.rel_append told (.cons ⟨value, Reference.decode_eq_ok_iff.mp decoded, rfl⟩ .nil)
    next => cases added

/-- Attributes with distinct names are all entered, in order. -/
lemma element_ofSettings (distinct : (ss.map Setting.name).Nodup)
    (around : List Namespace.Declarations) (name : String) :
    (ofSettings ss).element around name =
      { name
        attributes := ⟨(ss.filterMap Setting.plain?).filter fun a =>
          !tiesToSchema ((ofSettings ss).namespaces :: around) a.1⟩
        namespaces := (ofSettings ss).namespaces } := by
  have nodup : (((ss.filterMap Setting.plain?).filter fun a =>
      !tiesToSchema ((ofSettings ss).namespaces :: around) a.1).map Prod.fst).Nodup :=
    ((List.filter_sublist.map Prod.fst).trans (Setting.sublist_names ss)).nodup distinct
  have order : (ofSettings ss).plain.reverse = ss.filterMap Setting.plain? := List.reverse_reverse _
  rw [element, order, foldl_withAttribute nodup _ rfl]

end Collected

/-! ## Tags of documents -/

/-- What the element at a place keeps of its tag. -/
structure Opening.Settles (places : List Place) (o : Opening) (p : Place) : Prop where
  /-- It is below the elements of the tags that are open there. -/
  above : p.1.map some = o.around.map fun i => places[i]?.map Prod.snd
  name : p.2.name = o.tag.name
  /-- The tag has a text, and whatever its text is, the attributes are those that it lists. -/
  written : ∃ content, o.tag = .ofContent content
  listed : ∀ content, o.tag = .ofContent content →
    Lists (content.drop (Tag.nameOf content).length) o.tag.attributes
  distinct : (o.tag.attributes.map RawAttribute.name).Nodup
  /-- The declarations are those of the tag, and the attributes are the others but for ties. -/
  settings : ∃ ss, List.Forall₂ RawAttribute.Says o.tag.attributes ss ∧
    p.2.namespaces = ⟨⟨ss.filterMap Setting.prefixed?⟩, ss.findSome? Setting.unprefixed?⟩ ∧
    p.2.attributes.entries =
      (ss.filterMap Setting.plain?).filter fun a => ¬Element.Tied (p.2 :: p.1) a.1

/-- A tag that a reader comes over has a text. -/
lemma exists_content_of_marks {opened' : List (List Char)} {rest : List Char} {event : Event}
    (marks : Event.Marks opened s event opened' rest) (tagged : event.tag? = some tag) :
    ∃ content, tag = .ofContent content := by
  cases marks with
  | bang _ _ said =>
    obtain ⟨-, rfl, -⟩ | ⟨-, rfl, -⟩ | ⟨-, rfl, -⟩ := Event.cases_of_ofBangText said <;> cases tagged
  | stop => cases tagged
  | instruction => cases tagged
  | @empty _ _ content => exact ⟨content, (Option.some.inj tagged).symm⟩
  | @start _ _ content => exact ⟨content, (Option.some.inj tagged).symm⟩

/-- Every tag that is told is made of its content. -/
lemma Told.exists_content (told : Told opened s events) :
    ∀ tag ∈ events.filterMap Event.tag?, ∃ content, tag = .ofContent content := by
  obtain ⟨opened', rest, pieces, -⟩ := told
  intro tag among
  obtain ⟨event, mem, tagged⟩ := List.mem_filterMap.mp among
  clear among
  induction pieces with
  | done => cases mem
  | markup marks _ ih =>
    cases mem with
    | head => exact exists_content_of_marks marks tagged
    | tail _ later => exact ih later
  | data _ _ _ _ ih =>
    cases mem with
    | head => cases tagged
    | tail _ later => exact ih later

/-- A tag without a fault lists its attributes, which have distinct names. -/
lemma lists_of_ofContent {content : List Char} (h : tag = .ofContent content) (readable : tag.fault = none) :
    Lists (content.drop (Tag.nameOf content).length) tag.attributes ∧
      (tag.attributes.map RawAttribute.name).Nodup := by
  subst h
  exact Tag.readAttributes_eq_iff.mp (Prod.ext rfl readable)

/-- A place that a tag yields keeps the settings of the tag. -/
lemma Opening.Yields.settles {places : List Place} {o : Opening} {p : Place}
    (h : o.Yields limits places p) (written : ∃ content, o.tag = .ofContent content) :
    o.Settles places p := by
  obtain ⟨_, made, filled⟩ := h.here
  obtain ⟨c, opens, rfl⟩ := openTag_eq_ok_iff.mp made
  have listed (content : List Char) (same : o.tag = .ofContent content) :=
    lists_of_ofContent same opens.readable
  obtain ⟨content, same⟩ := written
  have distinct := (listed content same).2
  obtain ⟨ss, told, rfl⟩ := Collected.exists_settings distinct opens.collected
  have names : (ss.map Setting.name).Nodup := RawAttribute.map_name_of_says told ▸ distinct
  rw [Collected.element_ofSettings names] at filled
  have namespaces : p.2.namespaces = (Collected.ofSettings ss).namespaces := by rw [filled]
  have attributes : p.2.attributes.entries = (ss.filterMap Setting.plain?).filter fun a =>
      !tiesToSchema ((Collected.ofSettings ss).namespaces :: p.1.map Element.namespaces) a.1 := by
    rw [filled]
  refine ⟨h.above, by rw [filled], ⟨content, same⟩, fun content same => (listed content same).1, distinct,
    ss, told, namespaces, ?_⟩
  rw [attributes, ← namespaces]
  refine List.filter_congr fun a _ => ?_
  rw [← List.map_cons (f := Element.namespaces), Bool.eq_iff_iff, decide_eq_true_eq,
    ← tiesToSchema_iff, Bool.not_eq_true', Bool.not_eq_true]

/-- The elements of a document declare what their tags declare, and have the other attributes of their
tags in order, but for those whose prefix stands for the instance namespace by the nearest declaration
around them. -/
theorem parse_keeps_settings {xml : String} (h : parse limits xml = .ok root) :
    ∃ events, Told [] (withoutMark xml.toList) events ∧
      List.Forall₂ (Opening.Settles root.places) (openings 0 [] events) root.places := by
  obtain ⟨events, told, led⟩ := parse_eq_ok_iff.mp h
  refine ⟨events, told, ?_⟩
  have written : ∀ o ∈ openings 0 [] events, ∃ content, o.tag = .ofContent content := by
    intro o mem
    apply told.exists_content
    rw [← map_tag_openings 0 []]
    exact List.mem_map_of_mem mem
  have both := (List.forall₂_and_left _ _).mpr ⟨written, (keeps_of_foldlM led).places⟩
  exact both.imp fun o p h => h.2.settles h.1

/-- A prefix that is bound to the instance namespace outside, undeclared in one child and not in the
other; and prefixes that are declared nowhere. -/
theorem parse_keeps_settings_shadowed :
    let xml := "<a i:x=\"1\" xml:lang=\"en\" xmlns:i=\"http://www.w3.org/2001/XMLSchema-instance\">" ++
      "<b i:y=\"2\" k=\"&lt;\" xmlns:i=\"\"/><c i:z=\"3\" q:w=\"4\"/></a>"
    ∃ root, parse {} xml = .ok root ∧
      root.places.map (fun p => p.2.attributes.entries) =
        [[("xml:lang", "en")], [("i:y", "2"), ("k", "<")], [("q:w", "4")]] ∧
      ∃ events, Told [] (withoutMark xml.toList) events ∧
        List.Forall₂ (Opening.Settles root.places) (openings 0 [] events) root.places := by
  intro xml
  have kept : (parse {} xml).toOption.map (fun root => root.places.map fun p => p.2.attributes.entries) =
      some [[("xml:lang", "en")], [("i:y", "2"), ("k", "<")], [("q:w", "4")]] := by
    decide +kernel
  cases made : parse {} xml with
  | error e =>
    rw [made] at kept
    cases kept
  | ok root =>
    rw [made] at kept
    exact ⟨root, rfl, Option.some.inj kept, parse_keeps_settings made⟩

end Sample

end XsdInfer
