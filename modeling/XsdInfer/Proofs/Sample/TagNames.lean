import XsdInfer.Proofs.Name.Standard
import XsdInfer.Proofs.Sample.Accepted
import XsdInfer.Proofs.Sample.Fronts
import XsdInfer.Proofs.Sample.Pieces
import XsdInfer.Proofs.Sample.Tags

/-!
# Names in tags

A sample is read only if the names in its tags are accepted ones, those of declarations of prefixes apart
(`named_of_told`), and is refused for a name only if the name is not accepted
(`isQualified_of_document_error`). Which names these are, measured by the standard, is known from the
characters of the names. Main statement: all of this together (`standard_names`).
-/

namespace XsdInfer.Sample

open Steps (error_of_bind exists_error_of_foldlM exists_error_of_mapError foldlM_cons_eq_ok_iff)
open Name (isQualified isStart isFollow strayStart strayFollow HasAt IsQName)

variable {limits : Limits} {events : List Event} {event : Event} {d d' : Draft} {tag : Tag} {n : String}

/-! ## Tags of accepted samples -/

/-- A tag whose names are accepted. Names that declare a prefix are not looked at. -/
structure Tag.WellNamed (tag : Tag) : Prop where
  name : isQualified tag.name = true
  attributes : ∀ a ∈ tag.attributes,
    Collected.declaredPrefix? a.name = none → isQualified a.name = true

/-- An attribute that is collected has a qualified name, unless it declares a prefix. -/
lemma Collected.isQualified_of_add {c c' : Collected} {value : String} (h : c.add n value = .ok c')
    (plain : declaredPrefix? n = none) : isQualified n = true := by
  unfold add at h
  split at h
  next declared =>
    rw [declared]
    decide +kernel
  next =>
    simp only [plain] at h
    split at h
    next qualified => exact qualified
    next => cases h

/-- Attributes that are collected have qualified names, unless they declare prefixes. -/
lemma Collected.wellNamed_of_foldlM {as : List RawAttribute} {c c' : Collected}
    (h : as.foldlM addRaw c = .ok c') :
    ∀ a ∈ as, declaredPrefix? a.name = none → isQualified a.name = true := by
  induction as generalizing c with
  | nil => exact nofun
  | cons a as ih =>
    obtain ⟨c₁, first, rest⟩ := foldlM_cons_eq_ok_iff.mp h
    refine List.forall_mem_cons.mpr ⟨fun plain => ?_, ih rest⟩
    unfold addRaw at first
    split at first
    next => exact isQualified_of_add first plain
    next => cases first

/-- A tag that can be opened has good names. -/
lemma Opens.wellNamed {c : Collected} (opens : Opens limits tag c) : tag.WellNamed :=
  ⟨opens.named, Collected.wellNamed_of_foldlM opens.collected⟩

/-- What a sample that is read says in its tags. -/
lemma wellNamed_of_told {xml : String} {root : Element} (told : Told [] (withoutMark xml.toList) events)
    (h : parse limits xml = .ok root) (mem : event ∈ events) (tagged : event.tag? = some tag) :
    tag.WellNamed := by
  obtain ⟨events', told', made⟩ := parse_eq_ok_iff.mp h
  obtain rfl := told.unique told'
  obtain ⟨c, opens⟩ := exists_opens_of_foldlM made mem tagged
  exact opens.wellNamed

/-! ## Names that samples are refused for -/

/-- Whether a complaint about a name is founded: the name is none of the accepted ones. -/
def Failure.Founded : Failure → Prop
  | .problem (.badName n) => isQualified n = false
  | .problem (.badAttributeName n) => isQualified n = false
  | _ => True

/-- A complaint about the name of an attribute is founded. -/
lemma Collected.founded_of_add {c : Collected} {value : String} {p : Problem}
    (h : c.add n value = .error p) : (Failure.problem p).Founded := by
  unfold add at h
  split at h
  next => cases h
  next =>
    split at h
    next => cases h
    next =>
      split at h
      next => cases h
      next refused =>
        cases h
        exact Bool.eq_false_iff.mpr refused

/-- A complaint about an attribute as it is written is founded. -/
lemma Collected.founded_of_addRaw {c : Collected} {a : RawAttribute} {p : Problem}
    (h : c.addRaw a = .error p) : (Failure.problem p).Founded := by
  unfold addRaw at h
  split at h
  next => exact founded_of_add h
  next =>
    cases h
    trivial

/-- A complaint about the attributes of a tag is founded. -/
lemma Collected.founded_of_ofTag {p : Problem} (h : ofTag tag = .error p) :
    (Failure.problem p).Founded := by
  unfold ofTag at h
  obtain collected | ⟨c, -, rest⟩ := error_of_bind h
  · obtain ⟨a, -, c, stopped⟩ := exists_error_of_foldlM collected
    exact founded_of_addRaw stopped
  · split at rest
    next =>
      cases rest
      trivial
    next => cases rest

/-- A limit does not complain of names. -/
lemma founded_of_check {r : Resource} {used : Nat} {f : Failure}
    (h : (limits.check r used).mapError Failure.breach = .error f) : f.Founded := by
  obtain ⟨b, -, rfl⟩ := exists_error_of_mapError h
  trivial

/-- A tag is not opened for a limit, or for a problem, which complains of no accepted name. -/
lemma founded_of_openTag {around : List Namespace.Declarations} {f : Failure}
    (h : openTag limits around tag = .error f) : f.Founded := by
  unfold openTag at h
  obtain refused | ⟨_, -, h⟩ := error_of_bind h
  · obtain ⟨p, stopped, rfl⟩ := exists_error_of_mapError refused
    unfold checkName at stopped
    split at stopped
    next => cases stopped
    next other =>
      cases stopped
      exact Bool.eq_false_iff.mpr other
  obtain refused | ⟨c, -, h⟩ := error_of_bind h
  · obtain ⟨p, stopped, rfl⟩ := exists_error_of_mapError refused
    exact Collected.founded_of_ofTag stopped
  obtain refused | ⟨_, -, h⟩ := error_of_bind h
  · exact founded_of_check refused
  obtain refused | ⟨_, -, h⟩ := error_of_bind h
  · exact founded_of_check refused
  · cases h

namespace Draft

variable {f : Failure} {p : Problem}

/-- A complaint about the place of an element is founded. -/
lemma founded_of_attach {e : Element} (h : d.attach e = .error p) : (Failure.problem p).Founded := by
  unfold attach at h
  split at h
  next => cases h
  next =>
    split at h
    next =>
      cases h
      trivial
    next => cases h

/-- A complaint about an end tag is founded. -/
lemma founded_of_pop (h : d.pop = .error p) : (Failure.problem p).Founded := by
  unfold pop at h
  split at h
  next =>
    cases h
    trivial
  next => exact founded_of_attach h

/-- A complaint about data is founded. -/
lemma founded_of_addText {data : List Char} (h : d.addText data = .error p) :
    (Failure.problem p).Founded := by
  unfold addText at h
  split at h
  next => cases h
  next =>
    split at h
    next => cases h
    next =>
      cases h
      trivial

/-- A complaint about text with references is founded. -/
lemma founded_of_addRawText {raw : List Char} (h : d.addRawText raw = .error p) :
    (Failure.problem p).Founded := by
  unfold addRawText at h
  split at h
  next => exact founded_of_addText h
  next =>
    cases h
    trivial

/-- A complaint about a start tag is founded. -/
lemma founded_of_push (h : d.push limits tag = .error f) : f.Founded := by
  unfold push at h
  split at h
  next =>
    cases h
    trivial
  next =>
    obtain refused | ⟨e, -, h⟩ := error_of_bind h
    · exact founded_of_openTag refused
    obtain deep | ⟨_, -, h⟩ := error_of_bind h
    · exact founded_of_check deep
    · cases h

/-- A complaint about an empty tag is founded. -/
lemma founded_of_pushEmpty (h : d.pushEmpty limits tag = .error f) : f.Founded := by
  unfold pushEmpty at h
  obtain refused | ⟨e, -, h⟩ := error_of_bind h
  · exact founded_of_openTag refused
  obtain deep | ⟨_, -, h⟩ := error_of_bind h
  · exact founded_of_check deep
  · obtain ⟨p, stopped, rfl⟩ := exists_error_of_mapError h
    exact founded_of_attach stopped

/-- No event stops a draft for an accepted name. -/
lemma founded_of_step (h : d.step limits event = .error f) : f.Founded := by
  cases event with
  | start tag => exact founded_of_push h
  | empty tag => exact founded_of_pushEmpty h
  | stop =>
    obtain ⟨p, stopped, rfl⟩ := exists_error_of_mapError h
    exact founded_of_pop stopped
  | text raw =>
    obtain ⟨p, stopped, rfl⟩ := exists_error_of_mapError h
    exact founded_of_addRawText stopped
  | cdata data =>
    obtain ⟨p, stopped, rfl⟩ := exists_error_of_mapError h
    exact founded_of_addText stopped
  | aside => cases h

/-- A complaint at the end of a document is founded. -/
lemma founded_of_finish {total : Nat} {offset : Option Nat} (h : d.finish total = .error (f, offset)) :
    f.Founded := by
  unfold finish at h
  split at h
  next =>
    cases h
    trivial
  next =>
    split at h
    next => cases h
    next =>
      cases h
      trivial

end Draft

/-- A sample is not refused for a name that is accepted. -/
lemma Reading.founded_of_document {r : Reading} {total : Nat} {f : Failure} {offset : Option Nat}
    (h : r.document limits total = .error (f, offset)) : f.Founded := by
  unfold document at h
  obtain stopped | ⟨d, -, h⟩ := error_of_bind h
  · obtain ⟨e, -, d, step⟩ := exists_error_of_foldlM stopped
    obtain ⟨f', step', same⟩ := exists_error_of_mapError step
    cases same
    exact Draft.founded_of_step step'
  · split at h
    next =>
      cases h
      trivial
    next => exact Draft.founded_of_finish h

/-! ## One tag -/

/-- A tag alone is read as an element of its name. -/
lemma parse_lone {name : String} (named : isQualified name = true) :
    parse {} ("<" ++ name ++ "/>") = .ok { name } := by
  let head : Head := ⟨name, [], {}, List.nodup_nil⟩
  have written : head.Named := ⟨isTagName_of_isQualified named, fun _ mem => absurd mem List.not_mem_nil⟩
  have marks : Event.Marks [] _ (.empty head.tag) [] [] := Event.marks_empty_head written []
  have text : ("<" ++ name ++ "/>").toList = '<' :: (head.text ++ ['/'] ++ ['>']) := by
    simp [head, Head.text]
  have opened : openTag {} [] head.tag = .ok { name } :=
    openTag_eq_ok_iff.mpr ⟨{}, ⟨named, rfl, rfl, Nat.zero_le _, Nat.zero_le _⟩, rfl⟩
  have step : Draft.step {} {} (.empty head.tag) = .ok ⟨[], some { name }⟩ :=
    Draft.step_eq_ok_iff.mpr (.empty opened (by decide) .root)
  refine parse_eq_ok_iff.mpr ⟨[.empty head.tag], ?_, ?_⟩
  · rw [text, withoutMark_eq_self (by simp)]
    exact ⟨[], [], .markup marks .done, .inl rfl⟩
  · exact foldlM_cons_eq_ok_iff.mpr ⟨_, step, rfl⟩

/-- A sample of one empty tag is read just if the name in it is accepted. -/
lemma parse_lone_iff (name : String) :
    parse {} ("<" ++ name ++ "/>") = .ok { name } ↔ isQualified name = true := by
  refine ⟨fun made => ?_, parse_lone⟩
  refine (named_of_parse made ([], { name }) ?_).name
  rw [Element.places_eq, Element.placesFrom_eq]
  exact .head _

/-- What is known of names by the standard. A name is accepted just if it is one of the standard, unless it
is accepted with a character that is astray, or one of the standard with a character that is refused at its
place; neither occurs in ASCII. A sample of one tag is read just if its name is accepted; in any sample that
is read, the names in tags are accepted, but for those that declare a prefix; and no sample is refused for
an accepted name. -/
theorem standard_names (name : String) (limits : Limits) (xml : String) :
    ((isQualified name = true ↔ IsQName name.toList) ↔
      ¬ (isQualified name = true ∧
          HasAt (strayStart.contains · = true) (strayFollow.contains · = true) name.toList) ∧
        ¬ (IsQName name.toList ∧ HasAt (isStart · = false) (isFollow · = false) name.toList)) ∧
    ((∀ c ∈ name.toList, c.toNat < 0x80) → (isQualified name = true ↔ IsQName name.toList)) ∧
    (parse {} ("<" ++ name ++ "/>") = .ok { name } ↔ isQualified name = true) ∧
    (∀ root, parse limits xml = .ok root → ∀ events, Told [] (withoutMark xml.toList) events →
      ∀ event ∈ events, ∀ tag ∈ event.tag?, tag.WellNamed) ∧
    ∀ failure offset,
      (read xml.toList).document limits (Text.width xml.toList) = .error (failure, offset) →
        failure.Founded := by
  have accepted : isQualified name = true → (IsQName name.toList ↔ _) := Name.isQName_iff_of_isQualified
  have standard : IsQName name.toList → (isQualified name = true ↔ _) := Name.isQualified_iff_of_isQName
  refine ⟨?_, Name.isQualified_iff_isQName_of_ascii, parse_lone_iff name, ?_,
    fun failure offset => Reading.founded_of_document⟩
  · tauto
  · intro root made events told event mem tag tagged
    exact wellNamed_of_told told made mem tagged

/-- A letter-like sign that is accepted in a name is none of the standard's, and a combining mark of the
standard is refused in a name. -/
theorem not_forall_isQualified_iff :
    ¬ (∀ name, isQualified name = true → IsQName name.toList) ∧
      ¬ ∀ name, IsQName name.toList → isQualified name = true := by
  constructor
  · intro all
    have accepted : isQualified "\u00AA" = true := by decide +kernel
    have stray : HasAt (strayStart.contains · = true) (strayFollow.contains · = true) "\u00AA".toList :=
      ⟨['\u00AA'], .head _, .inl ⟨_, rfl, by decide⟩⟩
    have free := (Name.isQName_iff_of_isQualified accepted).mp (all _ accepted)
    exact free stray
  · intro all
    have standard : IsQName "a\u0301".toList :=
      .unprefixed ⟨⟨'a', ['\u0301'], rfl, by decide, by decide⟩, by decide⟩
    exact absurd (all _ standard) (by decide +kernel)

end XsdInfer.Sample
