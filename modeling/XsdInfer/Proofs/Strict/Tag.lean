import XsdInfer.Layout
import XsdInfer.Name.Basic
import XsdInfer.Proofs.Name.Characters
import XsdInfer.Proofs.Sample.Opening
import XsdInfer.Proofs.Strict.Scanning
import XsdInfer.Proofs.Strict.Value
import XsdInfer.Strict.Node

/-!
# Written tags read strictly

A written tag is proper (`IsTag`), if its name is qualified by a prefix that is bound, its attributes
have different names, and its values hold what a document may hold. It then means one element
(`tagNode`): the attributes are added one by one to a pending tag (`PendingTag.Says.add`), which in
the end makes that element (`PendingTag.Says.node`).
-/

namespace XsdInfer.Strict

open Sample.Collected (declaredPrefix?)

/-- What an attribute declares. -/
def declares? (a : String × String) : Option (Option String × String) :=
  (declaredPrefix? a.1).map fun pre => (some pre, normalText a.2)

/-- What an attribute says, if it declares nothing. -/
def plain? (a : String × String) : Option (String × String) :=
  match declaredPrefix? a.1 with
  | some _ => none
  | none => some (a.1, normalText a.2)

/-- An attribute that declares a prefix is read as a declaration. -/
lemma declares?_eq_some {k pre : String} (h : declaredPrefix? k = some pre) (v : String) :
    declares? (k, v) = some (some pre, normalText v) := by
  rw [declares?, h]
  rfl

/-- An attribute that declares no prefix is not read as a declaration. -/
lemma declares?_eq_none {k : String} (h : declaredPrefix? k = none) (v : String) :
    declares? (k, v) = none := by
  rw [declares?, h]
  rfl

/-- An attribute that declares no prefix is read as a plain one. -/
lemma plain?_eq_some {k : String} (h : declaredPrefix? k = none) (v : String) :
    plain? (k, v) = some (k, normalText v) := by
  rw [plain?, h]

/-- An attribute that declares a prefix is not read as a plain one. -/
lemma plain?_eq_none {k pre : String} (h : declaredPrefix? k = some pre) (v : String) :
    plain? (k, v) = none := by
  rw [plain?, h]

/-- The declarations in force behind a tag. -/
def scopesIn (around : Scopes) (attributes : List (String × String)) : Scopes :=
  attributes.filterMap declares? ++
    around.filter fun d => ((attributes.filterMap declares?).lookup d.1).isNone

/-- The element that a tag means, without content. -/
def tagNode (around : Scopes) (name : String) (attributes : List (String × String)) : Node where
  localName := Name.localPart name
  uri := (scopesIn around attributes).lookup (Name.qualifier? name)
  attributes := (attributes.filterMap plain?).map fun a => ⟨a.1, none, a.2⟩
  scopes := scopesIn around attributes

/-- An attribute of a tag that declares nothing is looked up by its name. -/
lemma attribute?_tagNode {k : String} (plain : declaredPrefix? k = none) (around : Scopes)
    (name : String) (attributes : List (String × String)) :
    (tagNode around name attributes).attribute? k = (attributes.lookup k).map normalText := by
  show (List.find? _ ((attributes.filterMap plain?).map _)).map _ = _
  induction attributes with
  | nil => rfl
  | cons a attributes ih =>
    cases found : declaredPrefix? a.1 with
    | some pre =>
      have other : k ≠ a.1 := by
        rintro rfl
        rw [found] at plain
        cases plain
      rw [List.filterMap_cons_none (plain?_eq_none found a.2), ih, List.lookup_cons, beq_false_of_ne other]
    | none =>
      rw [List.filterMap_cons_some (plain?_eq_some found a.2), List.map_cons, List.find?_cons, List.lookup_cons]
      by_cases same : k = a.1
      · simp [same]
      · have other : (a.1 == k) = false := beq_false_of_ne (Ne.symm same)
        simp only [other, beq_false_of_ne same, Option.isNone_none, Bool.and_false]
        exact ih

/-- Whether a tag may have this name: two words with a colon between them. -/
def isTagName (name : String) : Bool :=
  match Name.split name with
  | (some q, w) => isWord q.toList && isWord w.toList && q != declarer
  | (none, _) => false

/-- Whether an attribute may have this name: it is a word, or it declares one. -/
def isKey (name : String) : Bool :=
  match declaredPrefix? name with
  | some pre => isWord pre.toList && pre != "xml"
  | none => isWord name.toList && name != declarer

/-- A tag that can be read strictly inside some declarations. -/
structure IsTag (around : Scopes) (name : String) (attributes : List (String × String)) : Prop where
  named : isTagName name = true
  bound : ((scopesIn around attributes).lookup (Name.qualifier? name)).isSome = true
  keys : ∀ a ∈ attributes, isKey a.1 = true
  nodup : (attributes.map Prod.fst).Nodup
  held : ∀ a ∈ attributes, ∀ c ∈ a.2.toList, isXmlChar c = true
  free : ∀ d ∈ attributes.filterMap declares?, d.2 ≠ Namespace.xml ∧ d.2 ≠ Namespace.xmlns

/-- The name of a tag as it is read. -/
def tagName (name : String) : QName :=
  ⟨(Name.qualifier? name).getD "", Name.localPart name⟩

/-- The name of an attribute as it is read. -/
def keyName (name : String) : QName :=
  match declaredPrefix? name with
  | some pre => ⟨declarer, pre⟩
  | none => ⟨"", name⟩

/-- The name of a tag is a prefix and a word with a colon between. -/
lemma isTagName_cases {name : String} (h : isTagName name = true) :
    ∃ q w, isWord q = true ∧ isWord w = true ∧ name.toList = q ++ ':' :: w ∧
      Name.qualifier? name = some (String.ofList q) ∧
      tagName name = ⟨String.ofList q, String.ofList w⟩ ∧ String.ofList q ≠ declarer := by
  unfold isTagName at h
  split at h
  next q w eq =>
    simp only [Bool.and_eq_true, bne_iff_ne] at h
    have qualifier : Name.qualifier? name = some q := by rw [Name.qualifier?, eq]
    have rest : Name.localPart name = w := by rw [Name.localPart, eq]
    refine ⟨q.toList, w.toList, h.1.1, h.1.2, ?_, ?_, ?_, ?_⟩
    · unfold Name.split at eq
      split at eq
      next parts cut =>
        cases eq
        rw [(Text.eq_of_cutAt cut).1, String.toList_ofList, String.toList_ofList]
      next => cases eq
    · rw [qualifier, String.ofList_toList]
    · rw [tagName, qualifier, rest, String.ofList_toList, String.ofList_toList]
      rfl
    · rw [String.ofList_toList]
      exact h.2
  next => cases h

/-- Characters of a document are so when escaped. -/
lemma isXmlChar_escape {s : List Char} (h : ∀ c ∈ s, isXmlChar c = true) :
    ∀ c ∈ Text.escape s, isXmlChar c = true := by
  intro c mem
  obtain ⟨a, at_a, inside⟩ := List.mem_flatMap.mp mem
  obtain ⟨same, _⟩ | ⟨name, ref, _, known⟩ := Text.escapeChar_cases a
  · rw [same] at inside
    obtain rfl := List.mem_singleton.mp inside
    exact h c at_a
  · have all : ∀ e ∈ Text.predefined, ∀ c ∈ '&' :: e.1.toList ++ [';'], isXmlChar c = true := by
      decide
    rw [ref] at inside
    exact all _ (Table.mem_of_lookup known) c (by rwa [String.toList_ofList])

/-! ## Scanning -/

namespace Scan

variable {rest : List Char}

/-- The start of a tag is taken and given with its name. -/
lemma takes_tagStart {name : String} (h : isTagName name = true)
    (stop : ∀ c ∈ rest.head?, isNameChar c = false) :
    Takes tagStart ('<' :: (name.toList ++ rest)) (fun token => ∃ place, token = .tag (tagName name) place)
      rest := by
  obtain ⟨q, w, qualifier, word, eq, _, read, _⟩ := isTagName_cases h
  rw [eq, read]
  refine takes_here.bind fun place _ => (takes_char '<').bind fun _ _ => ?_
  refine (takes_prefixed qualifier word stop).bind fun n same => takes_pure ?_
  exact ⟨place, by rw [same]⟩

/-- A closing tag is taken and given with its name. -/
lemma takes_closeTag {name : String} (h : isTagName name = true) :
    Takes closeTag ("</".toList ++ name.toList ++ '>' :: rest)
      (fun token => ∃ place, token = .close (tagName name) place) rest := by
  obtain ⟨q, w, qualifier, word, eq, _, read, _⟩ := isTagName_cases h
  rw [eq, read, List.append_assoc]
  refine takes_here.bind fun place _ => (takes_literal "</").bind fun _ _ => ?_
  refine (takes_prefixed qualifier word (fun c mem => ?_)).bind fun n same => ?_
  · cases mem
    decide
  refine (takes_no_spaces fun c mem => ?_).bind fun _ _ => (takes_char '>').bind fun _ _ =>
    takes_pure ⟨place, by rw [same]⟩
  cases mem
  decide

/-- The end of a start tag is taken, and content comes next. -/
lemma takes_opened (depth : Nat) :
    Takes (tagPart depth) ('>' :: rest) (· = (.opened, .content (depth + 1))) rest := by
  refine takes_ahead.bind fun _ _ => (takes_no_spaces fun c mem => ?_).bind fun _ _ =>
    takes_peek.bind fun c same => ?_
  · cases mem
    decide
  subst same
  exact (takes_char '>').bind fun _ _ => takes_pure rfl

/-- The end of an empty tag is taken, and what stands behind the element comes next. -/
lemma takes_empty (depth : Nat) :
    Takes (tagPart depth) ("/>".toList ++ rest) (· = (.empty, .behindElement depth)) rest := by
  have text : "/>".toList ++ rest = '/' :: '>' :: rest := rfl
  rw [text]
  refine takes_ahead.bind fun _ _ => (takes_no_spaces fun c mem => ?_).bind fun _ _ =>
    takes_peek.bind fun c same => ?_
  · cases mem
    decide
  subst same
  exact (takes_char '/').bind fun _ _ => (takes_char '>').bind fun _ _ => takes_pure rfl

/-- The name of an attribute is taken and given in its parts. -/
lemma takes_key {name : String} (h : isKey name = true) :
    Takes qualified (name.toList ++ '=' :: rest) (· = keyName name) ('=' :: rest) := by
  have stop : ∀ c ∈ ('=' :: rest).head?, isNameChar c = false := by
    intro c mem
    cases mem
    decide
  unfold isKey at h
  unfold keyName
  split at h
  next pre declares =>
    rw [Bool.and_eq_true] at h
    have eq : name.toList = "xmlns".toList ++ ':' :: pre.toList := by
      rw [Sample.Collected.eq_of_declaredPrefix? declares, String.toList_append]
      rfl
    have taken := takes_prefixed (show isWord "xmlns".toList = true by decide) h.1 stop
    rwa [String.ofList_toList, String.ofList_toList, ← eq] at taken
  next =>
    rw [Bool.and_eq_true] at h
    have := takes_word h.1 stop
    rwa [String.ofList_toList] at this

/-- The name of an attribute starts as a name may. -/
lemma exists_cons_of_isKey {name : String} (h : isKey name = true) :
    ∃ c t, name.toList = c :: t ∧ isNameStart c = true := by
  unfold isKey at h
  split at h
  next pre declares =>
    rw [Sample.Collected.eq_of_declaredPrefix? declares, String.toList_append]
    exact ⟨'x', _, rfl, by decide⟩
  next =>
    rw [Bool.and_eq_true] at h
    exact isNameStart_of_isWord h.1

/-- What starts a name is neither space nor an end of a tag. -/
lemma visible_of_isNameStart {c : Char} (h : isNameStart c = true) :
    Text.isSpace c = false ∧ c ≠ '/' ∧ c ≠ '>' := by
  have apart : ∀ d ∈ ['/', '>', ' ', '\t', '\n', '\r'], isNameStart d = false := by decide
  have other : c ∉ ['/', '>', ' ', '\t', '\n', '\r'] := fun mem => by simp [apart c mem] at h
  refine ⟨?_, fun same => other (by simp [same]), fun same => other (by simp [same])⟩
  rw [Bool.eq_false_iff]
  exact fun space => other (.tail _ (.tail _ (Sample.isSpace_iff_mem.mp space)))

/-- An assignment is taken and given as an attribute with its escaped value. -/
lemma takes_assignment {a : String × String} (key : isKey a.1 = true)
    (held : ∀ c ∈ a.2.toList, isXmlChar c = true) (depth : Nat) :
    Takes (tagPart depth) (Layout.assignment a ++ rest)
      (fun r => r.2 = .tag depth ∧ ∃ place place',
        r.1 = .attr (keyName a.1) ⟨Text.escape a.2.toList, place⟩ place') rest := by
  obtain ⟨c, t, eq, start⟩ := exists_cons_of_isKey key
  obtain ⟨visible, slash, bracket⟩ := visible_of_isNameStart start
  have plain (d : Char) (special : d = '"' ∨ d = '<') : d ∉ Text.escape a.2.toList := by
    refine Text.not_mem_escape ?_ _
    obtain rfl | rfl := special <;> simp
  have text : Layout.assignment a ++ rest =
      [' '] ++ (a.1.toList ++ '=' :: '"' :: (Text.escape a.2.toList ++ '"' :: rest)) := by
    simp [Layout.assignment]
  have assigned : Takes attr
      (a.1.toList ++ '=' :: '"' :: (Text.escape a.2.toList ++ '"' :: rest)) _ rest :=
    takes_attr (takes_key key) (isXmlChar_escape held) ⟨plain '"' (.inl rfl), plain '<' (.inr rfl)⟩
  rw [text]
  -- Behind the space, the reader looks at the next character, which is none of those that end a tag.
  apply takes_ahead.bind
  intro s same
  subst same
  refine Takes.bind (takes_spaces (by decide) fun d mem => ?_) fun _ _ => ?_
  · rw [eq] at mem
    cases mem
    exact visible
  rw [eq] at assigned ⊢
  apply takes_peek.bind
  intro d same
  subst same
  split
  next => exact absurd rfl slash
  next => exact absurd rfl bracket
  next =>
    refine (takes_refuse rfl _).bind fun _ _ => assigned.bind fun token holds => takes_pure ?_
    exact ⟨rfl, holds⟩

end Scan

/-! ## Pending tags -/

namespace PendingTag

/-- A pending tag has read the name and the attributes of a written tag. -/
structure Says (t : PendingTag) (n : String) (as : List (String × String)) : Prop where
  name : t.name = tagName n
  attributes : t.attributes.reverse.map (fun a => (a.name, a.value)) =
    (as.filterMap plain?).map fun a => (⟨"", a.1⟩, a.2)
  declared : t.declared = as.filterMap declares?

variable {t : PendingTag} {n : String} {as : List (String × String)}

/-- Different names declare different prefixes. -/
lemma Says.lookup_declared (h : t.Says n as) {k pre : String} (found : declaredPrefix? k = some pre)
    (new : k ∉ as.map Prod.fst) : t.declared.lookup (some pre) = none := by
  rw [h.declared, List.lookup_eq_none_iff]
  intro d mem
  obtain ⟨b, at_b, earlier⟩ := List.mem_filterMap.mp mem
  obtain ⟨pre', found', rfl⟩ := Option.map_eq_some_iff.mp earlier
  rw [bne_iff_ne]
  intro same
  refine new (List.mem_map.mpr ⟨b, at_b, ?_⟩)
  rw [Sample.Collected.eq_of_declaredPrefix? found', Option.some.inj same.symm,
    Sample.Collected.eq_of_declaredPrefix? found]

/-- One more attribute is added behind those before it, if none of them has its name. -/
lemma Says.add (h : t.Says n as) {a : String × String} (key : isKey a.1 = true)
    (new : a.1 ∉ as.map Prod.fst)
    (free : ∀ d ∈ declares? a, d.2 ≠ Namespace.xml ∧ d.2 ≠ Namespace.xmlns) (place : Place) :
    ∃ t', t.add (keyName a.1) (normalText a.2) place = .ok t' ∧ t'.Says n (as ++ [a]) := by
  unfold isKey at key
  unfold keyName
  cases found : declaredPrefix? a.1 with
  | some pre =>
    simp only [found, Bool.and_eq_true, bne_iff_ne] at key
    have declares := declares?_eq_some found a.2
    have plain := plain?_eq_none found a.2
    obtain ⟨xml, xmlns⟩ := free _ declares
    have fresh := h.lookup_declared found new
    refine ⟨{ t with declared := t.declared ++ [(some pre, normalText a.2)] }, ?_, ?_⟩
    · simp only [PendingTag.add, if_true, declare, checkXmlns, checkXml, xml, xmlns, key.2, fresh,
        if_false]
      rfl
    · exact ⟨h.name, by simpa [plain] using h.attributes, by simp [h.declared, declares]⟩
  | none =>
    simp only [found, Bool.and_eq_true, bne_iff_ne] at key
    have declares := declares?_eq_none found a.2
    have plain := plain?_eq_some found a.2
    have bare : "" ≠ declarer := by decide
    refine ⟨{ t with attributes := ⟨⟨"", a.1⟩, normalText a.2, place⟩ :: t.attributes }, ?_, ?_⟩
    · simp only [PendingTag.add, bare, key.2, if_false]
    · exact ⟨h.name, by simp [h.attributes, plain], by simp [h.declared, declares]⟩

/-- The plain attributes are in the order of all attributes. -/
lemma sublist_plain (as : List (String × String)) :
    ((as.filterMap plain?).map Prod.fst).Sublist (as.map Prod.fst) := by
  induction as with
  | nil => exact .slnil
  | cons a as ih =>
    cases found : declaredPrefix? a.1 with
    | some pre =>
      rw [List.filterMap_cons_none (plain?_eq_none found a.2)]
      exact ih.cons a.1
    | none =>
      rw [List.filterMap_cons_some (plain?_eq_some found a.2)]
      exact ih.cons_cons a.1

/-- Attributes without qualifiers are resolved one by one, if their names are different. -/
lemma foldlM_resolveAttribute (scopes : Scopes) {as : List PendingAttribute}
    (bare : ∀ a ∈ as, a.name.qualifier = "") (nodup : (as.map (·.name.localPart)).Nodup) :
    as.foldlM (resolveAttribute scopes) [] =
      .ok (as.map fun a => ⟨a.name.localPart, none, a.value⟩) := by
  induction as using List.reverseRecOn with
  | nil => rfl
  | append_singleton as a ih =>
    rw [List.map_append, List.nodup_append] at nodup
    have before := ih (fun a mem => bare a (List.mem_append_left _ mem)) nodup.1
    have uri : attributeUri scopes a = .ok none := by
      have none := bare a (by simp)
      simp [attributeUri, none]
    have new : ((as.map fun a => (⟨a.name.localPart, none, a.value⟩ : Attribute)).any fun b =>
        b.uri == none && b.localName == a.name.localPart) = false := by
      rw [List.any_map, List.any_eq_false]
      intro b mem same
      have same : b.name.localPart = a.name.localPart := by simpa using same
      exact nodup.2.2 _ (List.mem_map_of_mem mem) _ (by simp) same
    rw [List.foldlM_append, before]
    show [a].foldlM (resolveAttribute scopes) _ = _
    simp only [List.foldlM_cons, List.foldlM_nil, resolveAttribute, uri, bind, Except.bind, new]
    rw [List.map_append]
    rfl

/-- The attributes of a tag are resolved to the plain ones that it says. -/
lemma Says.resolved (h : t.Says n as) (nodup : (as.map Prod.fst).Nodup) (scopes : Scopes) :
    t.attributes.reverse.foldlM (resolveAttribute scopes) [] =
      .ok ((as.filterMap plain?).map fun a => ⟨a.1, none, a.2⟩) := by
  have bare : ∀ a ∈ t.attributes.reverse, a.name.qualifier = "" := by
    intro a mem
    have entry : (a.name, a.value) ∈ t.attributes.reverse.map fun a => (a.name, a.value) :=
      List.mem_map_of_mem mem
    rw [h.attributes] at entry
    obtain ⟨b, _, same⟩ := List.mem_map.mp entry
    rw [← (Prod.mk.inj same).1]
  have names : t.attributes.reverse.map (·.name.localPart) = (as.filterMap plain?).map Prod.fst := by
    have := congrArg (List.map fun x : QName × String => x.1.localPart) h.attributes
    simpa only [List.map_map, Function.comp_def] using this
  have values : (t.attributes.reverse.map fun a => (⟨a.name.localPart, none, a.value⟩ : Attribute)) =
      (as.filterMap plain?).map fun a => ⟨a.1, none, a.2⟩ := by
    have := congrArg (List.map fun x : QName × String =>
      (⟨x.1.localPart, none, x.2⟩ : Attribute)) h.attributes
    simpa only [List.map_map, Function.comp_def] using this
  rw [foldlM_resolveAttribute scopes bare (names ▸ (sublist_plain as).nodup nodup), values]

/-- The name of a tag is resolved by its prefix. -/
lemma Says.elementUri (h : t.Says n as) (named : isTagName n = true) {scopes : Scopes}
    (bound : (scopes.lookup (Name.qualifier? n)).isSome = true) :
    PendingTag.elementUri scopes t = .ok (scopes.lookup (Name.qualifier? n)) := by
  obtain ⟨q, w, word, _, _, qualifier, name, _⟩ := isTagName_cases named
  obtain ⟨a, s, rfl, _⟩ := isNameStart_of_isWord word
  have some : String.ofList (a :: s) ≠ "" := by simp
  obtain ⟨uri, bound⟩ := Option.isSome_iff_exists.mp bound
  rw [bound]
  rw [qualifier] at bound
  simp only [PendingTag.elementUri, h.name, name, some, if_false, resolvePrefix, bound]
  rfl

/-- A pending tag that has read a proper tag makes its element. -/
lemma Says.node (h : t.Says n as) {around : Scopes} (tag : IsTag around n as) :
    t.node around = .ok (tagNode around n as) := by
  have scopes : t.scopes around = scopesIn around as := by rw [PendingTag.scopes, h.declared, scopesIn]
  simp only [PendingTag.node, scopes, h.resolved tag.nodup, h.elementUri tag.named tag.bound, h.name,
    bind, Except.bind]
  rfl

end PendingTag

end XsdInfer.Strict
