import XsdInfer.Proofs.Element.Places
import XsdInfer.Proofs.Sample.Reference
import XsdInfer.Proofs.Sample.Tags

/-!
# Opening written tags

A written tag opens the element that it means, if the names in it are well formed, its attributes tie
nothing to a schema, and it keeps the limits (`openTag_head`). Declarations and attributes may be
mixed: each kind keeps its own order.
-/

namespace XsdInfer

open Element (Place)

/-- An element whose names can be written and read: its own name and those of its attributes are
qualified names, the latter do not declare a namespace, and the prefixes that it declares are simple
names. -/
structure Element.WellNamed (e : Element) : Prop where
  name : Name.isQualified e.name = true
  attributes : ∀ n ∈ e.attributes.keys,
    Name.isQualified n = true ∧ n ≠ "xmlns" ∧ Name.qualifier? n ≠ some "xmlns"
  prefixes : ∀ p ∈ e.namespaces.prefixed.keys, Name.isSimple p.toList = true

instance (e : Element) : Decidable e.WellNamed :=
  decidable_of_iff
    (Name.isQualified e.name = true ∧
      (∀ n ∈ e.attributes.keys,
        Name.isQualified n = true ∧ n ≠ "xmlns" ∧ Name.qualifier? n ≠ some "xmlns") ∧
      ∀ p ∈ e.namespaces.prefixed.keys, Name.isSimple p.toList = true)
    ⟨fun ⟨name, attributes, prefixes⟩ => ⟨name, attributes, prefixes⟩,
      fun h => ⟨h.name, h.attributes, h.prefixes⟩⟩

/-- The declarations at a place, from the nearest on. -/
def Element.scopesAt (p : Place) : List Namespace.Declarations :=
  (p.2 :: p.1).map Element.namespaces

/-- The element at a place has no attribute that ties the document to a schema. -/
def Element.Untied (p : Place) : Prop :=
  ∀ n ∈ p.2.attributes.keys, Sample.tiesToSchema (scopesAt p) n = false

/-- The element at a place keeps the limits that are checked when a sample is read. -/
structure Element.Within (limits : Limits) (p : Place) : Prop where
  depth : p.1.length + 1 ≤ limits.depth
  attributes : p.2.attributes.size ≤ limits.attributes
  namespaces : p.2.namespaces.size ≤ limits.namespaces

/-- The element at a place can be written, and be read back within some limits. -/
structure Element.Readable (limits : Limits) (p : Place) : Prop where
  named : p.2.WellNamed
  untied : Untied p
  within : Within limits p

instance (p : Place) : Decidable (Element.Untied p) :=
  inferInstanceAs (Decidable (∀ n ∈ p.2.attributes.keys,
    Sample.tiesToSchema (Element.scopesAt p) n = false))

instance (limits : Limits) (p : Place) : Decidable (Element.Within limits p) :=
  decidable_of_iff
    (p.1.length + 1 ≤ limits.depth ∧ p.2.attributes.size ≤ limits.attributes ∧
      p.2.namespaces.size ≤ limits.namespaces)
    ⟨fun ⟨depth, attributes, namespaces⟩ => ⟨depth, attributes, namespaces⟩,
      fun h => ⟨h.depth, h.attributes, h.namespaces⟩⟩

instance (limits : Limits) (p : Place) : Decidable (Element.Readable limits p) :=
  decidable_of_iff (p.2.WellNamed ∧ Element.Untied p ∧ Element.Within limits p)
    ⟨fun ⟨named, untied, within⟩ => ⟨named, untied, within⟩,
      fun h => ⟨h.named, h.untied, h.within⟩⟩

namespace Table

variable {α β : Type} [DecidableEq α]

/-- A new key comes last. -/
lemma insert_of_not_mem {entries : List (α × β)} {k : α} (h : k ∉ entries.map Prod.fst) (v : β) :
    (⟨entries⟩ : Table α β).insert k v = ⟨entries ++ [(k, v)]⟩ := by
  simp only [insert, alter, mk.injEq]
  induction entries with
  | nil => rfl
  | cons e entries ih =>
    rw [List.map_cons, List.mem_cons, not_or] at h
    rw [alterEntries, if_neg h.1, ih h.2, List.cons_append]

end Table

namespace Sample

/-- A setting whose name is well formed and of its own kind. -/
def Setting.WellNamed : Setting → Prop
  | plain name _ => Name.isQualified name = true ∧ name ≠ "xmlns" ∧
      Name.qualifier? name ≠ some "xmlns"
  | prefixed pre _ => Name.isSimple pre.toList = true
  | unprefixed _ => True

namespace Setting

/-- The name of a setting can stand in a tag. -/
lemma isTagName_name {s : Setting} (h : s.WellNamed) : IsTagName s.name := by
  cases s with
  | plain name value => exact isTagName_of_isQualified h.1
  | prefixed pre uri =>
    refine ⟨by simp [name], fun c mem => ?_⟩
    rw [name, String.toList_append, List.mem_append] at mem
    cases mem with
    | inl lead =>
      have plain : ∀ d ∈ "xmlns:".toList, d ∉ Name.delimiters := by decide
      exact plain c lead
    | inr inside =>
      exact (Name.not_mem_delimiters_of_isFollow (Name.all_isFollow_of_isSimple h c inside)).1
  | unprefixed uri =>
    have plain : IsTagName "xmlns" := ⟨by decide, by decide⟩
    exact plain

/-- The names of attributes are among all names. -/
lemma sublist_names (ss : List Setting) :
    ((ss.filterMap plain?).map Prod.fst).Sublist (ss.map name) := by
  induction ss with
  | nil => exact .slnil
  | cons s ss ih =>
    cases s with
    | plain name value => exact ih.cons_cons name
    | prefixed pre uri => exact ih.cons _
    | unprefixed uri => exact ih.cons _

end Setting

namespace Collected

/-- A name that declares a prefix has it behind a known one. -/
lemma eq_of_declaredPrefix? {name pre : String} (h : declaredPrefix? name = some pre) :
    name = "xmlns:" ++ pre := by
  obtain ⟨rest, behind, rfl⟩ := Option.map_eq_some_iff.mp h
  have eq : name.toList = "xmlns:".toList ++ rest := Text.eq_of_behind? behind
  exact String.toList_inj.mp (by simpa [String.toList_append] using eq)

/-- A name with another qualifier declares no prefix. -/
lemma declaredPrefix?_eq_none {name : String} (h : Name.qualifier? name ≠ some "xmlns") :
    declaredPrefix? name = none := by
  rw [declaredPrefix?, Option.map_eq_none_iff, Option.eq_none_iff_forall_not_mem]
  intro rest found
  have eq : name.toList = "xmlns:".toList ++ rest := Text.eq_of_behind? found
  rw [show "xmlns:".toList = "xmlns".toList ++ [':'] by decide, List.append_assoc] at eq
  have cut : Text.cutAt ':' name.toList = some ("xmlns".toList, rest) := by
    rw [eq]
    exact Text.cutAt_append (by decide) rest
  exact h (by simp [Name.qualifier?, Name.split, cut])

/-- A prefix is declared by its name behind the known one. -/
lemma declaredPrefix?_prefixed (pre : String) : declaredPrefix? ("xmlns:" ++ pre) = some pre := by
  rw [declaredPrefix?, String.toList_append, Text.behind?_append, Option.map_some,
    String.ofList_toList]

/-- A name that declares a prefix is not the one that declares none. -/
lemma prefixed_ne (pre : String) : "xmlns:" ++ pre ≠ "xmlns" := by
  intro same
  have none : declaredPrefix? "xmlns" = none := by decide
  rw [← same, declaredPrefix?_prefixed] at none
  cases none

/-- What some settings of a tag come to. -/
def ofSettings (ss : List Setting) : Collected where
  namespaces := ⟨⟨ss.filterMap Setting.prefixed?⟩, ss.findSome? Setting.unprefixed?⟩
  plain := (ss.filterMap Setting.plain?).reverse

/-- A plain setting is collected as an attribute. -/
lemma ofSettings_plain (ss : List Setting) (name value : String) :
    ofSettings (ss ++ [.plain name value]) =
      { ofSettings ss with plain := (name, value) :: (ofSettings ss).plain } := by
  simp [ofSettings, Setting.plain?, Setting.prefixed?, Setting.unprefixed?]

/-- A setting for a prefix is collected as a declaration. -/
lemma ofSettings_prefixed {ss : List Setting} {pre : String} (new : "xmlns:" ++ pre ∉ ss.map Setting.name)
    (uri : String) : ofSettings (ss ++ [.prefixed pre uri]) =
      { ofSettings ss with namespaces := (ofSettings ss).namespaces.declare pre uri } := by
  have fresh : pre ∉ (ss.filterMap Setting.prefixed?).map Prod.fst := by
    intro old
    obtain ⟨⟨p, u⟩, declared, rfl⟩ := List.mem_map.mp old
    obtain ⟨s, mem, eq⟩ := List.mem_filterMap.mp declared
    refine new (List.mem_map.mpr ⟨s, mem, ?_⟩)
    cases s with
    | prefixed q v => cases eq; rfl
    | plain => cases eq
    | unprefixed => cases eq
  simp only [Namespace.Declarations.declare, ofSettings, Table.insert_of_not_mem fresh uri]
  simp [Setting.plain?, Setting.prefixed?, Setting.unprefixed?]

/-- A setting without prefix is collected as the declaration for names without one. -/
lemma ofSettings_unprefixed {ss : List Setting} (new : "xmlns" ∉ ss.map Setting.name) (uri : String) :
    ofSettings (ss ++ [.unprefixed uri]) =
      { ofSettings ss with namespaces := (ofSettings ss).namespaces.declareUnprefixed uri } := by
  have none : ss.findSome? Setting.unprefixed? = none := by
    refine List.findSome?_eq_none_iff.mpr fun s mem => ?_
    cases s with
    | unprefixed v => exact absurd (List.mem_map_of_mem (f := Setting.name) mem) new
    | plain => rfl
    | prefixed => rfl
  simp only [Namespace.Declarations.declareUnprefixed]
  simp [ofSettings, none, Setting.plain?, Setting.prefixed?, Setting.unprefixed?]

/-- One more setting is collected behind those before it, if none of them has its name. -/
lemma addRaw_ofSettings {ss : List Setting} {s : Setting} (named : s.WellNamed)
    (new : s.name ∉ ss.map Setting.name) :
    (ofSettings ss).addRaw s.raw = .ok (ofSettings (ss ++ [s])) := by
  rw [addRaw, Setting.raw, Reference.decode_escape]
  simp only [String.ofList_toList]
  cases s with
  | plain name value =>
    have other : name ≠ "xmlns" := named.2.1
    simp only [add, Setting.name, Setting.value, other, if_false,
      declaredPrefix?_eq_none named.2.2, named.1, if_true, ofSettings_plain]
  | prefixed pre uri =>
    have other := prefixed_ne pre
    simp only [add, Setting.name, Setting.value, other, if_false, declaredPrefix?_prefixed,
      ofSettings_prefixed new]
  | unprefixed uri =>
    simp only [add, Setting.name, Setting.value, if_true, ofSettings_unprefixed new]

/-- Settings with different names are all collected. -/
lemma foldlM_addRaw {ss : List Setting} (named : ∀ s ∈ ss, s.WellNamed)
    (nodup : (ss.map Setting.name).Nodup) :
    (ss.map Setting.raw).foldlM addRaw {} = .ok (ofSettings ss) := by
  induction ss using List.reverseRecOn with
  | nil => rfl
  | append_singleton ss s ih =>
    rw [List.map_append, List.nodup_append] at nodup
    have new : s.name ∉ ss.map Setting.name := fun old =>
      nodup.2.2 _ old _ (by simp) rfl
    rw [List.map_append, List.foldlM_append, ih (fun s mem => named s (by simp [mem])) nodup.1]
    simp only [List.map_cons, List.map_nil, List.foldlM_cons, List.foldlM_nil]
    change (ofSettings ss).addRaw s.raw >>= pure = _
    rw [addRaw_ofSettings (named s (by simp)) new]
    rfl

end Collected

/-- Attributes with different names are kept in their order. -/
lemma foldl_withAttribute {attributes : List (String × String)}
    (nodup : (attributes.map Prod.fst).Nodup) (e : Element) (empty : e.attributes = {}) :
    attributes.foldl (fun e a => e.withAttribute a.1 a.2) e = { e with attributes := ⟨attributes⟩ } := by
  induction attributes using List.reverseRecOn with
  | nil => obtain ⟨⟩ := e; cases empty; rfl
  | append_singleton attributes a ih =>
    rw [List.map_append, List.nodup_append] at nodup
    have new : a.1 ∉ attributes.map Prod.fst := fun old => nodup.2.2 _ old _ (by simp) rfl
    rw [List.foldl_append, ih nodup.1, List.foldl_cons, List.foldl_nil, Element.withAttribute,
      Table.insert_of_not_mem new]

namespace Head

variable {h : Head}

/-- An element with good names has settings with good names. -/
lemma wellNamed_settings (named : h.element.WellNamed) : ∀ s ∈ h.settings, s.WellNamed := by
  intro s mem
  cases s with
  | plain name value =>
    refine named.attributes name (List.mem_map.mpr ⟨(name, value), ?_, rfl⟩)
    exact List.mem_filterMap.mpr ⟨_, mem, rfl⟩
  | prefixed pre uri =>
    refine named.prefixes pre (List.mem_map.mpr ⟨(pre, uri), ?_, rfl⟩)
    exact List.mem_filterMap.mpr ⟨_, mem, rfl⟩
  | unprefixed uri => trivial

/-- An element with good names has a head with good names. -/
lemma named_of_wellNamed (named : h.element.WellNamed) : h.Named where
  name := isTagName_of_isQualified named.name
  settings := fun s mem => Setting.isTagName_name (wellNamed_settings named s mem)

/-- No attribute of a head has a name twice. -/
lemma nodup_attributes (h : Head) : h.element.attributes.keys.Nodup := by
  apply (Setting.sublist_names h.settings).nodup
  rw [settings, List.map_map]
  exact h.nodup

end Head

/-- A written tag opens the element that it means. -/
lemma openTag_head {limits : Limits} {h : Head} {path : List Element}
    (named : h.element.WellNamed) (untied : Element.Untied (path, h.element))
    (within : Element.Within limits (path, h.element)) :
    openTag limits (path.map Element.namespaces) h.tag = .ok h.element := by
  have name : checkName h.tag.name = .ok () := by
    rw [checkName, if_pos (show Name.isQualified h.tag.name = true from named.name)]
  have nodup : (h.settings.map Setting.name).Nodup := by
    rw [Head.settings, List.map_map]
    exact h.nodup
  have collected : Collected.ofTag h.tag = .ok (.ofSettings h.settings) := by
    rw [Collected.ofTag, Head.tag, Collected.foldlM_addRaw (Head.wellNamed_settings named) nodup]
    rfl
  have namespaces : limits.check .namespaces (Collected.ofSettings h.settings).namespaces.size =
      .ok () := Limits.check_eq_ok_iff.mpr within.namespaces
  have attributes : limits.check .attributes (Collected.ofSettings h.settings).plain.length =
      .ok () := by
    apply Limits.check_eq_ok_iff.mpr
    rw [Collected.ofSettings, List.length_reverse]
    exact within.attributes
  have kept : (Collected.ofSettings h.settings).plain.reverse.filter (fun a =>
      !tiesToSchema ((Collected.ofSettings h.settings).namespaces
        :: path.map Element.namespaces) a.1) = h.element.attributes.entries := by
    rw [Collected.ofSettings, List.reverse_reverse]
    apply List.filter_eq_self.mpr
    intro a mem
    have free := untied a.1 (List.mem_map_of_mem (f := Prod.fst) mem)
    rw [Bool.not_eq_true']
    exact free
  rw [openTag, name, collected]
  simp only [Except.mapError, bind, Except.bind, namespaces, attributes, kept]
  rw [foldl_withAttribute (Head.nodup_attributes h) _ rfl]
  rfl

end Sample

end XsdInfer
