import XsdInfer.Proofs.Layout.Text
import XsdInfer.Proofs.Sample.RoundTrip

/-!
# Reading written documents

A written document is a spelling of the tree that it means (`Fits.exists_spelling`): its declaration
is an instruction, and its lines are cut by blanks alone. So it is read back, whatever its values are
(`parse_document`), if each tag has a name and different keys (`IsTag`) and it is not too deep.
-/

namespace XsdInfer.Layout

open Element (placesFrom)
open Sample (Setting Head Spelling Stretch DocumentSpelling)

/-- What an attribute of a tag says. -/
def setting (a : String × String) : Setting :=
  if a.1 = "xmlns" then .unprefixed a.2
  else
    match Sample.Collected.declaredPrefix? a.1 with
    | some pre => .prefixed pre a.2
    | none => .plain a.1 a.2

/-- Whether an attribute may have this name: the name is simple, or it declares a simple prefix. -/
def isKey (name : String) : Bool :=
  name == "xmlns" ||
    match Sample.Collected.declaredPrefix? name with
    | some pre => Name.isSimple pre.toList
    | none => Name.isSimple name.toList

/-- A tag of a given name whose attributes have given names. -/
structure IsTag (limits : Limits) (name : String) (keys : List String) : Prop where
  name : Name.isQualified name = true
  known : ∀ k ∈ keys, isKey k = true
  nodup : keys.Nodup
  few : keys.length ≤ limits.attributes ∧ keys.length ≤ limits.namespaces

instance (limits : Limits) (name : String) (keys : List String) :
    Decidable (IsTag limits name keys) :=
  decidable_of_iff
    (Name.isQualified name = true ∧ (∀ k ∈ keys, isKey k = true) ∧ keys.Nodup ∧
      keys.length ≤ limits.attributes ∧ keys.length ≤ limits.namespaces)
    ⟨fun ⟨name, known, nodup, few⟩ => ⟨name, known, nodup, few⟩,
      fun h => ⟨h.name, h.known, h.nodup, h.few⟩⟩

/-- A document with proper tags, in which at most a given number of elements are nested. -/
inductive Fits (limits : Limits) : Nat → Layout → Prop where
  | leaf {n : Nat} {name : String} {attributes : List (String × String)}
      (tag : IsTag limits name (attributes.map Prod.fst)) :
      Fits limits (n + 1) (.leaf name attributes)
  | block {n : Nat} {name : String} {attributes : List (String × String)} {body : List Layout}
      (tag : IsTag limits name (attributes.map Prod.fst)) (inner : ∀ l ∈ body, Fits limits n l) :
      Fits limits (n + 1) (.block name attributes body)

/-- The element that a tag means, without content. -/
def tagElement (name : String) (attributes : List (String × String)) : Element where
  name := name
  attributes := ⟨(attributes.map setting).filterMap Setting.plain?⟩
  namespaces := ⟨⟨(attributes.map setting).filterMap Setting.prefixed?⟩,
    (attributes.map setting).findSome? Setting.unprefixed?⟩

mutual

/-- The tree that a document means. -/
def element : Layout → Element
  | .leaf name attributes => tagElement name attributes
  | .block name attributes body => { tagElement name attributes with children := elements body }

/-- The trees that documents mean one after another. -/
def elements : List Layout → List Element
  | [] => []
  | l :: ls => l.element :: elements ls

end

/-- The elements of layouts side by side are those of each of them. -/
lemma elements_eq_map (ls : List Layout) : elements ls = ls.map element := by
  induction ls with
  | nil => rfl
  | cons l ls ih => rw [elements, ih, List.map_cons]

/-! ## Tags -/

variable {limits : Limits} {name : String} {attributes : List (String × String)}

/-- The three kinds of what an attribute says are told apart by its name. -/
lemma setting_cases (a : String × String) :
    (setting a = .unprefixed a.2 ∧ a.1 = "xmlns") ∨
      (∃ pre, setting a = .prefixed pre a.2 ∧ a.1 = "xmlns:" ++ pre ∧
        Sample.Collected.declaredPrefix? a.1 = some pre) ∨
      (setting a = .plain a.1 a.2 ∧ a.1 ≠ "xmlns" ∧
        Sample.Collected.declaredPrefix? a.1 = none) := by
  unfold setting
  split
  next bare => exact .inl ⟨rfl, bare⟩
  next other =>
    split
    next pre declares =>
      have name := Sample.Collected.eq_of_declaredPrefix? declares
      exact .inr (.inl ⟨pre, rfl, name, declares⟩)
    next none => exact .inr (.inr ⟨rfl, other, none⟩)

/-- An attribute is set under its name. -/
lemma name_setting (a : String × String) : (setting a).name = a.1 := by
  obtain ⟨eq, bare⟩ | ⟨pre, eq, declares, _⟩ | ⟨eq, _⟩ := setting_cases a
  · rw [eq, bare, Setting.name]
  · rw [eq, declares, Setting.name]
  · rw [eq, Setting.name]

/-- An attribute is set to its value. -/
lemma value_setting (a : String × String) : (setting a).value = a.2 := by
  obtain ⟨eq, _⟩ | ⟨pre, eq, _⟩ | ⟨eq, _⟩ := setting_cases a <;> rw [eq, Setting.value]

/-- A tag as it is written. -/
def head (name : String) (attributes : List (String × String))
    (nodup : (attributes.map Prod.fst).Nodup) : Head :=
  .ofSettings name (attributes.map setting) (by
    rw [List.map_map]
    exact (List.map_congr_left fun a _ => name_setting a) ▸ nodup)

/-- The head of a tag is spelled as it is laid out. -/
lemma text_head (nodup : (attributes.map Prod.fst).Nodup) :
    (head name attributes nodup).text = inside name attributes := by
  have one (a : String × String) :
      (Sample.Assignment.ofSetting (setting a)).text = assignment a := by
    simp [Sample.Assignment.text, Sample.Assignment.ofSetting, assignment, name_setting,
      value_setting]
  show name.toList
    ++ ((attributes.map setting).map Sample.Assignment.ofSetting).flatMap Sample.Assignment.text
    ++ [] = name.toList ++ attributes.flatMap assignment
  rw [List.append_nil, List.map_map, List.flatMap_map]
  simp only [Function.comp_apply, one]

/-- The head of a tag stands for the element of its name and attributes. -/
lemma element_head (nodup : (attributes.map Prod.fst).Nodup) :
    (head name attributes nodup).element = tagElement name attributes := by
  rw [head, Head.element, Head.settings_ofSettings]
  rfl

/-- A tag has no more declarations than attributes. -/
lemma size_declarations_le (name : String) (attributes : List (String × String)) :
    (tagElement name attributes).namespaces.size ≤ attributes.length := by
  have all (ss : List Setting) : (ss.filterMap Setting.prefixed?).length
      + (if (ss.findSome? Setting.unprefixed?).isSome then 1 else 0) ≤ ss.length := by
    induction ss with
    | nil => exact Nat.le_refl _
    | cons s ss ih =>
      cases s with
      | plain name value => exact Nat.le_succ_of_le ih
      | prefixed pre uri =>
        show (ss.filterMap Setting.prefixed?).length + 1
          + (if (ss.findSome? Setting.unprefixed?).isSome then 1 else 0) ≤ ss.length + 1
        omega
      | unprefixed uri =>
        show (ss.filterMap Setting.prefixed?).length + 1 ≤ ss.length + 1
        exact Nat.succ_le_succ (List.length_filterMap_le _ _)
  have := all (attributes.map setting)
  rwa [List.length_map] at this

/-- The attributes of a tag that declare nothing have simple names. -/
lemma IsTag.isSimple_of_mem_attributes (tag : IsTag limits name (attributes.map Prod.fst))
    {k : String} (h : k ∈ (tagElement name attributes).attributes.keys) :
    Name.isSimple k.toList = true ∧ k ≠ "xmlns" := by
  obtain ⟨⟨k, v⟩, entry, rfl⟩ := List.mem_map.mp h
  obtain ⟨s, at_s, eq⟩ := List.mem_filterMap.mp entry
  obtain ⟨a, at_a, rfl⟩ := List.mem_map.mp at_s
  have known := tag.known a.1 (List.mem_map_of_mem at_a)
  obtain ⟨kind, _⟩ | ⟨pre, kind, _⟩ | ⟨kind, other, none⟩ := setting_cases a
  · rw [kind] at eq; cases eq
  · rw [kind] at eq; cases eq
  · rw [kind] at eq
    cases eq
    rw [isKey, none] at known
    exact ⟨by simpa [other] using known, other⟩

/-- The prefixes that a tag declares are simple names. -/
lemma IsTag.isSimple_of_mem_prefixed (tag : IsTag limits name (attributes.map Prod.fst))
    {p : String} (h : p ∈ (tagElement name attributes).namespaces.prefixed.keys) :
    Name.isSimple p.toList = true := by
  obtain ⟨⟨p, v⟩, entry, rfl⟩ := List.mem_map.mp h
  obtain ⟨s, at_s, eq⟩ := List.mem_filterMap.mp entry
  obtain ⟨a, at_a, rfl⟩ := List.mem_map.mp at_s
  have known := tag.known a.1 (List.mem_map_of_mem at_a)
  obtain ⟨kind, _⟩ | ⟨pre, kind, name, declares⟩ | ⟨kind, _⟩ := setting_cases a
  · rw [kind] at eq; cases eq
  · rw [kind] at eq
    cases eq
    rw [isKey, declares] at known
    have other : a.1 ≠ "xmlns" := by
      rw [name]
      exact Sample.Collected.prefixed_ne _
    simpa [other] using known
  · rw [kind] at eq; cases eq

/-- A tag within the limits can be read, whatever its children. -/
lemma IsTag.readable (tag : IsTag limits name (attributes.map Prod.fst)) {path : List Element}
    (depth : path.length + 1 ≤ limits.depth) (children : List Element) :
    Element.Readable limits (path, { tagElement name attributes with children }) := by
  have simple : ∀ k ∈ (tagElement name attributes).attributes.keys,
      Name.isSimple k.toList = true ∧ k ≠ "xmlns" := fun k => tag.isSimple_of_mem_attributes
  have declared : ∀ p ∈ (tagElement name attributes).namespaces.prefixed.keys,
      Name.isSimple p.toList = true := fun p => tag.isSimple_of_mem_prefixed
  refine ⟨⟨tag.name, fun k mem => ?_, declared⟩, fun k mem => ?_, ⟨depth, ?_, ?_⟩⟩
  · have split := Name.split_of_isSimple (simple k mem).1
    refine ⟨by simpa [Name.isQualified, split] using (simple k mem).1, (simple k mem).2, ?_⟩
    simp [Name.qualifier?, split]
  · have split := Name.split_of_isSimple (simple k mem).1
    simp [Sample.tiesToSchema, Name.qualifier?, split]
  · have fewer := List.length_filterMap_le Setting.plain? (attributes.map setting)
    have few := tag.few.1
    rw [List.length_map] at few fewer
    exact Nat.le_trans fewer few
  · have few := tag.few.2
    rw [List.length_map] at few
    exact Nat.le_trans (size_declarations_le name attributes) few

/-- Each element of a document can be read back, if the document is not too deep. -/
lemma Fits.readable {n : Nat} {l : Layout} (h : Fits limits n l) {path : List Element}
    (depth : path.length + n ≤ limits.depth) :
    ∀ p ∈ placesFrom path l.element, Element.Readable limits p := by
  induction h generalizing path with
  | leaf tag =>
    intro p mem
    rw [element, Element.placesFrom_eq] at mem
    obtain rfl := List.mem_singleton.mp mem
    exact tag.readable (by omega) []
  | @block n name attributes body tag inner ih =>
    intro p mem
    rw [element, Element.placesFrom_eq, elements_eq_map] at mem
    cases mem with
    | head => exact tag.readable (by omega) _
    | tail _ below =>
      obtain ⟨_, child, mem⟩ := List.mem_flatMap.mp below
      obtain ⟨l, at_l, rfl⟩ := List.mem_map.mp child
      exact ih l at_l (by rw [List.length_cons]; omega) p mem

/-! ## Spellings -/

/-- The end of a line and the space that begins the next one. -/
def newline (depth : Nat) : Stretch :=
  { first := '\n' :: indent depth }

/-- A new line is a line end and the indentation. -/
lemma text_newline (depth : Nat) : (newline depth).text = '\n' :: indent depth := by
  rw [Stretch.text, newline, Text.escape_of_blank fun c mem => isBlank_of_mem_indent mem]
  exact List.append_nil _

/-- The elements of a pair are content with blanks between tags. -/
lemma exists_content {body : List Layout}
    (each : ∀ l ∈ body, ∀ depth, ∃ sp : Spelling, sp.element = l.element ∧ sp.text = l.text depth)
    (depth : Nat) :
    ∃ content : Sample.Content, content.children = elements body ∧
      (∀ run ∈ content.runs, ∀ c ∈ run, Text.isBlank c = true) ∧
      content.text = inner depth body := by
  induction body with
  | nil =>
    refine ⟨.last (newline depth), rfl, ?_, text_newline depth⟩
    intro run mem c at_c
    obtain rfl := List.mem_singleton.mp mem
    exact isBlank_of_mem_indent at_c
  | cons l body ih =>
    obtain ⟨sp, element, spelled⟩ := each l (.head _) (depth + 1)
    obtain ⟨content, children, blank, rest⟩ := ih fun l mem => each l (.tail _ mem)
    refine ⟨.child (newline (depth + 1)) sp content, ?_, ?_, ?_⟩
    · rw [Sample.Content.children, element, children, elements]
    · intro run mem c at_c
      obtain first | more := List.mem_cons.mp mem
      · exact isBlank_of_mem_indent (first ▸ at_c)
      · exact blank run more c at_c
    · rw [Sample.Content.text, text_newline, rest, spelled, inner_cons, List.append_assoc]

/-- The text of a document is a spelling of its tree. -/
lemma Fits.exists_spelling {n : Nat} {l : Layout} (h : Fits limits n l) (depth : Nat) :
    ∃ sp : Spelling, sp.element = l.element ∧ sp.text = l.text depth := by
  induction h generalizing depth with
  | @leaf n name attributes tag =>
    refine ⟨.lone (head name attributes tag.nodup), element_head tag.nodup, ?_⟩
    rw [Spelling.text, text_head, text]
  | @block n name attributes body tag inner ih =>
    obtain ⟨content, children, blank, inside⟩ := exists_content ih depth
    refine ⟨.pair (head name attributes tag.nodup) content {}, ?_, ?_⟩
    · rw [Spelling.element, element_head, children, Sample.textOfRuns_of_blank blank]
      rfl
    · rw [Spelling.text, text_head, inside, text]
      simp [head, Head.ofSettings]

/-- A layout that fits is read back as its element. -/
lemma parse_document {n : Nat} {l : Layout} (h : Fits limits n l) (depth : n ≤ limits.depth) :
    Sample.parse limits l.document = .ok l.element := by
  obtain ⟨sp, element, spelled⟩ := h.exists_spelling 0
  let instruction : Sample.Aside :=
    .instruction "xml version=\"1.0\" encoding=\"UTF-8\"".toList (by decide) (by decide)
  let before : Stretch := { more := [(instruction, ['\n'])] }
  let d : DocumentSpelling := {
    before := before
    root := sp
    behind := { first := ['\n'] }
    blank := by decide }
  have text : l.document = String.ofList d.text := by
    have first : declaration.tag ++ ['\n'] = before.text := by decide +kernel
    have written : d.text = declaration.tag ++ '\n' :: (l.text 0 ++ ['\n']) := by
      rw [DocumentSpelling.text, ← first, spelled, List.append_assoc, List.append_assoc]
      rfl
    rw [written, ← toList_document, String.ofList_toList]
  rw [text, ← element]
  apply Sample.parse_text limits d
  rw [Element.places_eq, show d.root.element = l.element from element]
  exact h.readable (by simpa using depth)

end XsdInfer.Layout
