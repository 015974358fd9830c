import XsdInfer.Proofs.Element.Places
import XsdInfer.Proofs.Sample.Opening

/-!
# Printing trees

Each tree has a spelling (`exists_spelling`), if its names are well formed and each of its elements
could have been read: no key stands twice in its tables, and its text is trimmed and not empty.
-/

namespace XsdInfer

open Element (Place placesFrom placesFromAll)

/-- An element whose tables have each key once, and whose text is trimmed and not empty. -/
structure Element.Tidy (e : Element) : Prop where
  attributes : e.attributes.keys.Nodup
  prefixes : e.namespaces.prefixed.keys.Nodup
  text : ∀ s ∈ e.text, s ≠ "" ∧ Text.trim s.toList = s.toList

namespace Sample

/-- An assignment with as little space as there can be. -/
def Assignment.ofSetting (s : Setting) : Assignment where
  lead := ⟨[' '], by decide⟩
  setting := s
  spaced := List.cons_ne_nil _ _

/-- A tag with given settings and as little space as there can be. -/
def Head.ofSettings (name : String) (ss : List Setting) (nodup : (ss.map Setting.name).Nodup) :
    Head where
  name := name
  assignments := ss.map Assignment.ofSetting
  nodup := by rwa [List.map_map]

/-- A head that is made of settings has them. -/
@[simp]
lemma Head.settings_ofSettings {name : String} {ss : List Setting}
    (nodup : (ss.map Setting.name).Nodup) : (ofSettings name ss nodup).settings = ss := by
  rw [settings, ofSettings, List.map_map]
  exact List.map_id ss

/-- The settings of an element: its attributes, and then its declarations. -/
def Setting.ofElement (e : Element) : List Setting :=
  e.attributes.entries.map (fun a => plain a.1 a.2)
    ++ e.namespaces.prefixed.entries.map (fun a => prefixed a.1 a.2)
    ++ (e.namespaces.unprefixed.map unprefixed).toList

variable {e : Element}

/-- The settings of an element have the names of its attributes and declarations. -/
lemma Setting.map_name_ofElement (e : Element) :
    (ofElement e).map name = e.attributes.keys
      ++ e.namespaces.prefixed.keys.map ("xmlns:" ++ ·)
      ++ (e.namespaces.unprefixed.map fun _ => "xmlns").toList := by
  have bare : (e.namespaces.unprefixed.map unprefixed).toList.map name =
      (e.namespaces.unprefixed.map fun _ => "xmlns").toList := by
    cases e.namespaces.unprefixed <;> rfl
  rw [ofElement, List.map_append, List.map_append, bare, List.map_map, List.map_map, Table.keys,
    Table.keys, List.map_map]
  rfl

/-- A tidy element with good names has no setting twice. -/
lemma Setting.nodup_ofElement (named : e.WellNamed) (tidy : e.Tidy) :
    ((ofElement e).map name).Nodup := by
  have prefixes : (e.namespaces.prefixed.keys.map ("xmlns:" ++ ·)).Nodup := by
    apply tidy.prefixes.map
    intro p q same
    rw [← String.toList_inj, String.toList_append, String.toList_append] at same
    exact String.toList_inj.mp (List.append_cancel_left same)
  have bare : (e.namespaces.unprefixed.map fun _ => "xmlns").toList.Nodup := by
    cases e.namespaces.unprefixed <;> simp
  -- The three kinds of names have nothing in common.
  have apart : ∀ a ∈ e.attributes.keys,
      ∀ b ∈ e.namespaces.prefixed.keys.map ("xmlns:" ++ ·), a ≠ b := by
    rintro a mem _ declares rfl
    obtain ⟨p, _, rfl⟩ := List.mem_map.mp declares
    have none := Collected.declaredPrefix?_eq_none (named.attributes _ mem).2.2
    rw [Collected.declaredPrefix?_prefixed] at none
    cases none
  have apart' : ∀ a ∈ e.attributes.keys ++ e.namespaces.prefixed.keys.map ("xmlns:" ++ ·),
      ∀ b ∈ (e.namespaces.unprefixed.map fun _ => "xmlns").toList, a ≠ b := by
    intro a mem b same
    obtain rfl : b = "xmlns" := by
      cases eq : e.namespaces.unprefixed <;> simp_all
    cases List.mem_append.mp mem with
    | inl plain => exact (named.attributes _ plain).2.1
    | inr declares =>
      obtain ⟨p, _, rfl⟩ := List.mem_map.mp declares
      exact Collected.prefixed_ne p
  rw [map_name_ofElement, List.nodup_append, List.nodup_append]
  exact ⟨⟨tidy.attributes, prefixes, apart⟩, bare, apart'⟩

/-- The tag of an element. -/
def Head.ofElement (e : Element) (named : e.WellNamed) (tidy : e.Tidy) : Head :=
  ofSettings e.name (Setting.ofElement e) (Setting.nodup_ofElement named tidy)

/-- The head of an element stands for it without text and children. -/
lemma Head.element_ofElement (named : e.WellNamed) (tidy : e.Tidy) :
    (ofElement e named tidy).element = { e with text := none, children := [] } := by
  have plain : (Setting.ofElement e).filterMap Setting.plain? = e.attributes.entries := by
    simp [Setting.ofElement, Setting.plain?, Function.comp_def]
  have prefixed : (Setting.ofElement e).filterMap Setting.prefixed? =
      e.namespaces.prefixed.entries := by
    simp [Setting.ofElement, Setting.prefixed?, Function.comp_def]
  have unprefixed : (Setting.ofElement e).findSome? Setting.unprefixed? =
      e.namespaces.unprefixed := by
    have others : (e.attributes.entries.map (fun a => Setting.plain a.1 a.2)
        ++ e.namespaces.prefixed.entries.map (fun a => Setting.prefixed a.1 a.2)).findSome?
          Setting.unprefixed? = none := by
      refine List.findSome?_eq_none_iff.mpr fun s mem => ?_
      obtain mem | mem := List.mem_append.mp mem <;> obtain ⟨a, _, rfl⟩ := List.mem_map.mp mem <;> rfl
    rw [Setting.ofElement, List.findSome?_append, others]
    cases e.namespaces.unprefixed <;> rfl
  rw [element, ofElement, settings_ofSettings, plain, prefixed, unprefixed]
  rfl

/-- The text of a tidy element is one run, whatever empty ones there are beside it. -/
lemma textOfRuns_of_tidy (tidy : e.Tidy) (more : List (List Char)) (blank : ∀ run ∈ more, run = []) :
    textOfRuns ((e.text.getD "").toList :: more) = e.text := by
  have rest : (more.map Text.trim).filter (!·.isEmpty) = [] := by
    apply List.filter_eq_nil_iff.mpr
    intro run mem
    obtain ⟨run', mem', rfl⟩ := List.mem_map.mp mem
    rw [blank run' mem']
    decide
  cases text : e.text with
  | none =>
    have none : Text.trim [] = [] := rfl
    simp [textOfRuns, rest, none]
  | some s =>
    obtain ⟨some, trimmed⟩ := tidy.text s text
    have visible : (!s.toList.isEmpty) = true := by simpa using some
    simp [textOfRuns, rest, trimmed, some]

/-- Content of given elements, with character data before the first of them. -/
def Content.ofList (data : List Char) : List Spelling → Content
  | [] => .last { first := data }
  | sp :: sps => .child { first := data } sp (ofList [] sps)

/-- The content that is made of a list has its children. -/
lemma Content.children_ofList (data : List Char) (sps : List Spelling) :
    (ofList data sps).children = sps.map Spelling.element := by
  induction sps generalizing data with
  | nil => rfl
  | cons sp sps ih => rw [ofList, children, ih, List.map_cons]

/-- The content that is made of a list has one run of data, and empty ones. -/
lemma Content.runs_ofList (data : List Char) (sps : List Spelling) :
    ∃ more, (∀ run ∈ more, run = []) ∧ (ofList data sps).runs = data :: more := by
  induction sps generalizing data with
  | nil => exact ⟨[], by simp, rfl⟩
  | cons sp sps ih =>
    obtain ⟨more, blank, eq⟩ := ih []
    refine ⟨[] :: more, by simpa using blank, ?_⟩
    rw [ofList, runs, eq]
    rfl

mutual

/-- Each tree has a spelling. -/
theorem exists_spelling {path : List Element} (e : Element)
    (h : ∀ p ∈ placesFrom path e, p.2.WellNamed ∧ p.2.Tidy) : ∃ sp : Spelling, sp.element = e := by
  obtain ⟨named, tidy⟩ := h _ (Element.self_mem_placesFrom path e)
  obtain ⟨name, attributes, text, children, namespaces⟩ := e
  rw [placesFrom] at h
  obtain ⟨sps, eq⟩ := exists_spellings children fun p mem => h p (.tail _ mem)
  -- All of the text stands before the first child.
  refine ⟨.pair (.ofElement _ named tidy) (.ofList (text.getD "").toList sps) {}, ?_⟩
  obtain ⟨more, blank, runs⟩ := Content.runs_ofList (text.getD "").toList sps
  rw [Spelling.element, Head.element_ofElement, Content.children_ofList, eq, runs,
    textOfRuns_of_tidy tidy more blank]

/-- Trees have spellings one by one. -/
theorem exists_spellings {path : List Element} (es : List Element)
    (h : ∀ p ∈ placesFromAll path es, p.2.WellNamed ∧ p.2.Tidy) :
    ∃ sps : List Spelling, sps.map Spelling.element = es := by
  cases es with
  | nil => exact ⟨[], rfl⟩
  | cons e es =>
    rw [placesFromAll] at h
    obtain ⟨sp, rfl⟩ := exists_spelling e fun p mem => h p (List.mem_append_left _ mem)
    obtain ⟨sps, rfl⟩ := exists_spellings es fun p mem => h p (List.mem_append_right _ mem)
    exact ⟨sp :: sps, rfl⟩

end

end Sample

end XsdInfer
