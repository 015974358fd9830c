import XsdInfer.Proofs.Inference.Observations

/-!
# The content of types

What may stand inside the elements of a type follows from the occurrences of its key, where one
occurrence may show text and another one children. Main statement: a type is simple, has simple
content, is empty, has elements or is mixed just as the occurrences together show it, so that no text
of the sample is shut out (`infer_admits`). The content of a type is known from its kind, its children,
its primitive type and its mark of mixed content (`SchemaType.content_eq_some_iff`), and these from
what the type tells of its elements (`SchemaType.Tells`).
-/

namespace XsdInfer

open TypeKey (typeKeys occurrences)

/-- An observed string makes the common type a string. -/
lemma Primitive.joinAll_of_mem_string {l : List Primitive} (mem : string ∈ l) :
    joinAll l = some string := by
  have alone : joinAll [string] = some string := rfl
  exact (joinAll_of_subset (List.cons_subset.mpr ⟨mem, List.nil_subset l⟩) alone).elim id id

/-- A missing text counts as a string. -/
lemma Element.textType_of_not_hasText {e : Element} (missing : e.hasText = false) :
    e.textType = .string := by
  have none : e.text = .none := Option.not_isSome_iff_eq_none.mp (by simpa [hasText] using missing)
  rw [textType, none]
  decide +kernel

namespace SchemaType

variable {es : List Element} {t : SchemaType}

/-- Whether text may stand directly inside the elements of a type: as a value, with attributes around
it or not, or beside children. -/
def TakesText (t : SchemaType) : Prop :=
  t.kind = .simple ∨ (∃ base, t.content? = some (.simple base)) ∨ t.isMixed = true

/-- What a type says of the inside of its elements, if it is the type of given elements. -/
structure Admits (es : List Element) (t : SchemaType) : Prop where
  simple : t.kind = .simple ↔ ∀ e ∈ es, e.attributes.entries = [] ∧ e.children = []
  /-- Text and children need not be seen on the same element. -/
  isMixed : t.isMixed = true ↔ (∃ e ∈ es, e.children ≠ []) ∧ ∃ e ∈ es, e.hasText = true
  mixed : t.content? = some .mixed ↔ t.isMixed = true
  elements : t.content? = some .elements ↔
    (∃ e ∈ es, e.children ≠ []) ∧ ∀ e ∈ es, e.hasText = false
  childless : t.children.entries = [] ↔ ∀ e ∈ es, e.children = []
  value : t.kind = .complex → t.children.entries = [] →
    ((∃ base, t.content? = some (.simple base)) ↔ ∃ e ∈ es, e.hasText = true)
  empty : t.kind = .complex → t.children.entries = [] →
    (t.content? = some .empty ↔ ∀ e ∈ es, e.hasText = false)
  /-- No text that is seen is shut out. -/
  takesText : ∀ e ∈ es, e.hasText = true → t.TakesText
  /-- Where a text is missing, a value is a string. -/
  primitive : (∃ e ∈ es, e.hasText = false) → t.kind = .simple → t.primitive = some .string
  base : (∃ e ∈ es, e.hasText = false) → ∀ p, t.content? = some (.simple p) → p = .string

namespace Tells

variable (told : t.Tells es)

include told

/-- A type is simple if no element of it has attributes or children. -/
lemma simple_iff :
    t.kind = .simple ↔ ∀ e ∈ es, e.attributes.entries = [] ∧ e.children = [] := by
  rw [kind_eq_simple_iff, ne_eq, told.complex]
  push Not
  rfl

/-- A type declares no children if no element of it has any. -/
lemma childless_iff : t.children.entries = [] ↔ ∀ e ∈ es, e.children = [] := by
  rw [← List.map_eq_nil_iff (f := Prod.fst), ← Table.keys, List.eq_nil_iff_forall_not_mem]
  simp only [told.childNames, not_exists, not_and]
  constructor
  · intro absent e mem
    exact List.map_eq_nil_iff.mp (List.eq_nil_iff_forall_not_mem.mpr fun n => absent n e mem)
  · intro none n e mem
    rw [Element.childNames, none e mem]
    exact List.not_mem_nil

/-- A type declares children if some element of it has one. -/
lemma filled_iff : t.children.entries ≠ [] ↔ ∃ e ∈ es, e.children ≠ [] := by
  rw [ne_eq, told.childless_iff]
  push Not
  rfl

/-- A type with children is complex. -/
lemma complex_of_filled (filled : t.children.entries ≠ []) : t.kind = .complex := by
  obtain ⟨e, mem, some⟩ := told.filled_iff.mp filled
  exact told.complex.mpr ⟨e, mem, .inr some⟩

/-- A type is mixed if it declares children and some element of it has text. -/
lemma isMixed_iff :
    t.isMixed = true ↔ t.children.entries ≠ [] ∧ ∃ e ∈ es, e.hasText = true := by
  rw [told.isMixed, told.filled_iff, and_comm]

/-- A complex type without children has a primitive type just if some text is seen. -/
lemma exists_primitive_iff (complex : t.kind = .complex) (childless : t.children.entries = []) :
    (∃ p, t.primitive = some p) ↔ ∃ e ∈ es, e.hasText = true := by
  simp only [told.primitive]
  constructor
  · rintro ⟨_, _, _, text⟩
    exact text complex
  · intro text
    obtain ⟨p, joined⟩ := told.exists_joinAll
    exact ⟨p, joined, told.childless_iff.mp childless, fun _ => text⟩

/-- A primitive type is a string, where a text is missing. -/
lemma eq_string_of_primitive {p : Primitive} (typed : t.primitive = some p)
    (missing : ∃ e ∈ es, e.hasText = false) : p = .string := by
  obtain ⟨e, mem, missing⟩ := missing
  have string : Primitive.string ∈ es.map Element.textType :=
    List.mem_map.mpr ⟨e, mem, Element.textType_of_not_hasText missing⟩
  have joined := ((told.primitive p).mp typed).1
  rw [Primitive.joinAll_of_mem_string string] at joined
  exact (Option.some.inj joined).symm

/-- The content of a complex type without children is a value just if some text is seen. -/
lemma exists_value_iff (complex : t.kind = .complex) (childless : t.children.entries = []) :
    (∃ base, t.content? = some (.simple base)) ↔ ∃ e ∈ es, e.hasText = true := by
  rw [← told.exists_primitive_iff complex childless]
  simp only [content_eq_some_iff, IsContent, complex, childless, true_and]

/-- A type of elements, one of which has text, takes text. -/
lemma takesText {e : Element} (mem : e ∈ es) (text : e.hasText = true) : t.TakesText := by
  by_cases complex : t.kind = .complex
  · by_cases childless : t.children.entries = []
    · exact .inr (.inl ((told.exists_value_iff complex childless).mpr ⟨e, mem, text⟩))
    · exact .inr (.inr (told.isMixed_iff.mpr ⟨childless, e, mem, text⟩))
  · exact .inl (kind_eq_simple_iff.mpr complex)

/-- What a type tells of some elements decides what may stand inside them. -/
lemma admits : t.Admits es where
  simple := told.simple_iff
  isMixed := by rw [told.isMixed, and_comm]
  mixed := by
    rw [content_eq_some_iff, IsContent]
    refine ⟨fun content => content.2.2, fun mixed => ?_⟩
    have filled := (told.isMixed_iff.mp mixed).1
    exact ⟨told.complex_of_filled filled, filled, mixed⟩
  elements := by
    rw [content_eq_some_iff, IsContent, ← told.filled_iff, ← Bool.not_eq_true, told.isMixed_iff]
    constructor
    · rintro ⟨-, filled, plain⟩
      refine ⟨filled, fun e mem => ?_⟩
      exact Bool.eq_false_iff.mpr fun text => plain ⟨filled, e, mem, text⟩
    · rintro ⟨filled, textless⟩
      refine ⟨told.complex_of_filled filled, filled, ?_⟩
      rintro ⟨-, e, mem, text⟩
      rw [textless e mem] at text
      cases text
  childless := told.childless_iff
  value := told.exists_value_iff
  empty := by
    intro complex childless
    have untyped : t.primitive = none ↔ ¬ ∃ e ∈ es, e.hasText = true := by
      rw [← told.exists_primitive_iff complex childless, Option.eq_none_iff_forall_ne_some]
      exact not_exists.symm
    rw [content_eq_some_iff, IsContent, untyped]
    push Not
    simp only [complex, childless, true_and, ne_eq, Bool.not_eq_true]
  takesText := fun _ mem text => told.takesText mem text
  primitive := by
    intro missing simple
    -- A missing text counts as a string, which no other type narrows.
    obtain ⟨p, joined⟩ := told.exists_joinAll
    have typed := (told.primitive_of_simple simple).trans joined
    rw [typed, told.eq_string_of_primitive typed missing]
  base := fun missing _ content => told.eq_string_of_primitive (primitive_of_content content) missing

end Tells

end SchemaType

/-- Where there is room for the types, each type admits inside its elements what the occurrences of its
key show together, and takes text if one of them has text. -/
theorem infer_admits {scope : Scope} {limits : Limits} {root : Element}
    (room : (typeKeys scope root).length ≤ limits.types) :
    ∃ s, Schema.infer scope limits root = .ok s ∧ s.Describes scope root ∧
      ∀ (i : Nat) (k : TypeKey), (typeKeys scope root)[i]? = some k →
        ∃ t, s.types[i]? = some t ∧ t.Admits (occurrences scope k root.places) := by
  refine ⟨Schema.described scope root, ?_, Schema.described_describes scope root, ?_⟩
  · rw [Schema.infer_eq, if_pos room]
  · intro i k here
    obtain ⟨t, type, -, told, -⟩ := Schema.exists_tells here
    exact ⟨t, type, told.admits⟩

/-- A tag that has text in one place and a child in another, beside one with an attribute that has text
only once. -/
theorem infer_admits_apart :
    let note : Element := { name := "note", text := some "plain" }
    let marked : Element := { name := "p:note", children := [{ name := "em", text := some "1" }] }
    let code : Element := { name := "code", attributes := ⟨[("no", "1")]⟩, text := some "7" }
    let root : Element := { name := "r", children := [note, code,
      { name := "q", children := [marked, { name := "code" }, { name := "em" }] }] }
    (typeKeys .global root).length ≤ ({ types := 5 } : Limits).types ∧
      ∃ s, Schema.infer .global { types := 5 } root = .ok s ∧ s.Describes .global root ∧
        ∀ (i : Nat) (k : TypeKey), (typeKeys .global root)[i]? = some k →
          ∃ t, s.types[i]? = some t ∧ t.Admits (occurrences .global k root.places) := by
  intro note marked code root
  have room : (typeKeys .global root).length ≤ ({ types := 5 } : Limits).types := by
    decide +kernel
  exact ⟨room, infer_admits room⟩

end XsdInfer
