import XsdInfer.Proofs.Check.Written
import XsdInfer.Proofs.Inference.Ledger
import XsdInfer.Proofs.Layout.Rows

/-!
# Written schemas are laid out canonically

Main statement: the text of a schema that is inferred from a sample is a declaration and a row for each
tag, where each row is indented as deep as its tag stands, and the last row closes the schema
(`infer_laidOut`). A line end in the target namespace would break the row of the schema itself, and
nothing else that is written can hold one.
-/

namespace XsdInfer

open Layout (IsWord IsRowTag Line LaidOut Tag)
open Name (isSolid)

namespace Schema

variable {s : Schema} {rootName : String} {target : Option String}

/-- All tags of written schemas are made of words. -/
lemma isWord_shapes : ∀ shape ∈ headShapes ++ innerShapes,
    IsWord shape.1.toList ∧ ∀ key ∈ shape.2, IsWord key.toList := by
  decide +kernel

/-- A tag of a known shape fits on a row, if its values have no line end. -/
lemma isRowTag_of_mem_shapes {tag : Tag}
    (shape : (tag.1, tag.2.map Prod.fst) ∈ headShapes ++ innerShapes)
    (values : ∀ a ∈ tag.2, '\n' ∉ a.2.toList) : IsRowTag tag where
  name := (isWord_shapes _ shape).1
  keys := fun _ mem => (isWord_shapes _ shape).2 _ (List.mem_map_of_mem mem)
  values := values

/-- The tag of a schema fits on a row, if its target has no line end. -/
lemma isRowTag_head (unbroken : ∀ uri ∈ target, '\n' ∉ uri.toList) :
    IsRowTag ("xs:schema", headAttributes target) := by
  have vocabulary : '\n' ∉ Namespace.xsd.toList := by decide
  cases target with
  | none =>
    refine isRowTag_of_mem_shapes (.head _) ?_
    exact List.forall_mem_singleton.mpr vocabulary
  | some uri =>
    have value := unbroken uri rfl
    refine isRowTag_of_mem_shapes (.tail _ (.head _)) ?_
    refine List.forall_mem_cons.mpr ⟨vocabulary, List.forall_mem_cons.mpr ⟨value, ?_⟩⟩
    exact List.forall_mem_cons.mpr ⟨value, List.forall_mem_singleton.mpr (by decide)⟩

/-- Every tag of a schema fits on a row, if its target has no line end. -/
lemma isRowTag_of_mem_tags (closed : s.Closed) (solid : s.Solid)
    (named : ∀ c ∈ (Name.localPart rootName).toList, isSolid c = true)
    (unbroken : ∀ uri ∈ target, '\n' ∉ uri.toList) :
    ∀ tag ∈ (s.layout rootName target).tags, IsRowTag tag := by
  refine List.forall_mem_cons.mpr ⟨isRowTag_head unbroken, fun tag mem => ?_⟩
  have writes : s.Writes rootName target tag := writes_of_mem_tags mem
  refine isRowTag_of_mem_shapes (List.mem_append_right _ writes.mem_innerShapes) fun a at_tag bad => ?_
  exact (writes.held closed solid named a at_tag '\n' bad).2 (.head _)

/-- The rows of a written schema. -/
def rows (s : Schema) (rootName : String) (target : Option String) : List (List Char) :=
  ((s.layout rootName target).lines 0).map Line.row

/-- The last row of a schema closes it. -/
lemma exists_rows_eq_concat (s : Schema) (rootName : String) (target : Option String) :
    ∃ front, s.rows rootName target = front ++ ["</xs:schema>".toList] := by
  rw [rows, layout, Layout.lines, List.map_append]
  exact ⟨_, rfl⟩

/-- The text of a schema that is inferred from a sample is laid out canonically: a declaration and one
row for each tag, the last of which closes the schema, so that the text ends with that tag and one line
end. -/
theorem infer_laidOut {limits limits' : Limits} {scope : Scope} {xml : String} {root : Element}
    {s : Schema} (parsed : Sample.parse limits xml = .ok root)
    (inferred : Schema.infer scope limits' root = .ok s)
    (unbroken : ∀ uri ∈ s.targetNamespace, '\n' ∉ uri.toList) :
    ∃ rows, LaidOut s.xsd.toList rows ∧ rows.getLast? = some "</xs:schema>".toList ∧
      ∃ front, s.xsd.toList = front ++ "</xs:schema>\n".toList := by
  obtain rfl := eq_described_of_infer inferred
  have fine := isRowTag_of_mem_tags (closed_described scope root)
    (solid_described (Sample.named_of_parse parsed) scope) (Sample.isSolid_root_of_parse parsed)
    unbroken
  have laidOut : LaidOut (described scope root).xsd.toList
      ((described scope root).rows root.name root.namespace?) := Layout.laidOut_document fine
  obtain ⟨front, last⟩ := (described scope root).exists_rows_eq_concat root.name root.namespace?
  refine ⟨_, laidOut, ?_, ?_⟩
  · rw [last, List.getLast?_concat]
  · rw [laidOut.whole, last, ← List.cons_append, List.flatMap_append]
    exact ⟨_, congrArg _ (by decide)⟩

/-- A sample whose target namespace has to be escaped, and whose schema has a mixed type, a value with an
attribute, and an empty type. -/
theorem infer_laidOut_varied :
    let xml := "<o:a xmlns:o='urn:&lt;o&gt;'>text<b n='1'>x</b><c/><c><b/></c></o:a>"
    ∃ root s, Sample.parse {} xml = .ok root ∧ Schema.infer .parent {} root = .ok s ∧
      (∀ uri ∈ s.targetNamespace, '\n' ∉ uri.toList) ∧
      ∃ rows, LaidOut s.xsd.toList rows ∧ rows.getLast? = some "</xs:schema>".toList ∧
        ∃ front, s.xsd.toList = front ++ "</xs:schema>\n".toList := by
  intro xml
  let c : Conversion := { scope := .parent }
  have namespaced : (c.infer xml).map Schema.targetNamespace = .ok (some "urn:<o>") := by
    decide +kernel
  cases read : c.infer xml with
  | error e => rw [read] at namespaced; cases namespaced
  | ok s =>
    rw [read] at namespaced
    obtain ⟨-, root, parsed, inferred⟩ := Conversion.infer_eq_ok_iff.mp read
    have unbroken : ∀ uri ∈ s.targetNamespace, '\n' ∉ uri.toList := by
      rw [Except.ok.inj namespaced]
      exact fun uri mem => Option.mem_some.mp mem ▸ by decide
    exact ⟨root, s, parsed, inferred, unbroken, infer_laidOut parsed inferred unbroken⟩

end Schema

end XsdInfer
