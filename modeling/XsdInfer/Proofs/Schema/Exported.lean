import XsdInfer.Proofs.Json.Unique
import XsdInfer.Schema.Json

/-!
# Schemas told from their export

Main statement: two schemas that are written as the same JSON text are the same, with all of their types
in order (`Schema.jsonText_inj`). The text tells the value of JSON, and the value tells the schema, since
each field has a member of its own, and no two bounds, types or kinds are written alike.
-/

namespace XsdInfer

/-- A kind is told from its name. -/
lemma Kind.name_inj {k l : Kind} : k.name = l.name ↔ k = l := by
  cases k <;> cases l <;> decide

/-- A primitive is told from its name. -/
lemma Primitive.name_inj {p q : Primitive} : p.name = q.name ↔ p = q := by
  constructor
  · intro same
    have found := congrArg ofName? same
    rw [ofName?_name, ofName?_name] at found
    exact Option.some.inj found
  · rintro rfl
    rfl

/-- A text that may be missing is told from its export. -/
lemma Json.ofString?_inj {s t : Option String} : Json.ofString? s = Json.ofString? t ↔ s = t := by
  cases s <;> cases t <;> simp [Json.ofString?]

/-- A bound is told from its export. -/
lemma MaxOccurs.json_inj {m n : MaxOccurs} : m.json = n.json ↔ m = n := by
  cases m <;> cases n <;> simp [MaxOccurs.json]

/-- The declaration of a child is told from its export. -/
lemma ChildDeclaration.json_inj {c d : ChildDeclaration} : c.json = d.json ↔ c = d := by
  obtain ⟨target, least, most⟩ := c
  obtain ⟨target', least', most'⟩ := d
  simp [ChildDeclaration.json, MaxOccurs.json_inj]

/-- Tables are told from what is written for their entries, keys and order included. -/
lemma Table.map_entries_inj {β : Type} {json : β → Json} (inj : ∀ {a b}, json a = json b ↔ a = b)
    {s t : Table String β} :
    s.entries.map (fun (name, v) => (name, json v)) = t.entries.map (fun (name, v) => (name, json v)) ↔
      s = t := by
  obtain ⟨l⟩ := s
  obtain ⟨l'⟩ := t
  have entry : Function.Injective fun (e : String × β) => (e.1, json e.2) := by
    intro e e' same
    obtain ⟨name, value⟩ := Prod.mk.inj same
    exact Prod.ext name (inj.mp value)
  rw [List.map_inj_right fun e e' same => entry same, Table.mk.injEq]

/-- A type is told from its export. -/
lemma SchemaType.json_inj {t u : SchemaType} : t.json = u.json ↔ t = u := by
  obtain ⟨name, typeName, kind, primitive, attributes, children, mixed⟩ := t
  obtain ⟨name', typeName', kind', primitive', attributes', children', mixed'⟩ := u
  have primitives : primitive.map Primitive.name = primitive'.map Primitive.name ↔ primitive = primitive' :=
    Option.map_inj_right fun p q => Primitive.name_inj.mp
  have written {p q : Primitive} : Json.string p.name = .string q.name ↔ p = q := by
    rw [Json.string.injEq, Primitive.name_inj]
  simp only [SchemaType.json, Json.object.injEq, List.cons.injEq, Prod.mk.injEq, Json.string.injEq,
    Json.bool.injEq, Kind.name_inj, Json.ofString?_inj, primitives, Table.map_entries_inj written,
    Table.map_entries_inj ChildDeclaration.json_inj, SchemaType.mk.injEq, true_and, and_true]

/-- A schema is told from the text of its export: its name and namespace, the place of the type of its root,
and all of its types in order, each with its names, kind, value type, attributes, children and bounds. -/
theorem Schema.jsonText_inj {s t : Schema} : s.jsonText = t.jsonText ↔ s = t := by
  obtain ⟨rootName, namespace?, root, types⟩ := s
  obtain ⟨rootName', namespace?', root', types'⟩ := t
  have listed : types.map SchemaType.json = types'.map SchemaType.json ↔ types = types' :=
    List.map_inj_right fun _ _ => SchemaType.json_inj.mp
  rw [Schema.jsonText, Schema.jsonText, Json.text_inj]
  simp only [Schema.json, Json.object.injEq, List.cons.injEq, Prod.mk.injEq, Json.string.injEq,
    Json.ofString?_inj, Json.number.injEq, Json.array.injEq, listed, Schema.mk.injEq, true_and, and_true]

end XsdInfer
