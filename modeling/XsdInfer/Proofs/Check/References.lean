import XsdInfer.Check
import XsdInfer.Proofs.Layout.Tags
import XsdInfer.Proofs.Schema.Closed
import XsdInfer.Schema.Xsd

/-!
# References in written schemas

In a written schema, a type is referred to by the name of a primitive type or of a definition
(`IsReference`). Main statement: read strictly, below the declarations of the written schema, each
reference comes to the type that it names (`resolve_of_isReference`).
-/

namespace XsdInfer

open Strict (Scopes Node isXmlChar normalText scopesIn tagNode)
open Name (isSolid)

/-- A target namespace that a document may declare for a prefix of its own, and that is not the
vocabulary of schemas. -/
structure IsTarget (uri : String) : Prop where
  held : ∀ c ∈ uri.toList, isXmlChar c = true
  vocabulary : uri ≠ Namespace.xsd
  reserved : uri ≠ Namespace.xml ∧ uri ≠ Namespace.xmlns

/-- A namespace that a document may declare for a prefix of its own. -/
structure IsDeclarable (uri : String) : Prop where
  held : ∀ c ∈ uri.toList, isXmlChar c = true
  reserved : uri ≠ Namespace.xml ∧ uri ≠ Namespace.xmlns

/-- A target namespace can be declared. -/
lemma IsTarget.isDeclarable {uri : String} (h : IsTarget uri) : IsDeclarable uri :=
  ⟨h.held, h.reserved⟩

/-- The name of a definition as a reference. -/
def definitionReference (target : Option String) (name : String) : String :=
  match target with
  | some _ => Namespace.target ++ ":" ++ name
  | none => name

/-- A reference of a schema that defines types of given names. -/
inductive IsReference (target : Option String) (defined : List String) : String → Prop where
  | primitive (p : Primitive) : IsReference target defined p.reference
  | definition {name : String} (mem : name ∈ defined) :
      IsReference target defined (definitionReference target name)

/-- The declarations of a written schema. -/
def schemaScopes (target : Option String) : Scopes :=
  scopesIn [] (Schema.headAttributes target)

/-! ## Declarations -/

/-- The namespace of the vocabulary has no character that is changed by reading. -/
lemma normalText_xsd : normalText Namespace.xsd = Namespace.xsd := by
  decide

/-- The first attribute of a schema declares the prefix of the vocabulary. -/
lemma declares?_xsd :
    Strict.declares? ("xmlns:xs", Namespace.xsd) = some (some "xs", Namespace.xsd) := by
  have prefixed : Sample.Collected.declaredPrefix? "xmlns:xs" = some "xs" :=
    Sample.Collected.declaredPrefix?_prefixed "xs"
  rw [Strict.declares?_eq_some prefixed, normalText_xsd]

/-- Without a target, the prefix of the vocabulary is all that is declared. -/
lemma schemaScopes_none : schemaScopes none = [(some "xs", Namespace.xsd)] := by
  simp [schemaScopes, scopesIn, Schema.headAttributes, declares?_xsd]

/-- With a target, its prefix is declared too. -/
lemma schemaScopes_some (uri : String) :
    schemaScopes (some uri) =
      [(some "xs", Namespace.xsd), (some Namespace.target, normalText uri)] := by
  have target := Strict.declares?_eq_none
    (show Sample.Collected.declaredPrefix? "targetNamespace" = none by decide) uri
  have form := Strict.declares?_eq_none
    (show Sample.Collected.declaredPrefix? "elementFormDefault" = none by decide) "qualified"
  have tns := Strict.declares?_eq_some (Sample.Collected.declaredPrefix?_prefixed Namespace.target)
  simp [schemaScopes, scopesIn, Schema.headAttributes, declares?_xsd, target, form, tns]

/-- The prefix of the vocabulary is bound with and without a target. -/
lemma lookup_schemaScopes (target : Option String) :
    (schemaScopes target).lookup (some "xs") = some Namespace.xsd := by
  cases target with
  | none => rw [schemaScopes_none]; rfl
  | some uri => rw [schemaScopes_some]; rfl

/-! ## Characters of references -/

/-- A solid character may stand in an attribute, is not changed by reading, and is no colon. -/
lemma isXmlChar_of_isSolid {c : Char} (h : isSolid c = true) :
    isXmlChar c = true ∧ c ∉ ['\n', '\r', '\t'] ∧ c ≠ ':' := by
  have both : isXmlChar c = true ∧ c ∉ [':', ' ', '\t', '\n', '\r'] := by
    simpa only [isSolid, Bool.and_eq_true, decide_eq_true_eq] using h
  simp only [List.mem_cons, List.not_mem_nil, or_false, not_or] at both ⊢
  exact ⟨both.1, ⟨both.2.2.2.2.1, both.2.2.2.2.2, both.2.2.2.1⟩, both.2.1⟩

/-- A name of solid characters has no colon. -/
lemma no_colon_of_solid {name : String} (solid : ∀ c ∈ name.toList, isSolid c = true) :
    ':' ∉ name.toList :=
  fun mem => (isXmlChar_of_isSolid (solid ':' mem)).2.2 rfl

variable {target : Option String} {defined : List String} {r : String}

/-- A reference holds what a document may hold, and nothing that counts as something else. -/
lemma IsReference.held (h : IsReference target defined r)
    (solid : ∀ name ∈ defined, ∀ c ∈ name.toList, isSolid c = true) :
    ∀ c ∈ r.toList, isXmlChar c = true ∧ c ∉ ['\n', '\r', '\t'] := by
  cases h with
  | primitive p => cases p <;> decide
  | @definition name mem =>
    have inside (c : Char) (at_c : c ∈ name.toList) : isXmlChar c = true ∧ c ∉ ['\n', '\r', '\t'] :=
      (isXmlChar_of_isSolid (solid name mem c at_c)).imp_right And.left
    have front : ∀ c ∈ (Namespace.target ++ ":").toList,
        isXmlChar c = true ∧ c ∉ ['\n', '\r', '\t'] := by decide
    cases target with
    | none => exact inside
    | some uri =>
      intro c at_c
      rw [definitionReference, String.toList_append] at at_c
      exact (List.mem_append.mp at_c).elim (front c) (inside c)

/-! ## Outcomes -/

namespace Check

open Name (split)

/-- A reference to a type that is defined is resolved to it. -/
lemma resolve_definitionReference {n : Node} (scopes : n.scopes = schemaScopes target)
    (fits : ∀ uri ∈ target, IsTarget uri) {name : String} (mem : name ∈ defined)
    (solid : ∀ c ∈ name.toList, isSolid c = true) :
    resolve (target.map normalText) defined n (definitionReference target name) =
      .defined name := by
  have colon := no_colon_of_solid solid
  cases target with
  | none =>
    have parts : split name = (none, name) := Name.split_of_no_colon colon
    have uri : n.uriOf? none = none := by
      rw [Strict.Node.uriOf?, scopes, schemaScopes_none]
      rfl
    simp [resolve, definitionReference, parts, uri, mem]
  | some uri =>
    have parts : split (Namespace.target ++ ":" ++ name) = (some Namespace.target, name) :=
      Name.split_append (by decide) name
    have known : n.uriOf? (some Namespace.target) = some (normalText uri) := by
      rw [Strict.Node.uriOf?, scopes, schemaScopes_some]
      rfl
    -- Otherwise the reference would be one to a type that is built in.
    have apart : normalText uri ≠ Namespace.xsd :=
      fun same => (fits uri rfl).vocabulary (Strict.eq_of_normalText same (by decide))
    simp [resolve, definitionReference, parts, known, apart, mem]

/-- A reference to a primitive is resolved to a built-in type. -/
lemma resolve_primitive {n : Node} (scopes : n.scopes = schemaScopes target) (p : Primitive) :
    resolve (target.map normalText) defined n p.reference = .builtIn := by
  have parts : split p.reference = (some "xs", p.name) := by cases p <;> decide
  have uri : n.uriOf? (some "xs") = some Namespace.xsd := by
    rw [Strict.Node.uriOf?, scopes, lookup_schemaScopes]
  have known : isBuiltIn p.name = true := by rw [isBuiltIn, Primitive.ofName?_name]; rfl
  simp [resolve, parts, uri, known]

/-- Each reference comes to the type that it names. -/
theorem resolve_of_isReference {n : Node} (scopes : n.scopes = schemaScopes target)
    (fits : ∀ uri ∈ target, IsTarget uri)
    (solid : ∀ name ∈ defined, ∀ c ∈ name.toList, isSolid c = true)
    (h : IsReference target defined r) :
    resolve (target.map normalText) defined n r = .builtIn ∨
      ∃ name ∈ defined, resolve (target.map normalText) defined n r = .defined name := by
  cases h with
  | primitive p => exact .inl (resolve_primitive scopes p)
  | @definition name mem =>
    exact .inr ⟨name, mem, resolve_definitionReference scopes fits mem (solid name mem)⟩

end Check

end XsdInfer
