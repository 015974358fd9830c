/-!
# Limits

A conversion is bounded in five resources, so that a document that is too large or nested too
deeply fails early.
-/

namespace XsdInfer

/-- What a conversion may use up. -/
inductive Resource where
  /-- Nesting of elements. -/
  | depth
  /-- Bytes of the document. -/
  | size
  /-- Attributes of one element. -/
  | attributes
  /-- Namespace declarations of one element. -/
  | namespaces
  /-- Distinct types of the schema. -/
  | types
deriving DecidableEq, Repr

/-- How much of each resource one conversion may use. -/
structure Limits where
  depth : Nat := 1000
  size : Nat := 5 * 1024 * 1024
  attributes : Nat := 1000
  namespaces : Nat := 1000
  types : Nat := 100000
deriving DecidableEq, Repr

/-- A use of a resource beyond its limit. -/
structure Breach where
  resource : Resource
  used : Nat
  bound : Nat
deriving DecidableEq, Repr

def Breach.message (b : Breach) : String :=
  match b.resource with
  | .depth => s!"XML depth {b.used} exceeds maximum {b.bound}"
  | .size => s!"XML size {b.used} bytes exceeds maximum {b.bound} bytes"
  | .attributes => s!"Attribute count {b.used} exceeds maximum {b.bound}"
  | .namespaces => s!"Namespace count {b.used} exceeds maximum {b.bound}"
  | .types => s!"Schema type count {b.used} exceeds maximum {b.bound}"

namespace Limits

/-- Limits for documents from untrusted sources. -/
def strict : Limits :=
  ⟨100, 1024 * 1024, 100, 100, 10000⟩

/-- Limits for very large documents. -/
def permissive : Limits :=
  ⟨100000, 1024 * 1024 * 1024, 10000, 10000, 1000000⟩

def bound (l : Limits) : Resource → Nat
  | .depth => l.depth
  | .size => l.size
  | .attributes => l.attributes
  | .namespaces => l.namespaces
  | .types => l.types

def check (l : Limits) (r : Resource) (used : Nat) : Except Breach Unit :=
  if l.bound r < used then .error ⟨r, used, l.bound r⟩ else .ok ()

/-- A use is admitted if it stays within its bound. -/
theorem check_eq_ok_iff {l : Limits} {r : Resource} {used : Nat} :
    l.check r used = .ok () ↔ used ≤ l.bound r := by
  unfold check
  split <;> simp <;> omega

end Limits

end XsdInfer
