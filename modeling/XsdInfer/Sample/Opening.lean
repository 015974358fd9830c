import XsdInfer.Element
import XsdInfer.Sample.Problem

/-!
# Opening a tag

A tag becomes an element without content. Declarations of namespaces are told from attributes by
name, wherever in the tag they stand. Attributes that tie the document to a schema are dropped:
those whose qualifier means the instance namespace by the nearest declaration around them.
-/

namespace XsdInfer.Sample

/-- What is collected from the attributes of a tag: its declarations, and the others from the last
on. -/
structure Collected where
  namespaces : Namespace.Declarations := {}
  plain : List (String × String) := []

namespace Collected

/-- The prefix that an attribute of this name declares. -/
def declaredPrefix? (name : String) : Option String :=
  (Text.behind? "xmlns:".toList name.toList).map String.ofList

def add (c : Collected) (name value : String) : Except Problem Collected :=
  if name = "xmlns" then .ok { c with namespaces := c.namespaces.declareUnprefixed value }
  else
    match declaredPrefix? name with
    | some pre => .ok { c with namespaces := c.namespaces.declare pre value }
    | none =>
      if Name.isQualified name then .ok { c with plain := (name, value) :: c.plain }
      else .error (.badAttributeName name)

def addRaw (c : Collected) (a : RawAttribute) : Except Problem Collected :=
  match Reference.decode a.raw with
  | .ok value => c.add a.name (String.ofList value)
  | .error fault => .error (.badValue a.name fault)

def ofTag (tag : Tag) : Except Problem Collected := do
  let c ← tag.attributes.foldlM addRaw {}
  match tag.fault with
  | some fault => .error (.badAttribute fault)
  | none => return c

end Collected

/-- The namespace that a prefix stands for by the nearest of some declarations. -/
def boundTo? (scopes : List Namespace.Declarations) (pre : String) : Option String :=
  scopes.findSome? (·.get? pre)

/-- Whether an attribute of this name ties the document to a schema. -/
def tiesToSchema (scopes : List Namespace.Declarations) (name : String) : Bool :=
  match Name.qualifier? name with
  | some pre => boundTo? scopes pre == some Namespace.xsi
  | none => false

/-- The name of a tag, which has to be one. -/
def checkName (name : String) : Except Problem Unit :=
  if Name.isQualified name then .ok () else .error (.badName name)

/-- The element that a tag opens inside others, whose declarations are given from the nearest on. -/
def openTag (limits : Limits) (around : List Namespace.Declarations) (tag : Tag) :
    Except Failure Element := do
  (checkName tag.name).mapError .problem
  let c ← (Collected.ofTag tag).mapError .problem
  (limits.check .namespaces c.namespaces.size).mapError .breach
  (limits.check .attributes c.plain.length).mapError .breach
  let kept := c.plain.reverse.filter fun a => !tiesToSchema (c.namespaces :: around) a.1
  let e : Element := { name := tag.name, namespaces := c.namespaces }
  return kept.foldl (fun e a => e.withAttribute a.1 a.2) e

end XsdInfer.Sample
