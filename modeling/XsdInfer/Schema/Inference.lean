import XsdInfer.Element
import XsdInfer.Limits
import XsdInfer.Name.Pool
import XsdInfer.Primitive.Lexical
import XsdInfer.Schema.Basic

/-!
# Inference

A schema is inferred in one walk over a sample. Each element is an observation of the type with its
key: its local name, and under the narrower of two scopes also that of its parent. A type declares
every attribute and every child that some observation has; an attribute or text that is observed
with different primitive types is a string; and a child may repeat if a single observation has two
of it. A type is entered into the ledger when its key is first met, which is at the parent.
-/

namespace XsdInfer

/-- What tells the types of elements apart. -/
inductive Scope where
  /-- The local name. -/
  | global
  /-- The local names of the element and its parent. -/
  | parent
deriving DecidableEq, Repr

/-- The scope with a given name, in any case of the ASCII letters, or the name in lower case. -/
def Scope.ofName (name : String) : Except String Scope :=
  let lower := String.ofList (name.toList.map Char.toLower)
  if lower = "global" then .ok global
  else if lower = "parent" then .ok parent
  else .error lower

/-- What is said of a name that no scope has, given in lower case. -/
def Scope.unknown (lower : String) : String :=
  s!"unknown type scope '{lower}', use: global, parent"

/-- The key of a type. -/
structure TypeKey where
  parent : Option String
  tag : String
deriving DecidableEq, Repr

namespace TypeKey

/-- The key of an element with a given local name, and that of its parent, if it has one. -/
def ofNames (scope : Scope) (parent : Option String) (tag : String) : TypeKey :=
  match scope with
  | .global => ⟨none, tag⟩
  | .parent => ⟨parent, tag⟩

/-- The key of an element below others, which are given from its parent on. -/
def ofPlace (scope : Scope) (path : List Element) (e : Element) : TypeKey :=
  ofNames scope (path.head?.map Element.localName) e.localName

/-- The name that the type would have by its key alone. -/
def baseName (k : TypeKey) : String :=
  match k.parent with
  | some parent => Name.scopedTypeName parent k.tag
  | none => Name.typeName k.tag

end TypeKey

/-- A child as observed: the place of its type, and whether it was seen to repeat. -/
structure ChildEvidence where
  target : Nat
  repeated : Bool
deriving DecidableEq, Repr

/-- What was observed of a type. -/
structure Evidence where
  attributes : Table String Primitive := {}
  children : Table String ChildEvidence := {}
  /-- The common type of the texts, where a missing text counts as the empty one. -/
  text : Option Primitive := none
  hasText : Bool := false
deriving DecidableEq, Repr

namespace Element

/-- The local names of the children with the number of children of each. -/
def childCounts (e : Element) : Table String Nat :=
  e.children.foldl (fun t c => t.alter c.localName fun n => n.getD 0 + 1) {}

/-- The type of the text, where a missing text counts as the empty one. -/
def textType (e : Element) : Primitive :=
  Primitive.infer (e.text.getD "")

end Element

/-- The common type of the observations so far and one more. -/
def Primitive.join (observed : Primitive) (soFar : Option Primitive) : Primitive :=
  match soFar with
  | some t => t.unify observed
  | none => observed

namespace Evidence

/-- The evidence with an attribute of an element added. -/
def seeAttribute (attributes : Table String Primitive) (a : String × String) :
    Table String Primitive :=
  attributes.alter (Name.localPart a.1) (Primitive.join (Primitive.infer a.2))

/-- The evidence with the children of one name of an element added. A child keeps the place of its
type from its first observation. -/
def seeChildren (placeOf : String → Nat) (children : Table String ChildEvidence)
    (c : String × Nat) : Table String ChildEvidence :=
  children.alter c.1 fun
    | some v => { v with repeated := v.repeated || decide (1 < c.2) }
    | none => ⟨placeOf c.1, decide (1 < c.2)⟩

/-- The evidence with one more element added. The places of the types of its children are given by
their names. -/
def see (placeOf : String → Nat) (e : Element) (v : Evidence) : Evidence where
  attributes := e.attributes.entries.foldl seeAttribute v.attributes
  children := e.childCounts.entries.foldl (seeChildren placeOf) v.children
  text := some (Primitive.join e.textType v.text)
  hasText := v.hasText || e.hasText

/-- Whether the evidence shows attributes or children. -/
def kind (v : Evidence) : Kind :=
  if v.attributes.entries.isEmpty && v.children.entries.isEmpty then .simple else .complex

/-- The primitive type that the evidence shows: that of the value of a simple type, or of the text
of a type that has attributes and text but no children. -/
def primitive? (v : Evidence) : Option Primitive :=
  match v.kind with
  | .simple => some (v.text.getD .string)
  | .complex => if v.children.entries.isEmpty && v.hasText then v.text else none

/-- The declaration of an observed child. Its absence is never ruled out. -/
def declaration (c : ChildEvidence) : ChildDeclaration :=
  ⟨c.target, 0, if c.repeated then .unbounded else .bounded 1⟩

def schemaType (tag typeName : String) (v : Evidence) : SchemaType where
  name := tag
  typeName := typeName
  kind := v.kind
  primitive := v.primitive?
  attributes := v.attributes
  children := ⟨v.children.entries.map fun (name, c) => (name, declaration c)⟩
  isMixed := v.kind == .complex && v.hasText && !v.children.entries.isEmpty

end Evidence

/-- A type of the ledger: its key, its name, and what was observed of it. -/
structure Entry where
  key : TypeKey
  typeName : String
  evidence : Evidence := {}
deriving DecidableEq, Repr

/-- The types met so far in the order in which they were met, and the names given to them. -/
structure Ledger where
  entries : List Entry := []
  names : Name.Pool := {}
deriving DecidableEq, Repr

namespace Ledger

def has (l : Ledger) (k : TypeKey) : Bool :=
  l.entries.any (·.key == k)

/-- The place of the type with a given key. -/
def placeOf (l : Ledger) (k : TypeKey) : Nat :=
  l.entries.findIdx (·.key == k)

/-- Enters a type, unless there is one with its key. -/
def enter (limits : Limits) (l : Ledger) (k : TypeKey) : Except Breach Ledger :=
  if l.has k then .ok l
  else do
    limits.check .types (l.entries.length + 1)
    let (typeName, names) := l.names.assign k.baseName
    return ⟨l.entries ++ [{ key := k, typeName }], names⟩

/-- Renews the evidence of the type with a given key. -/
def update (l : Ledger) (k : TypeKey) (f : Evidence → Evidence) : Ledger :=
  { l with entries := l.entries.map fun x =>
      if x.key = k then { x with evidence := f x.evidence } else x }

/-- Enters the types of the children of an element, and then adds the element to the evidence of its
own type. -/
def observe (scope : Scope) (limits : Limits) (l : Ledger) (path : List Element) (e : Element) :
    Except Breach Ledger := do
  let childKey := TypeKey.ofNames scope (some e.localName)
  let l ← (e.childCounts.keys.map childKey).foldlM (enter limits) l
  return l.update (.ofPlace scope path e) (Evidence.see (fun name => l.placeOf (childKey name)) e)

def ofRoot (scope : Scope) (limits : Limits) (root : Element) : Except Breach Ledger :=
  root.walk (fun l path e => l.bind fun l => l.observe scope limits path e) []
    (({} : Ledger).enter limits (.ofPlace scope [] root))

def types (l : Ledger) : List SchemaType :=
  l.entries.map fun x => x.evidence.schemaType x.key.tag x.typeName

end Ledger

/-- The schema of a sample. -/
def Schema.infer (scope : Scope) (limits : Limits) (root : Element) : Except Breach Schema := do
  let l ← Ledger.ofRoot scope limits root
  return ⟨root.name, root.namespace?, 0, l.types⟩

end XsdInfer
