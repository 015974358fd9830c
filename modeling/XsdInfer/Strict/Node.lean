import XsdInfer.Namespace
import XsdInfer.Strict.Reading
import XsdInfer.Strict.Reference

/-!
# Trees of a document

The tokens of a document make a tree of elements whose names are resolved: each element and each
attribute has a local name and perhaps a namespace, and each element knows the declarations that are
in force at it. Character data is checked and left out.
-/

namespace XsdInfer.Strict

/-- What prefixes stand for, and names without one, the nearest declaration first. -/
abbrev Scopes := List (Option String × String)

/-- The attribute of an element. -/
structure Attribute where
  localName : String
  uri : Option String
  value : String
deriving DecidableEq, Repr

/-- An element of a document. -/
structure Node where
  localName : String
  uri : Option String
  attributes : List Attribute := []
  /-- The declarations in force at the element. -/
  scopes : Scopes := []
  children : List Node := []

namespace Node

/-- The value of the attribute with a name that is in no namespace. -/
def attribute? (n : Node) (name : String) : Option String :=
  (n.attributes.find? fun a => a.uri.isNone && a.localName == name).map (·.value)

/-- The namespace that a prefix, or the lack of one, stands for at the element. -/
def uriOf? (n : Node) (pre : Option String) : Option String :=
  n.scopes.lookup pre

mutual

/-- Visits an element and all below it in document order. -/
def foldl {σ : Type} (visit : σ → Node → σ) (s : σ) : Node → σ
  | ⟨localName, uri, attributes, scopes, children⟩ =>
    foldlAll visit (visit s ⟨localName, uri, attributes, scopes, children⟩) children

/-- Visits the elements of a list one after another. -/
def foldlAll {σ : Type} (visit : σ → Node → σ) (s : σ) : List Node → σ
  | [] => s
  | n :: ns => foldlAll visit (foldl visit s n) ns

end

/-- An element and all below it in document order. -/
def all (n : Node) : List Node :=
  (n.foldl (fun found n => n :: found) []).reverse

end Node

/-- An attribute whose name is not resolved yet. -/
structure PendingAttribute where
  name : QName
  value : String
  place : Place
deriving DecidableEq, Repr

/-- A tag that is being read: its attributes so far from the last on, and the declarations that it
makes, the first one first. -/
structure PendingTag where
  name : QName
  place : Place
  attributes : List PendingAttribute := []
  declared : Scopes := []
deriving DecidableEq, Repr

/-- The local part of names that declare the namespace of names without prefix, and the qualifier of
names that declare a prefix. -/
def declarer : String :=
  "xmlns"

namespace PendingTag

def checkXmlns (place : Place) (uri : String) : Except Fault Unit :=
  if uri = Namespace.xmlns then .error (.reservedXmlns place) else .ok ()

/-- Refuses to declare the namespace of `xml` for anything else. -/
def checkXml (place : Place) (uri : String) : Except Fault Unit :=
  if uri = Namespace.xml then .error (.reservedXml place) else .ok ()

/-- Declares a prefix. The prefix `xml` has its namespace already, and keeps it. -/
def declare (t : PendingTag) (pre uri : String) (place : Place) : Except Fault PendingTag := do
  checkXmlns place uri
  if pre = "xml" then
    if uri = Namespace.xml then return t else throw (.rebound place)
  checkXml place uri
  if (t.declared.lookup (some pre)).isSome then throw (.repeatedPrefix pre place)
  return { t with declared := t.declared ++ [(some pre, uri)] }

def declareUnprefixed (t : PendingTag) (uri : String) (place : Place) :
    Except Fault PendingTag := do
  checkXml place uri
  checkXmlns place uri
  return { t with declared := t.declared ++ [(none, uri)] }

/-- Adds what is written as an attribute: a declaration, or an attribute. -/
def add (t : PendingTag) (name : QName) (value : String) (place : Place) :
    Except Fault PendingTag :=
  if name.qualifier = declarer then t.declare name.localPart value place
  else if name.localPart = declarer then t.declareUnprefixed value place
  else .ok { t with attributes := ⟨name, value, place⟩ :: t.attributes }

/-- The declarations in force behind the tag, inside those around it: its own, and then those that
it does not repeat. -/
def scopes (t : PendingTag) (around : Scopes) : Scopes :=
  t.declared ++ around.filter fun d => (t.declared.lookup d.1).isNone

/-- The namespace of a prefix that is not empty. -/
def resolvePrefix (scopes : Scopes) (pre : String) (place : Place) : Except Fault String :=
  match scopes.lookup (some pre) with
  | some uri => .ok uri
  | none => .error (.unknownPrefix pre place)

/-- The namespace of an attribute. One without a prefix is in none. -/
def attributeUri (scopes : Scopes) (a : PendingAttribute) : Except Fault (Option String) :=
  if a.name.qualifier = "xml" then .ok (some Namespace.xml)
  else if a.name.qualifier = "" then .ok none
  else (resolvePrefix scopes a.name.qualifier a.place).map some

def elementUri (scopes : Scopes) (t : PendingTag) : Except Fault (Option String) :=
  if t.name.qualifier = "" then .ok (scopes.lookup none)
  else (resolvePrefix scopes t.name.qualifier (t.place.advance '<')).map some

/-- Resolves an attribute behind others, which may not have the same name in the same namespace. -/
def resolveAttribute (scopes : Scopes) (done : List Attribute) (a : PendingAttribute) :
    Except Fault (List Attribute) := do
  let uri ← attributeUri scopes a
  if done.any fun b => b.uri == uri && b.localName == a.name.localPart then
    throw (.repeatedAttribute a.name.localPart a.place)
  return done ++ [⟨a.name.localPart, uri, a.value⟩]

/-- The element that the tag starts, inside the declarations around it. -/
def node (t : PendingTag) (around : Scopes) : Except Fault Node := do
  let scopes := t.scopes around
  let attributes ← t.attributes.reverse.foldlM (resolveAttribute scopes) []
  let uri ← elementUri scopes t
  return { localName := t.name.localPart, uri, attributes, scopes }

end PendingTag

/-- An open element: its name as written, what is known of it without its children, and its children
so far from the last on. -/
structure Frame where
  name : QName
  node : Node
  children : List Node := []

def Frame.close (f : Frame) : Node :=
  { f.node with children := f.children.reverse }

/-- A tree in the making: the tag that is being read, the open elements from the innermost on, and
the root, once it is closed. -/
structure Tree where
  tag : Option PendingTag := none
  stack : List Frame := []
  root : Option Node := none

namespace Tree

/-- The declarations in force at the innermost open element. -/
def scopes (t : Tree) : Scopes :=
  match t.stack with
  | f :: _ => f.node.scopes
  | [] => []

/-- Puts a complete element into its place. -/
def attach (t : Tree) (n : Node) : Tree :=
  match t.stack with
  | f :: rest => { t with stack := { f with children := n :: f.children } :: rest }
  | [] => { t with root := some n }

def startTag (t : Tree) (name : QName) (place : Place) : Except Fault Tree :=
  if name.qualifier = declarer then .error (.declarationElement (place.advance '<'))
  else .ok { t with tag := some { name, place } }

/-- Adds an attribute to the tag that is being read. -/
def addAttribute (t : Tree) (name : QName) (value : Written) (place : Place) :
    Except Fault Tree := do
  match t.tag with
  | some tag =>
    let chars ← resolve value.place value.chars
    return { t with tag := some (← tag.add name (String.ofList chars) place) }
  | none => return t

/-- Ends the tag that is being read, and opens its element or puts it into its place. -/
def endTag (t : Tree) (opened : Bool) : Except Fault Tree := do
  match t.tag with
  | some tag =>
    let node ← tag.node t.scopes
    let t := { t with tag := none }
    return if opened then { t with stack := ⟨tag.name, node, []⟩ :: t.stack } else t.attach node
  | none => return t

/-- Closes the innermost open element, which has to have the given name. -/
def close (t : Tree) (name : QName) (place : Place) : Except Fault Tree :=
  match t.stack with
  | f :: rest =>
    if f.name = name then .ok ({ t with stack := rest }.attach f.close)
    else .error (.mismatched f.name.text name.text place)
  | [] => .ok t

def step (t : Tree) : Token → Except Fault Tree
  | .tag name place => t.startTag name place
  | .attr name value place => t.addAttribute name value place
  | .opened => t.endTag true
  | .empty => t.endTag false
  | .close name place => t.close name place
  | .text data => (resolve data.place data.chars).map fun _ => t
  | .aside => .ok t

def finish (t : Tree) : Except Fault Node :=
  match t.stack, t.root with
  | _ :: _, _ => .error .openRoot
  | [], some root => .ok root
  | [], none => .error .noRoot

end Tree

/-- The root element of a document. -/
def parse (text : String) : Except Fault Node := do
  let tokens := read text.toList
  let t ← tokens.found.foldlM Tree.step {}
  match tokens.fault with
  | some fault => .error fault
  | none => t.finish

end XsdInfer.Strict
