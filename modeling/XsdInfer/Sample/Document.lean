import XsdInfer.Sample.Opening
import XsdInfer.Sample.Reading

/-!
# Documents

The events of a sample make a tree. Elements that are open at a point stand on a stack; an element
that is closed becomes the last child of the one around it, or the root. A document has one root,
leaves nothing open, and has nothing but blanks outside of the root.
-/

namespace XsdInfer.Sample

/-- An open element: what is known of it so far, without children; the declarations of it and the
elements around it, from its own on; and its children so far from the last on. -/
structure Frame where
  element : Element
  scopes : List Namespace.Declarations
  children : List Element := []

def Frame.close (f : Frame) : Element :=
  { f.element with children := f.children.reverse }

/-- A document in the making: the open elements from the innermost on, and the root, once it is
closed. -/
structure Draft where
  stack : List Frame := []
  root : Option Element := none

namespace Draft

/-- The declarations of the open elements from the innermost on. -/
def scopes (d : Draft) : List Namespace.Declarations :=
  match d.stack with
  | f :: _ => f.scopes
  | [] => []

/-- Puts a complete element into its place. -/
def attach (d : Draft) (e : Element) : Except Problem Draft :=
  match d.stack with
  | f :: rest => .ok { d with stack := { f with children := e :: f.children } :: rest }
  | [] => if d.root.isSome then .error .manyRoots else .ok { d with root := some e }

/-- Adds character data to the innermost open element. -/
def addText (d : Draft) (data : List Char) : Except Problem Draft :=
  match d.stack with
  | f :: rest => .ok { d with stack := { f with element := f.element.appendText data } :: rest }
  | [] => if data.all Text.isBlank then .ok d else .error .textOutside

/-- Opens an element; a second root is refused before its tag is looked at. -/
def push (limits : Limits) (d : Draft) (tag : Tag) : Except Failure Draft := do
  if d.stack.isEmpty && d.root.isSome then throw (.problem .manyRoots)
  let e ← openTag limits d.scopes tag
  (limits.check .depth (d.stack.length + 1)).mapError .breach
  return { d with stack := ⟨e, e.namespaces :: d.scopes, []⟩ :: d.stack }

/-- Opens an element and closes it at once. -/
def pushEmpty (limits : Limits) (d : Draft) (tag : Tag) : Except Failure Draft := do
  let e ← openTag limits d.scopes tag
  (limits.check .depth (d.stack.length + 1)).mapError .breach
  (d.attach e).mapError .problem

def pop (d : Draft) : Except Problem Draft :=
  match d.stack with
  | [] => .error .strayEnd
  | f :: rest => { d with stack := rest }.attach f.close

/-- Character data with references in it. -/
def addRawText (d : Draft) (raw : List Char) : Except Problem Draft :=
  match Reference.decode raw with
  | .ok data => d.addText data
  | .error fault => .error (.badText fault)

def step (limits : Limits) (d : Draft) : Event → Except Failure Draft
  | .start tag => d.push limits tag
  | .empty tag => d.pushEmpty limits tag
  | .stop => d.pop.mapError .problem
  | .text raw => (d.addRawText raw).mapError .problem
  | .cdata data => (d.addText data).mapError .problem
  | .aside => .ok d

/-- The draft after one more event, or the failure with the position of that event. -/
def stepAt (limits : Limits) (d : Draft) (e : Located) : Except (Failure × Option Nat) Draft :=
  (d.step limits e.event).mapError fun failure => (failure, some e.position)

/-- The root, if the draft is complete at the end of a text of `total` bytes. -/
def finish (total : Nat) (d : Draft) : Except (Failure × Option Nat) Element :=
  match d.stack with
  | f :: _ => .error (.problem (.unclosed f.element.name), some total)
  | [] =>
    match d.root with
    | some e => .ok e
    | none => .error (.problem .noRoot, none)

end Draft

/-- The document that a reading makes of a text of `total` bytes, or the failure with its offset. -/
def Reading.document (limits : Limits) (total : Nat) (r : Reading) :
    Except (Failure × Option Nat) Element := do
  let d ← r.events.foldlM (Draft.stepAt limits) {}
  match r.fault with
  | some (fault, position) => .error (.problem (.badMarkup fault), some position)
  | none => d.finish total

/-- The root element of a document. -/
def parse (limits : Limits) (xml : String) : Except Error Element :=
  let s := xml.toList
  ((read s).document limits (Text.width s)).mapError fun (failure, offset) =>
    failure.error (offset.map fun n => (Text.Location.ofOffset s n).text)

end XsdInfer.Sample
