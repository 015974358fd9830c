import XsdInfer.Name.Basic
import XsdInfer.Namespace

/-!
# Elements

A sample document is a tree of elements. An element keeps the order of its attributes and of its
children, since both decide the order in which a schema declares them; of the character data it
keeps one trimmed text.
-/

namespace XsdInfer

/-- An element of a sample document. -/
structure Element where
  /-- The name as written, with its qualifier. -/
  name : String
  /-- The attributes; declarations of namespaces and ties to a schema are not among them. -/
  attributes : Table String String := {}
  /-- The character data directly inside the element, trimmed; nothing, if all of it is blank. -/
  text : Option String := none
  children : List Element := []
  /-- The namespaces that the element declares itself. -/
  namespaces : Namespace.Declarations := {}

namespace Element

def localName (e : Element) : String :=
  Name.localPart e.name

def qualifier? (e : Element) : Option String :=
  Name.qualifier? e.name

/-- The namespace of the element by its own declarations. -/
def namespace? (e : Element) : Option String :=
  e.namespaces.ofElement e.qualifier?

def attribute? (e : Element) (name : String) : Option String :=
  e.attributes.get? name

def childrenNamed (e : Element) (name : String) : List Element :=
  e.children.filter (·.name == name)

/-- Whether the element has text of its own. -/
def hasText (e : Element) : Bool :=
  e.text.isSome

/-- The element with one more attribute, or another value of an attribute. -/
def withAttribute (e : Element) (name value : String) : Element :=
  { e with attributes := e.attributes.insert name value }

def withText (e : Element) (text : String) : Element :=
  { e with text := some text }

/-- The element with one more child behind the others. -/
def withChild (e child : Element) : Element :=
  { e with children := e.children ++ [child] }

/-- The element with further character data: blank data is left out, and other data is trimmed and
set behind a space. -/
def appendText (e : Element) (data : List Char) : Element :=
  match Text.trim data with
  | [] => e
  | run =>
    match e.text with
    | none => e.withText (String.ofList run)
    | some text => e.withText (text ++ " " ++ String.ofList run)

mutual

/-- Visits an element and all below it in document order. The visitor sees the state so far, the
ancestors of the visited element from the nearest on, and the element. -/
def walk {σ : Type} (visit : σ → List Element → Element → σ) (path : List Element) (s : σ) :
    Element → σ
  | ⟨name, attributes, text, children, namespaces⟩ =>
    walkAll visit (⟨name, attributes, text, children, namespaces⟩ :: path)
      (visit s path ⟨name, attributes, text, children, namespaces⟩) children

/-- Visits the elements of a list one after another. -/
def walkAll {σ : Type} (visit : σ → List Element → Element → σ) (path : List Element) (s : σ) :
    List Element → σ
  | [] => s
  | e :: es => walkAll visit path (walk visit path s e) es

end

/-- An element and all below it in document order, each with its ancestors from the nearest on. -/
def places (e : Element) : List (List Element × Element) :=
  (e.walk (fun found path e => (path, e) :: found) [] []).reverse

mutual

/-- Whether two trees are the same, whatever the order of attributes and declarations. -/
def sameTree : Element → Element → Bool
  | ⟨name, attributes, text, children, namespaces⟩,
      ⟨name', attributes', text', children', namespaces'⟩ =>
    name == name' && attributes.sameMap attributes' && text == text'
      && namespaces.sameMap namespaces' && sameTrees children children'

def sameTrees : List Element → List Element → Bool
  | [], [] => true
  | e :: es, e' :: es' => sameTree e e' && sameTrees es es'
  | _, _ => false

end

end Element

end XsdInfer
