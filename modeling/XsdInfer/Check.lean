import XsdInfer.Primitive.Basic
import XsdInfer.Sample.Document
import XsdInfer.Strict.Node

/-!
# Checks

A check looks at the structure of a schema and does not validate documents: the schema has to be
well formed with the right root, define each complex type once, and define every type that it refers
to. A sample fits a schema if it is a document and the schema declares its root element at the top
level.
-/

namespace XsdInfer

/-- Something that a check finds. -/
inductive Finding where
  | malformedSample (e : Error)
  | malformedSchema (fault : Strict.Fault)
  | wrongRoot (name : String)
  | definedTwice (name : String)
  | undeclaredPrefix (reference pre : String)
  | unresolved (reference : String)
  | notBuiltIn (reference : String)
  | undeclaredRoot (name : String)
  | neverReferenced (name : String)
deriving DecidableEq, Repr

def Finding.message : Finding → String
  | malformedSample e => "Invalid XML format: " ++ e.text
  | malformedSchema fault => "Invalid XSD format: " ++ fault.message
  | wrongRoot name => s!"root element is '{name}', expected xs:schema"
  | definedTwice name => s!"complex type '{name}' is defined more than once"
  | undeclaredPrefix reference pre => s!"reference '{reference}' uses undeclared prefix '{pre}'"
  | unresolved reference => s!"reference '{reference}' does not resolve"
  | notBuiltIn reference => s!"'{reference}' is not a built-in XSD type"
  | undeclaredRoot name => s!"root element '{name}' is not declared in the schema"
  | neverReferenced name => s!"complex type '{name}' is never referenced"

/-- What a check finds: errors make the input unusable, warnings do not. -/
structure Report where
  errors : List Finding := []
  warnings : List Finding := []
deriving DecidableEq, Repr

namespace Report

def isValid (r : Report) : Bool :=
  r.errors.isEmpty

/-- The lines of a list of findings under a heading, with an empty line before it. -/
def findingLines (heading : String) (findings : List Finding) : List String :=
  "" :: heading :: findings.map fun f => "  - " ++ f.message

def lines (r : Report) : List String :=
  (if r.isValid then ["✓ No problems found"]
    else "✗ Problems found" :: findingLines "Errors:" r.errors)
    ++ (if r.warnings.isEmpty then [] else findingLines "Warnings:" r.warnings)

end Report

namespace Check

/-- The types built into XML Schema beyond those that a value can be given. -/
def otherBuiltIns : List String := [
  "anyType", "anySimpleType", "anyURI", "byte", "duration", "float", "gDay", "gMonth", "gMonthDay",
  "gYear", "gYearMonth", "hexBinary", "ID", "IDREF", "int", "language", "long", "Name", "NCName",
  "negativeInteger", "NMTOKEN", "nonNegativeInteger", "nonPositiveInteger", "normalizedString",
  "positiveInteger", "QName", "short", "token", "unsignedByte", "unsignedInt", "unsignedLong",
  "unsignedShort"]

/-- Whether a type of this name is built into XML Schema. -/
def isBuiltIn (name : String) : Bool :=
  (Primitive.ofName? name).isSome || otherBuiltIns.contains name

/-- The names that the top level of a schema gives to elements of its vocabulary of one kind. -/
def topLevel (schema : Strict.Node) (kind : String) : List String :=
  schema.children.filterMap fun n =>
    if n.uri = some Namespace.xsd ∧ n.localName = kind then n.attribute? "name" else none

/-- The names that stand in a list more than once, each at its second place. What stands before the
list is `seen`. -/
def repeats (seen : List String) : List String → List String
  | [] => []
  | n :: ns => if seen.count n = 1 then n :: repeats (n :: seen) ns else repeats (n :: seen) ns

/-- What a reference to a type comes to. -/
inductive Outcome where
  | builtIn
  | defined (name : String)
  | failed (f : Finding)
deriving DecidableEq, Repr

/-- Resolves a reference at an element of a schema that has a given target namespace and defines
complex types of given names. A reference without a prefix that is in no namespace means a type of
a schema without target namespace. -/
def resolve (target : Option String) (defined : List String) (n : Strict.Node)
    (reference : String) : Outcome :=
  let (pre, name) := Name.split reference
  match n.uriOf? pre with
  | none =>
    match pre with
    | some pre => .failed (.undeclaredPrefix reference pre)
    | none =>
      if name ∈ defined ∧ target = none then .defined name else .failed (.unresolved reference)
  | some uri =>
    if uri = Namespace.xsd then
      if isBuiltIn name then .builtIn else .failed (.notBuiltIn reference)
    else if some uri = target ∧ name ∈ defined then .defined name
    else .failed (.unresolved reference)

/-- The outcomes of the references at an element. -/
def outcomesAt (target : Option String) (defined : List String) (n : Strict.Node) : List Outcome :=
  (["type", "base"].filterMap n.attribute?).map (resolve target defined n)

/-- The name of the type that a reference comes to, if the schema defines it. -/
def Outcome.name? : Outcome → Option String
  | defined name => some name
  | _ => none

def Outcome.finding? : Outcome → Option Finding
  | failed f => some f
  | _ => none

/-- The report on a schema whose root is right. -/
def ofRoot (schema : Strict.Node) : Report :=
  let types := topLevel schema "complexType"
  let outcomes := schema.all.flatMap (outcomesAt (schema.attribute? "targetNamespace") types)
  let referenced := outcomes.filterMap Outcome.name?
  { errors := (repeats [] types).map .definedTwice ++ outcomes.filterMap Outcome.finding?
    warnings := (types.eraseDups.filter (!referenced.contains ·)).map .neverReferenced }

/-- The root of a schema, if the schema is well formed and its root is right. -/
def schemaRoot (xsd : String) : Except Finding Strict.Node :=
  match Strict.parse xsd with
  | .error fault => .error (.malformedSchema fault)
  | .ok root =>
    if root.localName = "schema" ∧ root.uri = some Namespace.xsd then .ok root
    else .error (.wrongRoot root.localName)

/-- The report on a schema. -/
def schema (xsd : String) : Report :=
  match schemaRoot xsd with
  | .ok root => ofRoot root
  | .error f => { errors := [f] }

/-- The findings about the root of a sample against a schema. -/
def rootFindings (xsd : String) (root : Element) : List Finding :=
  match schemaRoot xsd with
  | .ok schema =>
    if root.localName ∈ topLevel schema "element" then [] else [.undeclaredRoot root.localName]
  | .error _ => []

/-- The report on a sample and its schema. -/
def sample (xml xsd : String) : Report :=
  let r := schema xsd
  match Sample.parse {} xml with
  | .ok root => { r with errors := r.errors ++ rootFindings xsd root }
  | .error e => { r with errors := .malformedSample e :: r.errors }

end Check

end XsdInfer
