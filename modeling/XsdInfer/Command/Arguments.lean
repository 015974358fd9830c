import XsdInfer.Schema.Inference
import XsdInfer.Text.Cut

/-!
# Arguments

The arguments of the program name a command, its files and its options. An option has a long name
and often a letter; letters may share one argument, and a value may be attached or stand behind. An
option may be given once, and an argument that starts with a hyphen is never taken for a value or a
file, unless it stands behind two hyphens. Whatever does not fit is wrong usage, and then nothing is
done.

Arguments are read from left to right. The option that asks for help ends the reading: it answers
for whatever stands behind it, but not for wrong usage before it. What a command cannot do without
is missed only at the end.
-/

namespace XsdInfer.Command

/-- What the program is told to do. -/
inductive Task where
  /-- Writes the schema of a sample. -/
  | convert (file : String) (scope : Scope) (strict : Bool) (output : Option String)
  /-- Shows the types of a sample. -/
  | inspect (file : String) (scope : Scope) (json : Bool)
  /-- Guesses the format of a file. -/
  | detect (file : String)
  /-- Checks a schema, and perhaps a sample against it. -/
  | check (schema : String) (file : Option String)
deriving DecidableEq, Repr

/-- What is asked of the program. -/
inductive Request where
  | task (t : Task)
  | version
  | help
deriving DecidableEq, Repr

/-- What the value of an option says. -/
inductive ValueForm where
  | scope
  | path
deriving DecidableEq, Repr

/-- Whether a value may be given: a scope has to have that name, and no path is empty. -/
def ValueForm.admits : ValueForm → String → Bool
  | scope, v => (Scope.ofName v).toOption.isSome
  | path, v => v != ""

/-- An option: its long name, its letter, and its value, if it has one. -/
structure OptionForm where
  name : String
  letter : Option Char
  value : Option ValueForm
deriving DecidableEq, Repr

def commonForms : List OptionForm :=
  [⟨"verbose", some 'v', none⟩, ⟨"help", some 'h', none⟩]

/-- A part of the arguments of a command. -/
inductive Part where
  | flag (name : String)
  | setting (name value : String)
  | file (path : String)
  /-- Something that no command understands. -/
  | misuse
deriving DecidableEq, Repr

namespace Part

/-- Whether an argument starts with a hyphen and says more than that. -/
def isOption (a : String) : Bool :=
  a.toList.head? == some '-' && a != "-"

/-- The part that gives an option a value. -/
def ofValue (name : String) (form : ValueForm) (value : String) : Part :=
  if form.admits value then setting name value else misuse

/-- The parts of an argument, and the option whose value has to stand in the next one. -/
structure Reading where
  parts : List Part
  pending : Option (String × ValueForm) := none

/-- The reading of an argument that is nothing but one part. -/
def only (part : Part) : Reading :=
  { parts := [part] }

/-- Reads an argument with a long name behind its hyphens. -/
def ofLong (forms : List OptionForm) (a : List Char) : Reading :=
  let (name, attached) := match Text.cutAt '=' a with
    | some (name, value) => (String.ofList name, some (String.ofList value))
    | none => (String.ofList a, none)
  match (forms.find? (·.name == name)).map OptionForm.value, attached with
  | some (some form), some v => only (ofValue name form v)
  | some (some form), none => ⟨[], some (name, form)⟩
  | some none, none => only (flag name)
  | some none, some _ => only misuse
  | none, _ => only misuse

/-- A value that is attached to a letter, perhaps behind an equals sign. -/
def attachedValue : List Char → String
  | '=' :: v => String.ofList v
  | v => String.ofList v

/-- Reads an argument of letters behind its hyphen. -/
def ofLetters (forms : List OptionForm) : List Char → Reading
  | [] => ⟨[], none⟩
  | c :: rest =>
    match forms.find? (·.letter == some c) with
    | some ⟨name, _, none⟩ =>
      let r := ofLetters forms rest
      { r with parts := flag name :: r.parts }
    | some ⟨name, _, some form⟩ =>
      if rest.isEmpty then ⟨[], some (name, form)⟩
      else only (ofValue name form (attachedValue rest))
    | none => only misuse

/-- Reads an argument that starts with a hyphen. -/
def ofOption (forms : List OptionForm) (a : String) : Reading :=
  match a.toList with
  | '-' :: '-' :: name => ofLong forms name
  | _ :: letters => ofLetters forms letters
  | [] => only misuse

/-- The parts of the arguments of a command, where an option may wait for its value. -/
def ofArguments (forms : List OptionForm) (pending : Option (String × ValueForm)) :
    List String → List Part
  | [] => if pending.isSome then [misuse] else []
  | a :: rest =>
    if isOption a then
      if pending.isSome then [misuse]
      else if a = "--" then rest.map file
      else
        let r := ofOption forms a
        r.parts ++ ofArguments forms r.pending rest
    else
      match pending with
      | some (name, form) => ofValue name form a :: ofArguments forms none rest
      | none => file a :: ofArguments forms none rest

end Part

/-- The parts of the arguments of a command, sorted by what they are. -/
structure Parts where
  flags : List String := []
  values : List (String × String) := []
  file : Option String := none
deriving DecidableEq, Repr

namespace Parts

/-- Puts a part to those before it. An option is given once, but for the one that counts, and a
command has one file, which has a name. -/
def add (p : Parts) : Part → Option Parts
  | .flag name =>
    if name = "verbose" then some p
    else if p.flags.contains name then none
    else some { p with flags := name :: p.flags }
  | .setting name value =>
    if (p.values.lookup name).isSome then none
    else some { p with values := (name, value) :: p.values }
  | .file path =>
    if path = "" || p.file.isSome then none else some { p with file := some path }
  | .misuse => none

def has (p : Parts) (name : String) : Bool :=
  p.flags.contains name

def value? (p : Parts) (name : String) : Option String :=
  p.values.lookup name

/-- The scope that is given, or the wider one. -/
def scope? (p : Parts) : Option Scope :=
  match p.value? "scope" with
  | some name => (Scope.ofName name).toOption
  | none => some .global

end Parts

def scopeForm : OptionForm :=
  ⟨"scope", some 's', some .scope⟩

/-- The request of a command that has read some parts and has others ahead. Help is given as soon as
it is asked for. -/
def requestFrom (task : Parts → Option Task) (p : Parts) : List Part → Option Request
  | [] => (task p).map .task
  | part :: rest =>
    if part = .flag "help" then some .help
    else
      match p.add part with
      | some q => requestFrom task q rest
      | none => none

/-- The request of a command with given options beside those of all commands. -/
def request (forms : List OptionForm) (task : Parts → Option Task) (args : List String) :
    Option Request :=
  requestFrom task {} (Part.ofArguments (commonForms ++ forms) none args)

def convertRequest : List String → Option Request :=
  request [scopeForm, ⟨"strict", none, none⟩, ⟨"output", some 'o', some .path⟩] fun p => do
    return .convert (← p.file) (← p.scope?) (p.has "strict") (p.value? "output")

/-- Help that is asked for answers for a file too many behind it. -/
example : convertRequest ["a", "-h", "b"] = some .help := by decide +kernel

/-- A file too many comes before the help behind it. -/
example : convertRequest ["a", "b", "-h"] = none := by decide +kernel

def inspectRequest : List String → Option Request :=
  request [scopeForm, ⟨"json", some 'j', none⟩] fun p => do
    return .inspect (← p.file) (← p.scope?) (p.has "json")

def detectRequest : List String → Option Request :=
  request [] fun p => do return .detect (← p.file)

def checkRequest : List String → Option Request :=
  request [⟨"schema", some 's', some .path⟩] fun p => do
    return .check (← p.value? "schema") p.file

/-- What letters before the command ask for: `some none`, if they ask for nothing. -/
def leadingLetters : List Char → Option (Option Request)
  | [] => some none
  | 'v' :: rest => leadingLetters rest
  | 'V' :: _ => some (some .version)
  | 'h' :: _ => some (some .help)
  | _ => none

/-- What an option before the command asks for: `some none`, if it asks for nothing. -/
def leadingOption (a : String) : Option (Option Request) :=
  if a = "--verbose" then some none
  else if a = "--version" then some (some .version)
  else if a = "--help" then some (some .help)
  else leadingLetters (a.toList.drop 1)

/-- The names of the commands, among them the one that asks for help. -/
def commandNames : List String :=
  ["convert", "inspect", "detect", "check", "help"]

/-- The request of the command `help`, which may name one command. -/
def helpRequest (args : List String) : Option Request :=
  if args.all commandNames.contains && args.length ≤ 1 then some .help else none

/-- What the arguments ask for; nothing, if they are wrong usage. -/
def Request.ofArguments : List String → Option Request
  | [] => none
  | a :: rest =>
    if Part.isOption a then
      match leadingOption a with
      | some (some r) => some r
      | some none => Request.ofArguments rest
      | none => none
    else if a = "convert" then convertRequest rest
    else if a = "inspect" then inspectRequest rest
    else if a = "detect" then detectRequest rest
    else if a = "check" then checkRequest rest
    else if a = "help" then helpRequest rest
    else none

end XsdInfer.Command
