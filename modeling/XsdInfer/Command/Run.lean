import XsdInfer.Check
import XsdInfer.Command.Arguments
import XsdInfer.Command.Files
import XsdInfer.Conversion
import XsdInfer.Format
import XsdInfer.Schema.Json
import XsdInfer.Schema.Overview

/-!
# Running the program

A task reads its files, works on their texts, and then either is done or asks for one file to be
written. Nothing is shown or written before all the work has succeeded. The program answers with an
exit code: zero if all is well, one for an error or a failed check, two for wrong usage. An answer that
cannot be shown to its end has the code 101.

Left out are the lines of the log, so that the option `-v` has no effect, and the texts on how the program
is used and what is wrong with its arguments.
-/

namespace XsdInfer.Command

/-- The answer of the program: its exit code and what it shows. -/
structure Answer where
  code : Nat
  output : String := ""
  errors : String := ""
deriving DecidableEq, Repr

namespace Answer

def shown (text : String) : Answer :=
  { code := 0, output := text }

def failed (message : String) : Answer :=
  { code := 1, errors := s!"Error: {message}\n" }

/-- The answer to wrong usage. What is wrong is not said. -/
def misused : Answer :=
  { code := 2 }

def ofReport (r : Report) : Answer :=
  { code := if r.isValid then 0 else 1, output := String.join (r.lines.map (· ++ "\n")) }

end Answer

/-- What a task comes to. -/
inductive Outcome where
  | done (a : Answer)
  /-- A text is to be written to a file; the rest depends on that. -/
  | save (path text : String)

def programName : String :=
  "xml2xsd"

/-- The text that shows how the program is used. -/
def usage : String :=
  s!"Usage: {programName} [-v] convert|inspect|detect|check ...\n"

def conversion (scope : Scope) (strict : Bool) : Conversion :=
  { scope, limits := if strict then .strict else {} }

def readText (read : String → Except FileFault ByteArray) (path : String) : Except String String :=
  ((read path).bind textOf).mapError FileFault.message

def listing (s : Schema) : String :=
  String.join (((s!"{programName} v{Conversion.version}" :: "" :: s.overview)).map (· ++ "\n"))

/-- The listing of a schema as JSON, with members in order of their names. -/
def jsonListing (s : Schema) : String :=
  (Json.object [("summary", s.summaryJson), ("schema", s.json)]).sorted.text ++ "\n"

/-- Carries out a task, reading files by means of `read`. -/
def Task.run (read : String → Except FileFault ByteArray) : Task → Except String Outcome
  | .convert file scope strict output => do
    let xml ← readText read file
    let xsd ← ((conversion scope strict).convert xml).mapError Error.text
    match output with
    | some path => return .save path xsd
    | none => return .done (.shown xsd)
  | .inspect file scope json => do
    let xml ← readText read file
    let s ← ((conversion scope false).infer xml).mapError Error.text
    return .done (.shown (if json then jsonListing s else listing s))
  | .detect file => do
    let text ← readText read file
    return .done (.shown ((Format.detect text).name ++ "\n"))
  | .check schema none => do
    let xsd ← readText read schema
    return .done (.ofReport (Check.schema xsd))
  | .check schema (some file) => do
    let xsd ← readText read schema
    let xml ← readText read file
    return .done (.ofReport (Check.sample xml xsd))

def Task.inputs : Task → List String
  | .convert file _ _ _ => [file]
  | .inspect file _ _ => [file]
  | .detect file => [file]
  | .check schema file => schema :: file.toList

/-- What a request comes to, reading files by means of `read`. -/
def Request.run (read : String → Except FileFault ByteArray) : Request → Outcome
  | .task t =>
    match t.run read with
    | .ok o => o
    | .error message => .done (.failed message)
  | .version => .done (.shown s!"{programName} {Conversion.version}\n")
  | .help => .done (.shown usage)

/-- What arguments come to, reading files by means of `read`. -/
def run (read : String → Except FileFault ByteArray) (args : List String) : Outcome :=
  match Request.ofArguments args with
  | some r => r.run read
  | none => .done .misused

/-- The answer to the attempt to write a file. -/
def Answer.ofWriting {α : Type} : Except FileFault α → Answer
  | .ok _ => { code := 0 }
  | .error fault => .failed fault.message

/-! ## Runs in a store -/

/-- The end of a run: its exit code, what the standard output and the user have been told, and the
store. -/
structure Ending where
  code : Nat
  shown : ByteArray
  errors : String
  store : Store

/-- The answer when showing another one breaks off, which ends the run on the spot. -/
def Answer.unshown (fault : FileFault) : Answer :=
  { code := 101, errors := s!"failed printing to stdout: {fault.message}\n" }

/-- Shows an answer. -/
def Ending.ofAnswer (t : Trouble) (s : Store) (a : Answer) : Ending :=
  let (shown, fault?) := Break.cut t.showing a.output.toUTF8
  let a := fault?.elim a .unshown
  ⟨a.code, shown, a.errors, s⟩

/-- Saves bytes in a file, which is opened and then filled. What has been written when that breaks off
is left there. -/
def Ending.ofSaving (t : Trouble) (s : Store) (path : String) (bytes : ByteArray) : Ending :=
  match t.create s path with
  | .error fault =>
    let a := Answer.failed fault.message
    ⟨a.code, .empty, a.errors, s⟩
  | .ok (n, opened) =>
    let (written, fault?) := Break.cut t.writing bytes
    let a : Answer := fault?.elim { code := 0 } (.failed ·.message)
    ⟨a.code, if opened.device? n = some .output then written else .empty, a.errors, opened.fill n written⟩

/-- Runs the program with its arguments in a store, whatever trouble there is outside. -/
def execute (t : Trouble) (s : Store) (args : List String) : Ending :=
  match run (t.read s) args with
  | .done a => .ofAnswer t s a
  | .save path text => .ofSaving t s path text.toUTF8

/-- Runs the program without trouble in a folder: its answer, and the store afterwards. -/
def runIn (f : Folder) (args : List String) : Answer × Store :=
  let e := execute {} f.store args
  ({ code := e.code, output := (String.fromUTF8? e.shown).getD "", errors := e.errors }, e.store)

end XsdInfer.Command
