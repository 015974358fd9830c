import XsdInfer.Command.Run

/-!
# The program

The outer layer: reads the files that the arguments name, runs the program on what it read, writes
the file that it asks for, and shows its answer.
-/

namespace XsdInfer.Command

/-- The number of an error, which may be given with either sign. -/
def errorNumber (code : UInt32) : UInt32 :=
  if code < 0x80000000 then code else 0 - code

/-- The fault of a failed operation on a file. -/
def FileFault.ofError (e : IO.Error) : FileFault :=
  match e with
  | .noFileOrDirectory .. => .notFound
  | .inappropriateType _ code _ => if errorNumber code = 20 then .notDirectory else .isDirectory
  | .invalidArgument _ code _ =>
    if errorNumber code = 36 then .nameTooLong
    else if errorNumber code = 40 then .manyLinks
    else .other (toString e)
  | .permissionDenied _ code details => .other s!"{details} (os error {errorNumber code})"
  | .resourceExhausted _ code details => .other s!"{details} (os error {errorNumber code})"
  | e => .other (toString e)

/-- The result of an operation on a file. -/
def attempt {α : Type} (act : IO α) : IO (Except FileFault α) := do
  match ← act.toBaseIO with
  | .ok a => return .ok a
  | .error e => return .error (.ofError e)

def inputs (args : List String) : List String :=
  match Request.ofArguments args with
  | some (.task t) => t.inputs
  | _ => []

/-- Runs the program with its arguments and gives its exit code. -/
def program (args : List String) : IO UInt32 := do
  let found ← (inputs args).mapM fun (path : String) => do
    return (path, ← attempt (IO.FS.readBinFile path))
  let read := fun path => (found.lookup path).getD (.error .notFound)
  let answer ← match run read args with
    | .done a => pure a
    | .save path text => do pure (.ofWriting (← attempt (IO.FS.writeFile path text)))
  let shown ← attempt do
    IO.print answer.output
    (← IO.getStdout).flush
  let told := match shown with
    | .ok _ => answer
    | .error fault => .unshown fault
  IO.eprint told.errors
  return told.code.toUInt32

end XsdInfer.Command

/-- The entry of the program. -/
def main (args : List String) : IO UInt32 :=
  XsdInfer.Command.program args
