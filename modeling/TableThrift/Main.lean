import TableThrift.Command
import TableThrift.Readers.Standard

/-!
# The program

The command line on the files of the machine. What to read, print and save is decided elsewhere;
here it is carried out.

## Main definitions

* `Program.readText`: the text of a file
* `Program.perform`, `Program.performAll`: the steps of saving
* `main`: the program
-/

namespace TableThrift.Program

/-- The problem that an error of the machine stands for. -/
def problem : IO.Error → FileSystem.Problem
  | .noFileOrDirectory .. => .missing
  | .noSuchThing .. => .missing
  | .alreadyExists .. => .occupied
  | .inappropriateType _ 20 _ => .notDirectory
  | .inappropriateType _ 21 _ => .isDirectory
  | .unsatisfiedConstraints 39 _ => .notEmpty
  | .invalidArgument _ 36 _ => .tooLong
  | e => .other (toString e).toList

/-- The text of a file, or the problem with it. -/
def readText (path : Text) : IO (Except FileSystem.Problem Text) := do
  match FileSystem.fault? path with
  | some problem => return .error problem
  | none =>
    try
      let bytes ← IO.FS.readBinFile (String.ofList path)
      match Text.ofBytes? bytes with
      | some t => return .ok t
      | none => return .error .notText
    catch e => return .error (problem e)

/-- One step of saving, with the file that is open before and after it. -/
def perform (opened : Option IO.FS.Handle) : Saving.Step → IO (Option IO.FS.Handle)
  | .makeDirectories directory => do
    if directory ≠ [] then IO.FS.createDirAll (String.ofList directory)
    return opened
  | .openEmpty path => some <$> IO.FS.Handle.mk (String.ofList path) .write
  | .write text => do
    if let some h := opened then h.write text.bytes
    return opened
  | .flush => do
    if let some h := opened then h.flush
    return none
  | .move source target => do
    IO.FS.rename (String.ofList source) (String.ofList target)
    return none

/-- The steps of saving in order; the first one that fails is reported. -/
def performAll (opened : Option IO.FS.Handle) : List Saving.Step → IO UInt32
  | [] => return 0
  | step :: rest => do
    match ← (perform opened step).toBaseIO with
    | .ok opened => performAll opened rest
    | .error e =>
      let failure : Saving.Failure := ⟨step, problem e⟩
      IO.eprint (String.ofList (Command.report failure.message failure.cause?))
      return 1

/-- A command on the files that it names. -/
def run (c : Command) : IO UInt32 := do
  let ddl ← readText c.ddl
  let options ← match c.options with
    | some path => readText path
    | none => pure (.error .missing)
  match c.prepare Options.standardReaders fun path => if path = c.ddl then ddl else options with
  | .error failure =>
    IO.eprint (String.ofList (Command.report failure.message failure.cause?))
    return 1
  | .ok result =>
    IO.println (String.ofList result.text)
    match c.directory with
    | none => return 0
    | some directory => performAll none (Saving.plan directory result.name result.text)

end TableThrift.Program

/-- The program: a command from its arguments. -/
def main (arguments : List String) : IO UInt32 := do
  match TableThrift.Command.ofArguments? (arguments.map String.toList) with
  | some c => TableThrift.Program.run c
  | none =>
    let program := (← IO.appPath).toString.toList
    IO.eprintln (String.ofList (TableThrift.Command.usage program))
    return 1
