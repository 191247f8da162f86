import TableThrift.Conversion
import TableThrift.Options.File
import TableThrift.Saving

/-!
# The command line

A command names a file with a statement, an options file if there is one, and a directory for the
struct if it is to be saved. Everything is read and converted before anything is printed, and the
text is printed before it is saved.

How the program is called, what reads an options file, which files the machine refuses to read and
what it breaks off while it saves come from outside.

## Main definitions

* `Command`, `Command.ofArguments?`: a command and its arguments
* `Command.Failure`: how a command may fail before it prints, with its wording
* `Command.Result`, `Command.prepare`: what a command prints, and what it saves and where
* `Environment`, `Environment.readText`: what a run depends on beside its arguments and the files
* `Outcome`, `Command.run`: what can be seen of a run, on a file system
-/

namespace TableThrift

/-- A command: the path of a statement, the path of an options file, and a directory. -/
structure Command where
  ddl : Text
  options : Option Text
  directory : Option Text
deriving DecidableEq, Repr

namespace Command

/-- The command of a list of arguments, of which there are one to three. -/
def ofArguments? : List Text → Option Command
  | [ddl] => some ⟨ddl, none, none⟩
  | [ddl, options] => some ⟨ddl, some options, none⟩
  | [ddl, options, directory] => some ⟨ddl, some options, some directory⟩
  | _ => none

/-- How to call the program of a given name. -/
def usage (program : Text) : Text :=
  "Usage: ".toList ++ program ++ " <ddl.sql> [options.json|options.yaml] [out_dir]".toList

/-! ## Failures -/

section Failures

/-- How a command may fail before it prints. -/
inductive Failure where
  /-- The statement cannot be read. -/
  | unreadable (path : Text) (problem : FileSystem.Problem)
  /-- The options cannot be loaded. -/
  | options (error : Options.LoadError)
  /-- The statement gives no complete struct. -/
  | incomplete (path : Text) (gap : Draft.Gap)
  /-- The statement has no lines. -/
  | blank (path : Text)
deriving DecidableEq, Repr

/-- The wording of a failure. -/
def Failure.message : Failure → Text
  | unreadable path _ => "reading ".toList ++ path
  | options error => error.message
  | incomplete path _ => "converting ".toList ++ path
  | blank path => path ++ " contains no statement".toList

/-- The wording of what caused a failure. -/
def Failure.cause? : Failure → Option Text
  | unreadable _ problem => some problem.message
  | options error => error.cause?
  | incomplete _ gap => some gap.message
  | blank _ => none

/-- A text of several lines, with the lines behind the first one indented. -/
def hang (t : Text) : Text := t.flatMap fun c => if c = '\n' then "\n    ".toList else [c]

/-- The report of a failure, with its cause in a paragraph of its own, whose lines are indented. -/
def report (message : Text) (cause? : Option Text) : Text :=
  "Error: ".toList ++ message ++
    (match cause? with
    | none => []
    | some cause => "\n\nCaused by:\n    ".toList ++ hang cause) ++ ['\n']

end Failures

/-! ## Conversion -/

section Prepare

/-- What a command prints, and the name under which the same text is saved. -/
structure Result where
  text : Text
  name : Text
deriving DecidableEq, Repr

/-- The options of a command: empty if it names no options file. -/
def loadOptions (readers : Options.Readers) (read : Text → Except FileSystem.Problem Text)
    (c : Command) : Except Options.LoadError Options :=
  match c.options with
  | none => .ok {}
  | some path => Options.load readers read path

/-- What a command prints and saves, on the files that `read` looks up. The statement is read
first, then the options, and then the statement is converted. -/
def prepare (readers : Options.Readers) (read : Text → Except FileSystem.Problem Text)
    (c : Command) : Except Failure Result :=
  match read c.ddl with
  | .error problem => .error (.unreadable c.ddl problem)
  | .ok ddl =>
    match c.loadOptions readers read with
    | .error error => .error (.options error)
    | .ok o =>
      match convert o ddl with
      | .error gap => .error (.incomplete c.ddl gap)
      | .ok none => .error (.blank c.ddl)
      | .ok (some s) => .ok ⟨s.render, structName (Text.firstLine ddl) o.tablePrefix⟩

end Prepare

end Command

/-! ## Runs -/

section Runs

/-- What a run depends on beside its arguments and the files: the name that the program is called
by, the readers of options files, what the machine reports of paths that it does not read, and
what goes wrong while a struct is saved. -/
structure Environment where
  program : Text
  readers : Options.Readers
  unreadable : Text → Option FileSystem.Problem
  faults : Saving.Faults

/-- The text of the file at a path, unless the machine does not read it. -/
def Environment.readText (env : Environment) (fs : FileSystem) (path : Text) :
    Except FileSystem.Problem Text :=
  match env.unreadable path with
  | some problem => .error problem
  | none => fs.readText path

/-- What can be seen of a run: the exit code, the printed text and the report of a failure. The log
of a run is left out. -/
structure Outcome where
  exit : Nat
  printed : Text := []
  reported : Text := []
deriving DecidableEq, Repr

namespace Command

/-- A run that fails with a report. -/
def failed (printed message : Text) (cause? : Option Text) : Outcome :=
  ⟨1, printed, report message cause?⟩

/-- A run of a command with its arguments on a file system, and the file system after it. -/
def run (env : Environment) (arguments : List Text) (fs : FileSystem) : Outcome × FileSystem :=
  match ofArguments? arguments with
  | none => (⟨1, [], usage env.program ++ ['\n']⟩, fs)
  | some c =>
    match c.prepare env.readers (env.readText fs) with
    | .error failure => (failed [] failure.message failure.cause?, fs)
    | .ok result =>
      let printed := result.text ++ ['\n']
      match c.directory with
      | none => ({ exit := 0, printed }, fs)
      | some directory =>
        match save env.faults fs directory result.name result.text with
        | (fs, .ok _) => ({ exit := 0, printed }, fs)
        | (fs, .error failure) => (failed printed failure.message failure.cause?, fs)

end Command

end Runs

end TableThrift
