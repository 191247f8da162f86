import TableThrift.FileSystem.Operations

/-!
# Saving the text of a struct

A text is saved under its name in a directory: it is written to a hidden temporary file beside the
target and then moved over it. The plan is a list of steps, and a run may stop after any of them.

A step fails where the files do not allow it. Apart from that the machine may break it off at any
point, as a full device does in the middle of a text: which steps, where and with what report is not
known, and everything below depends on it.

## Main definitions

* `Saving.temporaryPath`, `Saving.targetPath`: the two files
* `Saving.Step`, `Saving.plan`: the steps of saving a text
* `Saving.State`, `Saving.Step.perform`, `Saving.Step.part`: what a step does to a file system, and
  what it leaves when it is broken off
* `Saving.Fault`, `Saving.Step.run`, `Saving.run`: steps that the machine may break off
* `save`: a file system after saving, and the path of the file or the step that failed
-/

namespace TableThrift

namespace Saving

/-- The path of the temporary file. -/
def temporaryPath (directory name : Text) : Text :=
  Path.join directory (['.'] ++ name ++ ".thrift.tmp".toList)

/-- The path of the saved file. -/
def targetPath (directory name : Text) : Text :=
  Path.join directory (name ++ ".thrift".toList)

/-! ## Steps -/

section Steps

/-- A step on the way to a saved file. -/
inductive Step where
  /-- Make the directory and those it leads through. -/
  | makeDirectories (directory : Text)
  /-- Open an empty file. -/
  | openEmpty (path : Text)
  /-- Write a text to the open file. -/
  | write (text : Text)
  /-- Have the open file stored. -/
  | flush
  /-- Move the file over another. -/
  | move (source target : Text)
deriving DecidableEq, Repr

/-- The steps that save a text. A line break follows the text in its own step. -/
def plan (directory name text : Text) : List Step :=
  [.makeDirectories directory, .openEmpty (temporaryPath directory name), .write text,
    .write ['\r', '\n'], .flush, .move (temporaryPath directory name) (targetPath directory name)]

/-- A file system and the location of the file that is open for writing. -/
structure State where
  files : FileSystem
  opened : Option Location := none

/-- What a step does as far as the files allow it. -/
def Step.perform (s : State) : Step → State × Except FileSystem.Problem Unit
  | makeDirectories directory =>
    let (files, result) := s.files.makeDirectories directory
    ({ s with files }, result)
  | openEmpty path =>
    match s.files.openEmpty path with
    | .error p => (s, .error p)
    | .ok (files, l) => ({ files, opened := some l }, .ok ())
  | write text =>
    match s.opened with
    | none => (s, .ok ())
    | some l => ({ s with files := s.files.append l text.bytes }, .ok ())
  | flush => (s, .ok ())
  | move source target =>
    match s.files.move source target with
    | .error p => (s, .error p)
    | .ok files => ({ s with files }, .ok ())

end Steps

/-! ## Faults -/

section Faults

/-- What goes wrong with a step for a reason outside of the files: how many parts of the step are
done before, and what the machine reports. -/
structure Fault where
  done : Nat
  problem : FileSystem.Problem
deriving DecidableEq, Repr

/-- What goes wrong with the steps to come, by the number of steps before each. -/
abbrev Faults := Nat → Option Fault

/-- The parts of a step: a directory each, a byte each, or the step itself. -/
def Step.size : Step → Nat
  | makeDirectories directory => (Path.ancestors directory).length
  | write text => text.bytes.size
  | openEmpty _ | flush | move _ _ => 1

/-- What a step leaves when it is broken off after some of its parts. -/
def Step.part (s : State) (done : Nat) : Step → State
  | makeDirectories directory =>
    let chain := Path.ancestors directory
    { s with files := (s.files.makeChain (chain.drop (chain.length - done))).1 }
  | write text =>
    match s.opened with
    | none => s
    | some l => { s with files := s.files.append l (text.bytes.extract 0 done) }
  | openEmpty _ | flush | move _ _ => s

/-- What a step does under a fault, which comes too late when all parts are done before. -/
def Step.run (step : Step) (fault? : Option Fault) (s : State) :
    State × Except FileSystem.Problem Unit :=
  match fault?.filter (·.done < step.size) with
  | some fault => (step.part s fault.done, .error fault.problem)
  | none => step.perform s

end Faults

/-! ## Runs -/

section Runs

/-- A step that failed, and why. -/
structure Failure where
  step : Step
  problem : FileSystem.Problem
deriving DecidableEq, Repr

/-- What a step was about, for a report that it failed. Writing to an open file has no wording. -/
def Step.subject? : Step → Option Text
  | makeDirectories directory => some ("creating ".toList ++ directory)
  | openEmpty path => some ("creating ".toList ++ path)
  | move source target => some ("renaming ".toList ++ source ++ " -> ".toList ++ target)
  | write _ | flush => none

namespace Failure

/-- The wording of the failure: what the step was about, or the problem itself. -/
def message (failure : Failure) : Text := failure.step.subject?.getD failure.problem.message

/-- The wording of what caused the failure, unless that is the failure itself. -/
def cause? (failure : Failure) : Option Text :=
  failure.step.subject?.map fun _ => failure.problem.message

end Failure

/-- The steps in order, up to the first that fails. -/
def run (faults : Faults) (s : State) : List Step → State × Except Failure Unit
  | [] => (s, .ok ())
  | step :: rest =>
    match step.run (faults 0) s with
    | (s, .error problem) => (s, .error ⟨step, problem⟩)
    | (s, .ok ()) => run (fun n => faults (n + 1)) s rest

end Runs

end Saving

/-- The file system after saving a text, and the path of the saved file or the step that failed. -/
def save (faults : Saving.Faults) (fs : FileSystem) (directory name text : Text) :
    FileSystem × Except Saving.Failure Text :=
  match Saving.run faults { files := fs } (Saving.plan directory name text) with
  | (s, .ok ()) => (s.files, .ok (Saving.targetPath directory name))
  | (s, .error failure) => (s.files, .error failure)

end TableThrift
