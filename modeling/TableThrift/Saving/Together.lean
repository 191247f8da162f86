import TableThrift.Saving

/-!
# Saving several texts at once

Several texts may be saved at the same time. Each call has its own steps and its own open file, and
the steps of all calls come in any order, each with or without a fault. A file that is open is
written at a position of its own. It stays the same file when it is moved, and when another file
takes its place it stands nowhere.

## Main definitions

* `Saving.Handle`: an open file
* `Saving.Call`, `Saving.Together`: the calls, and the files that they share
* `Saving.Step.runOpened`: what a step does to the files and to the open file of its call
* `Saving.Together.step`, `Saving.Schedule`, `Saving.Together.run`: the next step of a call, and
  steps by a schedule
-/

namespace TableThrift.Saving

/-! ## Open files -/

section Handles

/-- An open file: where it stands, if it stands anywhere, and the position where it is written
next. -/
structure Handle where
  location : Option Location
  position : Nat
deriving DecidableEq, Repr

/-- Content with more bytes written over it from a position on. If it ends before that, zeros
come in between. -/
def overwrite (content : ByteArray) (position : Nat) (more : ByteArray) : ByteArray :=
  if more.size = 0 then content
  else
    content.extract 0 position ++ ⟨Array.replicate (position - content.size) 0⟩ ++ more ++
      content.extract (position + more.size) content.size

/-- The files after bytes are written to an open file, and the file with its new position. -/
def Handle.write (files : FileSystem) (h : Handle) (more : ByteArray) : FileSystem × Handle :=
  let next : Handle := { h with position := h.position + more.size }
  match h.location with
  | none => (files, next)
  | some l =>
    match files.lookup l with
    | some (.file content) => (files.put l (.file (overwrite content h.position more)), next)
    | _ => (files, next)

/-- An open file after the file at one location has been moved to another. -/
def Handle.afterMove (source target : Location) (h : Handle) : Handle :=
  if source = target then h
  else if h.location = some source then { h with location := some target }
  else if h.location = some target then { h with location := none }
  else h

end Handles

/-! ## Steps -/

section Steps

/-- What writing a text does to the files and to an open file, under a fault. -/
def Handle.writeText (fault? : Option Fault) (files : FileSystem) (h : Handle) (text : Text) :
    (FileSystem × Option Handle) × Except FileSystem.Problem Unit :=
  match fault?.filter (·.done < (Step.write text).size) with
  | some fault =>
    let (files, h) := h.write files (text.bytes.extract 0 fault.done)
    ((files, some h), .error fault.problem)
  | none =>
    let (files, h) := h.write files text.bytes
    ((files, some h), .ok ())

/-- What a step does to the files and to the file that its call has open, under a fault. -/
def Step.runOpened (fault? : Option Fault) (files : FileSystem) (opened : Option Handle)
    (step : Step) : (FileSystem × Option Handle) × Except FileSystem.Problem Unit :=
  match step, opened with
  | write text, some h => h.writeText fault? files text
  | step, opened =>
    match step.run fault? { files } with
    | (s, result) =>
      ((s.files, (s.opened.map fun l => { location := some l, position := 0 }).or opened), result)

/-- What a step that succeeds on some files does to any open file. -/
def Step.carry (files : FileSystem) (step : Step) (h : Handle) : Handle :=
  match step with
  | move source target =>
    match files.locate source, files.locate target with
    | .ok l, .ok m => h.afterMove l m
    | _, _ => h
  | _ => h

end Steps

/-! ## Calls -/

section Calls

/-- A call: the file that it has open, and the steps that it has left. -/
structure Call where
  opened : Option Handle := none
  left : List Step
deriving DecidableEq, Repr

/-- The files, and the calls that share them. -/
structure Together (ι : Type) where
  files : FileSystem
  calls : ι → Call

variable {ι : Type} [DecidableEq ι]

/-- The next step of a call under a fault, if it has one left. A call ends at a step that fails. -/
def Together.step (s : Together ι) (i : ι) (fault? : Option Fault) : Together ι :=
  match (s.calls i).left with
  | [] => s
  | step :: left =>
    match step.runOpened fault? s.files (s.calls i).opened with
    | ((files, opened), .error _) =>
      { files, calls := fun j => if j = i then ⟨opened, []⟩ else s.calls j }
    | ((files, opened), .ok ()) =>
      { files
        calls := fun j =>
          let call := if j = i then ⟨opened, left⟩ else s.calls j
          { call with opened := call.opened.map (step.carry s.files) } }

/-- Calls that are about to save their texts under their names in one directory. -/
def Together.start (fs : FileSystem) (directory : Text) (names texts : ι → Text) : Together ι :=
  { files := fs, calls := fun i => { left := plan directory (names i) (texts i) } }

/-- Which call makes the next step, again and again, and what goes wrong with it. -/
abbrev Schedule (ι : Type) := List (ι × Option Fault)

/-- Steps of the calls in the order of a schedule. -/
def Together.run (s : Together ι) (schedule : Schedule ι) : Together ι :=
  schedule.foldl (fun s turn => s.step turn.1 turn.2) s

end Calls

end TableThrift.Saving
