import TableThrift.Command
import TableThrift.Proofs.Conversion.LineEnds
import TableThrift.Readers.Standard

/-!
# The stages of a run

Before a run prints anything it counts its arguments, reads the statement, loads the options and
converts the statement, in this order. The first of these stages that fails is reported, and such a
run has printed nothing and left every file as it was. After them only saving may fail.

## Main definitions

* `Run.statement`, `Run.options`: what the arguments name
* `Run.Stage`, `Run.Stage.report?`: the stages, and what each of them reports when it fails
* `Run.Converts`: all stages succeed
* `Run.sound`: the program on a machine on which nothing goes wrong

## Main results

* `Command.ofArguments?_eq`: the command of a list of arguments
* `Run.run_of_usage`, `Run.run_of_statement`, `Run.run_of_options`, `Run.run_of_refused`,
  `Run.run_of_blank`: a run in which a stage fails
* `Run.run_of_converts`: a run in which none fails
* `Run.run_of_not_converts`, `Run.run_of_converts_cases`: the two kinds of runs
* `Run.run_outcome`: the outcome of every run
-/

namespace TableThrift

/-! ## Commands -/

section Command

/-- One to three arguments make a command: they name a statement, options and a directory. -/
theorem Command.ofArguments?_eq (arguments : List Text) :
    ofArguments? arguments =
      if 1 ≤ arguments.length ∧ arguments.length ≤ 3 then
        some ⟨arguments.headD [], arguments[1]?, arguments[2]?⟩
      else none := by
  match arguments with
  | [] => rfl
  | [_] => rfl
  | [_, _] => rfl
  | [_, _, _] => rfl
  | a :: b :: c :: d :: rest =>
    have hlong : ¬ (1 ≤ (a :: b :: c :: d :: rest).length ∧
        (a :: b :: c :: d :: rest).length ≤ 3) := by
      simp only [List.length_cons]
      omega
    rw [if_neg hlong]
    rfl

end Command

namespace Run

/-! ## Stages -/

section Stages

variable (env : Environment) (arguments : List Text) (fs : FileSystem)

/-- The text of the statement that the first argument names. -/
def statement : Except FileSystem.Problem Text := env.readText fs (arguments.headD [])

/-- The options that the second argument names; without one they are empty. -/
def options : Except Options.LoadError Options :=
  match arguments[1]? with
  | none => .ok {}
  | some path => Options.load env.readers (env.readText fs) path

theorem loadOptions_eq : Command.loadOptions env.readers (env.readText fs)
    ⟨arguments.headD [], arguments[1]?, arguments[2]?⟩ = options env arguments fs := rfl

/-- The stages of a run before it prints. -/
inductive Stage where
  | usage
  | statement
  | options
  | conversion
deriving DecidableEq, Repr

/-- The stages in their order. -/
def Stage.order : List Stage := [usage, statement, options, conversion]

theorem Stage.findSome?_order (f : Stage → Option Text) :
    order.findSome? f =
      (f usage).or ((f statement).or ((f options).or (f conversion))) := by
  simp only [order, List.findSome?_cons, List.findSome?_nil]
  cases f usage <;> cases f statement <;> cases f options <;> cases f conversion <;> rfl

/-- What a stage reports if it fails, whatever the stages before it do. Without a statement and
options there is nothing to convert. -/
def Stage.report? : Stage → Option Text
  | .usage =>
    if 1 ≤ arguments.length ∧ arguments.length ≤ 3 then none
    else some (Command.usage env.program ++ ['\n'])
  | .statement =>
    match Run.statement env arguments fs with
    | .error problem =>
      some (Command.report ("reading ".toList ++ arguments.headD []) (some problem.message))
    | .ok _ => none
  | .options =>
    match Run.options env arguments fs with
    | .error error => some (Command.report error.message error.cause?)
    | .ok _ => none
  | .conversion =>
    match Run.statement env arguments fs, Run.options env arguments fs with
    | .ok ddl, .ok o =>
      match conversionReport o ddl with
      | .error message =>
        some (Command.report ("converting ".toList ++ arguments.headD []) (some message))
      | .ok none =>
        some (Command.report (arguments.headD [] ++ " contains no statement".toList) none)
      | .ok (some _) => none
    | _, _ => none

/-- All stages succeed: the arguments name a statement and options with which it is converted to a
text. -/
structure Converts (ddl : Text) (o : Options) (text : Text) : Prop where
  count : 1 ≤ arguments.length ∧ arguments.length ≤ 3
  statement : statement env arguments fs = .ok ddl
  options : options env arguments fs = .ok o
  conversion : conversionReport o ddl = .ok (some text)

end Stages

/-! ## Runs in which a stage fails -/

section Failure

variable {env : Environment} {arguments : List Text} {fs : FileSystem} {o : Options}
  {ddl text message : Text}

/-- A wrong number of arguments is answered with the usage. -/
theorem run_of_usage (h : ¬ (1 ≤ arguments.length ∧ arguments.length ≤ 3)) :
    Command.run env arguments fs = (⟨1, [], Command.usage env.program ++ ['\n']⟩, fs) := by
  rw [Command.run, Command.ofArguments?_eq, if_neg h]

/-- What a run prepares once the statement is read and the options are loaded. -/
theorem prepare_eq (hs : statement env arguments fs = .ok ddl)
    (ho : options env arguments fs = .ok o) :
    Command.prepare env.readers (env.readText fs)
        ⟨arguments.headD [], arguments[1]?, arguments[2]?⟩ =
      match convert o ddl with
      | .error gap => .error (.incomplete (arguments.headD []) gap)
      | .ok none => .error (.blank (arguments.headD []))
      | .ok (some s) => .ok ⟨s.render, structName (Text.firstLine ddl) o.tablePrefix⟩ := by
  rw [statement] at hs
  cases hc : convert o ddl with
  | error gap => simp only [Command.prepare, hs, loadOptions_eq, ho, hc]
  | ok s? => cases s? <;> simp only [Command.prepare, hs, loadOptions_eq, ho, hc]

variable (hcount : 1 ≤ arguments.length ∧ arguments.length ≤ 3)

include hcount

/-- A run with a right number of arguments fails as its preparation does. -/
theorem run_of_prepare_eq_error (failure : Command.Failure)
    (h : Command.prepare env.readers (env.readText fs)
      ⟨arguments.headD [], arguments[1]?, arguments[2]?⟩ = .error failure) :
    Command.run env arguments fs =
      (⟨1, [], Command.report failure.message failure.cause?⟩, fs) := by
  rw [Command.run, Command.ofArguments?_eq, if_pos hcount]
  simp only [h]
  rfl

/-- A statement that cannot be read is reported. -/
theorem run_of_statement {problem : FileSystem.Problem}
    (h : statement env arguments fs = .error problem) :
    Command.run env arguments fs =
      (⟨1, [], Command.report ("reading ".toList ++ arguments.headD []) (some problem.message)⟩,
        fs) := by
  refine run_of_prepare_eq_error hcount (.unreadable _ problem) ?_
  rw [statement] at h
  simp only [Command.prepare, h]

/-- Options that cannot be loaded are reported, whatever the statement says. -/
theorem run_of_options {error : Options.LoadError} (hs : statement env arguments fs = .ok ddl)
    (h : options env arguments fs = .error error) :
    Command.run env arguments fs = (⟨1, [], Command.report error.message error.cause?⟩, fs) := by
  refine run_of_prepare_eq_error hcount (.options error) ?_
  rw [statement] at hs
  simp only [Command.prepare, hs, loadOptions_eq, h]

/-- A statement that is refused is reported with the reason. -/
theorem run_of_refused (hs : statement env arguments fs = .ok ddl)
    (ho : options env arguments fs = .ok o) (h : conversionReport o ddl = .error message) :
    Command.run env arguments fs =
      (⟨1, [], Command.report ("converting ".toList ++ arguments.headD []) (some message)⟩,
        fs) := by
  obtain ⟨gap, hg, rfl⟩ := exists_of_conversionReport_eq_error h
  refine run_of_prepare_eq_error hcount (.incomplete _ gap) ?_
  rw [prepare_eq hs ho, hg]

/-- A blank statement is reported. -/
theorem run_of_blank (hs : statement env arguments fs = .ok ddl)
    (ho : options env arguments fs = .ok o) (h : conversionReport o ddl = .ok none) :
    Command.run env arguments fs =
      (⟨1, [], Command.report (arguments.headD [] ++ " contains no statement".toList) none⟩,
        fs) := by
  refine run_of_prepare_eq_error hcount (.blank _) ?_
  rw [prepare_eq hs ho, convert_of_conversionReport_eq_none h]

end Failure

/-! ## Runs in which no stage fails -/

section Success

variable {env : Environment} {arguments : List Text} {fs files : FileSystem} {o : Options}
  {ddl text directory path : Text} {failure : Saving.Failure}

/-- A run in which no stage fails prints the text, and saves it under the name of its struct if
there is a third argument. -/
theorem run_of_converts (h : Converts env arguments fs ddl o text) :
    Command.run env arguments fs =
      match arguments[2]? with
      | none => (⟨0, text ++ ['\n'], []⟩, fs)
      | some directory =>
        match save env.faults fs directory (Statement.name o ddl.lines) text with
        | (fs, .ok _) => (⟨0, text ++ ['\n'], []⟩, fs)
        | (fs, .error failure) =>
          (⟨1, text ++ ['\n'],
            Command.report failure.message failure.cause?⟩, fs) := by
  obtain ⟨s, hs, rfl⟩ := exists_of_conversionReport_eq_some h.conversion
  have hp := prepare_eq h.statement h.options
  -- The name is taken from the first line of the text, which gives the name of the lines.
  rw [hs, structName_firstLine] at hp
  rw [Command.run, Command.ofArguments?_eq, if_pos h.count]
  simp only [hp]
  rfl

/-- Without a directory the text is only printed. -/
theorem Converts.run_of_none (h : Converts env arguments fs ddl o text)
    (hd : arguments[2]? = none) :
    Command.run env arguments fs = (⟨0, text ++ ['\n'], []⟩, fs) := by
  rw [run_of_converts h, hd]

/-- With a directory the text is printed and saved. -/
theorem Converts.run_of_saved (h : Converts env arguments fs ddl o text)
    (hd : arguments[2]? = some directory)
    (hs : save env.faults fs directory (Statement.name o ddl.lines) text = (files, .ok path)) :
    Command.run env arguments fs = (⟨0, text ++ ['\n'], []⟩, files) := by
  rw [run_of_converts h, hd]
  simp only [hs]

/-- A text that cannot be saved has been printed all the same. -/
theorem Converts.run_of_unsaved (h : Converts env arguments fs ddl o text)
    (hd : arguments[2]? = some directory)
    (hs : save env.faults fs directory (Statement.name o ddl.lines) text =
      (files, .error failure)) :
    Command.run env arguments fs = (⟨1, text ++ ['\n'],
      Command.report failure.message failure.cause?⟩, files) := by
  rw [run_of_converts h, hd]
  simp only [hs]

/-- A run in which some stage fails reports the first one. Nothing is printed and no file is
touched. -/
theorem run_of_not_converts (h : ¬ ∃ ddl o text, Converts env arguments fs ddl o text) :
    ∃ report, Stage.order.findSome? (Stage.report? env arguments fs) = some report ∧
      Command.run env arguments fs = (⟨1, [], report⟩, fs) := by
  rw [Stage.findSome?_order]
  by_cases hcount : 1 ≤ arguments.length ∧ arguments.length ≤ 3
  · have husage : Stage.report? env arguments fs .usage = none := if_pos hcount
    rw [husage, Option.none_or]
    -- The first stage that fails ends both the run and the search for a report.
    cases hs : statement env arguments fs with
    | error problem =>
      refine ⟨_, ?_, run_of_statement hcount hs⟩
      simp only [Stage.report?, hs, Option.some_or]
    | ok ddl =>
      cases ho : options env arguments fs with
      | error error =>
        refine ⟨_, ?_, run_of_options hcount hs ho⟩
        simp only [Stage.report?, hs, ho, Option.none_or, Option.some_or]
      | ok o =>
        cases hc : conversionReport o ddl with
        | error message =>
          refine ⟨_, ?_, run_of_refused hcount hs ho hc⟩
          simp only [Stage.report?, hs, ho, hc, Option.none_or]
        | ok text? =>
          cases text? with
          | none =>
            refine ⟨_, ?_, run_of_blank hcount hs ho hc⟩
            simp only [Stage.report?, hs, ho, hc, Option.none_or]
          | some text => exact absurd ⟨ddl, o, text, hcount, hs, ho, hc⟩ h
  · have husage : Stage.report? env arguments fs .usage =
        some (Command.usage env.program ++ ['\n']) := if_neg hcount
    exact ⟨_, by rw [husage, Option.some_or], run_of_usage hcount⟩

/-- A run whose stages succeed fails only if saving does. -/
theorem run_of_converts_cases (h : Converts env arguments fs ddl o text) :
    (Command.run env arguments fs).1.printed = text ++ ['\n'] ∧
    ((Command.run env arguments fs).1.exit = 0 ∧
        (∀ directory, arguments[2]? = some directory →
          ∃ path, (save env.faults fs directory (Statement.name o ddl.lines) text).2 = .ok path) ∨
      ∃ directory failure, arguments[2]? = some directory ∧
        (save env.faults fs directory (Statement.name o ddl.lines) text).2 = .error failure ∧
        Command.run env arguments fs = (⟨1, text ++ ['\n'],
          Command.report failure.message failure.cause?⟩,
          (save env.faults fs directory (Statement.name o ddl.lines) text).1)) := by
  cases hd : arguments[2]? with
  | none =>
    rw [h.run_of_none hd]
    exact ⟨rfl, .inl ⟨rfl, nofun⟩⟩
  | some directory =>
    cases hs : save env.faults fs directory (Statement.name o ddl.lines) text with
    | mk files result =>
      cases result with
      | ok path =>
        rw [h.run_of_saved hd hs]
        refine ⟨rfl, .inl ⟨rfl, ?_⟩⟩
        intro directory' he
        rw [← Option.some.inj he, hs]
        exact ⟨path, rfl⟩
      | error failure =>
        rw [h.run_of_unsaved hd hs]
        exact ⟨rfl, .inr ⟨directory, failure, rfl, by rw [hs], by rw [hs]⟩⟩

end Success

/-! ## All runs -/

/-- **The outcome of every run.** It exits with 0 exactly when all stages succeed and the text is
saved if it is to be. A run in which a stage fails reports the first such stage, so that options
that cannot be loaded are reported whatever the statement says; it prints nothing and touches no
file. A run in which none fails prints the text, and then only saving may fail. -/
theorem run_outcome (env : Environment) (arguments : List Text) (fs : FileSystem) :
    ((Command.run env arguments fs).1.exit = 0 ↔
      ∃ ddl o text, Converts env arguments fs ddl o text ∧
        ∀ directory, arguments[2]? = some directory →
          ∃ path, (save env.faults fs directory (Statement.name o ddl.lines) text).2 = .ok path) ∧
    (∀ ddl o text, Converts env arguments fs ddl o text →
      (Command.run env arguments fs).1.printed = text ++ ['\n']) ∧
    ((¬ ∃ ddl o text, Converts env arguments fs ddl o text) →
      ∃ report, Stage.order.findSome? (Stage.report? env arguments fs) = some report ∧
        Command.run env arguments fs = (⟨1, [], report⟩, fs)) ∧
    (∀ ddl error, 1 ≤ arguments.length ∧ arguments.length ≤ 3 →
      statement env arguments fs = .ok ddl → options env arguments fs = .error error →
      (Command.run env arguments fs).1.reported = Command.report error.message error.cause?) ∧
    (∀ ddl o text, Converts env arguments fs ddl o text →
      (Command.run env arguments fs).1.exit ≠ 0 →
      ∃ directory failure, arguments[2]? = some directory ∧
        (save env.faults fs directory (Statement.name o ddl.lines) text).2 = .error failure ∧
        Command.run env arguments fs = (⟨1, text ++ ['\n'],
          Command.report failure.message failure.cause?⟩,
          (save env.faults fs directory (Statement.name o ddl.lines) text).1)) := by
  refine ⟨⟨?_, ?_⟩, fun ddl o text h => (run_of_converts_cases h).1, run_of_not_converts, ?_, ?_⟩
  · intro hexit
    -- Every report comes with exit code 1, so that only a text that was saved remains.
    by_cases h : ∃ ddl o text, Converts env arguments fs ddl o text
    · obtain ⟨ddl, o, text, h⟩ := h
      obtain ⟨-, ⟨-, hsave⟩ | ⟨directory, failure, -, -, hrun⟩⟩ := run_of_converts_cases h
      · exact ⟨ddl, o, text, h, hsave⟩
      · rw [hrun] at hexit
        cases hexit
    · obtain ⟨report, -, hrun⟩ := run_of_not_converts h
      rw [hrun] at hexit
      cases hexit
  · rintro ⟨ddl, o, text, h, hsave⟩
    obtain ⟨-, ⟨hexit, -⟩ | ⟨directory, failure, hd, hf, -⟩⟩ := run_of_converts_cases h
    · exact hexit
    · obtain ⟨path, hp⟩ := hsave directory hd
      rw [hf] at hp
      cases hp
  · intro ddl error hcount hs ho
    rw [run_of_options hcount hs ho]
  · intro ddl o text h hexit
    obtain ⟨-, ⟨hexit', -⟩ | hfail⟩ := run_of_converts_cases h
    · exact absurd hexit' hexit
    · exact hfail

/-- The program on a machine on which nothing goes wrong. -/
def sound : Environment :=
  ⟨"sql2thrift".toList, Options.standardReaders, fun _ => none, fun _ => none⟩

/-- Runs that fail: one with a blank statement and options of no known kind, one that is to save its
text in a directory where a file stands, and one on a device that is full in the middle of the text,
for which there are only the words of the machine. -/
theorem run_outcome_failures :
    let full : Saving.Fault := ⟨4, .other "No space left on device (os error 28)".toList⟩
    let env : Environment := { sound with faults := fun n => if n = 2 then some full else none }
    let fs : FileSystem :=
      ⟨[(["blank".toList], .file (Text.bytes ['\n'])), (["o.txt".toList], .file .empty),
        (["t".toList], .file (Text.bytes "\x60int\x60".toList)),
        (["o.json".toList], .file (Text.bytes "\x7b\x7d".toList))], []⟩
    let unsupported : List Text := ["blank".toList, "o.txt".toList]
    let onFile : List Text := ["t".toList, "o.json".toList, "t".toList]
    let onFull : List Text := ["t".toList, "o.json".toList, "out".toList]
    let text : Text := "//\r\nstruct Int\x7b\r\n    1:optional i32 int //\r\n\x7d".toList
    ((1 ≤ unsupported.length ∧ unsupported.length ≤ 3) ∧
      statement env unsupported fs = .ok ['\n'] ∧
      options env unsupported fs = .error (.unsupported "o.txt".toList) ∧
      (Command.run env unsupported fs).1.reported =
        "Error: unsupported options file \x60o.txt\x60 (expected .json, .yaml or .yml)\n".toList) ∧
    (Converts env onFile fs "\x60int\x60".toList {} text ∧
      (Command.run env onFile fs).1 = ⟨1, text ++ ['\n'],
        "Error: creating t\n\nCaused by:\n    File exists (os error 17)\n".toList⟩) ∧
    (Converts env onFull fs "\x60int\x60".toList {} text ∧
      (Command.run env onFull fs).1 =
        ⟨1, text ++ ['\n'], "Error: No space left on device (os error 28)\n".toList⟩) := by
  intro full env fs unsupported onFile onFull text
  have hname : Statement.name {} (Text.lines "\x60int\x60".toList) = "Int".toList := by
    decide +kernel
  obtain ⟨-, -, -, hunsupported, -⟩ := run_outcome env unsupported fs
  obtain ⟨-, -, -, -, honFile⟩ := run_outcome env onFile fs
  obtain ⟨-, -, -, -, honFull⟩ := run_outcome env onFull fs
  have hcount : 1 ≤ unsupported.length ∧ unsupported.length ≤ 3 := by decide
  have hs : statement env unsupported fs = .ok ['\n'] := by decide +kernel
  have ho : options env unsupported fs = .error (.unsupported "o.txt".toList) := by decide +kernel
  have hfile : Converts env onFile fs "\x60int\x60".toList {} text :=
    ⟨by decide, by decide +kernel, by decide +kernel, by decide +kernel⟩
  have hfull : Converts env onFull fs "\x60int\x60".toList {} text :=
    ⟨by decide, by decide +kernel, by decide +kernel, by decide +kernel⟩
  refine ⟨⟨hcount, hs, ho, ?_⟩, ⟨hfile, ?_⟩, hfull, ?_⟩
  · exact (hunsupported _ _ hcount hs ho).trans (by decide +kernel)
  · obtain ⟨directory, failure, hd, hsave, hrun⟩ := honFile _ _ _ hfile (by decide +kernel)
    obtain rfl : "t".toList = directory := Option.some.inj hd
    have hfailure : (save env.faults fs "t".toList "Int".toList text).2 =
        .error ⟨.makeDirectories "t".toList, .occupied⟩ := by decide +kernel
    rw [hname, hfailure] at hsave
    obtain rfl := Except.error.inj hsave
    exact (congrArg Prod.fst hrun).trans (by decide +kernel)
  · obtain ⟨directory, failure, hd, hsave, hrun⟩ := honFull _ _ _ hfull (by decide +kernel)
    obtain rfl : "out".toList = directory := Option.some.inj hd
    have hfailure : (save env.faults fs "out".toList "Int".toList text).2 =
        .error ⟨.write text, full.problem⟩ := by decide +kernel
    rw [hname, hfailure] at hsave
    obtain rfl := Except.error.inj hsave
    exact (congrArg Prod.fst hrun).trans (by decide +kernel)

end Run

end TableThrift
