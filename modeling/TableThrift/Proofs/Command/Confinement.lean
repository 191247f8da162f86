import TableThrift.Proofs.Command.Stages
import TableThrift.Proofs.Saving.Interruption

/-!
# Where a run writes

A run that is given a directory changes nothing outside of it as long as the name of its struct
holds no slash: it makes the directory with those it leads through, and writes two files in it. The
name is taken from the statement as it is. With a slash in it, it may lead elsewhere.

## Main results

* `Run.files_run_cases`: the files after a run are those before it, or those after saving
* `Run.run_confined`: a run stays in its directory
* `Run.exists_run_outside`: a name with a slash leads out of it
-/

namespace TableThrift.Run

open FileSystem Saving

variable {env : Environment} {arguments : List Text} {directory : Text}

/-- The files after a run are those before it, or those after its text is saved, whether or not that
succeeds. -/
theorem files_run_cases (fs : FileSystem) (hd : arguments[2]? = some directory) :
    (Command.run env arguments fs).2 = fs ∨ ∃ ddl o text, Converts env arguments fs ddl o text ∧
      (Command.run env arguments fs).2 =
        (save env.faults fs directory (Statement.name o ddl.lines) text).1 := by
  by_cases h : ∃ ddl o text, Converts env arguments fs ddl o text
  · obtain ⟨ddl, o, text, h⟩ := h
    refine .inr ⟨ddl, o, text, h, ?_⟩
    cases hs : save env.faults fs directory (Statement.name o ddl.lines) text with
    | mk files result =>
      cases result with
      | ok path => rw [h.run_of_saved hd hs]
      | error failure => rw [h.run_of_unsaved hd hs]
  · obtain ⟨report, -, hrun⟩ := run_of_not_converts h
    exact .inl (by rw [hrun])

/-- **A run stays in its directory** as long as the name of its struct holds no slash. Whether it
succeeds or fails, every entry that is not below the directory is as it was, except for the
directory itself and those that its path leads through, which may have been made. -/
theorem run_confined {fs : FileSystem} (hd : arguments[2]? = some directory)
    (hname : ∀ ddl o, statement env arguments fs = .ok ddl → options env arguments fs = .ok o →
      '/' ∉ Statement.name o ddl.lines) (m : Location) :
    (Command.run env arguments fs).2.lookup m = fs.lookup m ∨
    (Command.run env arguments fs).2.Below directory m ∨
    (fs.lookup m = none ∧ (Command.run env arguments fs).2.lookup m = some .directory ∧
      ∃ q ∈ Path.ancestors directory, (Command.run env arguments fs).2.locate q = .ok m) := by
  obtain hsame | ⟨ddl, o, text, hconverts, hrun⟩ := files_run_cases fs hd
  · exact .inl (by rw [hsame])
  · obtain ⟨s, hstops, hfiles⟩ :=
      stops_save env.faults fs directory (Statement.name o ddl.lines) text
    obtain ⟨phase, hprogress⟩ := progress_of_stops hstops
    obtain ⟨made, hmade, hkeeps, hlookup⟩ :=
      hprogress.lookup (hname ddl o hconverts.statement hconverts.options)
    rw [hrun, hfiles]
    obtain heq | ⟨d, hb, hm⟩ := hlookup m
    · obtain hsame | ⟨hnone, hdir, q, hq, hqm⟩ := hmade.lookup m
      · exact .inl (heq.trans hsame)
      · exact .inr (.inr ⟨hnone, heq.trans hdir, q, hq, hkeeps.locate hqm⟩)
    · -- Both files stand in the directory itself.
      obtain rfl | ⟨rfl, -⟩ := hm
      · exact .inr (.inl ⟨d, _, [], hkeeps.base hb, rfl⟩)
      · exact .inr (.inl ⟨d, _, [], hkeeps.base hb, rfl⟩)

/-- A run that makes its directory and those above it, and fails to save its text there: no file can
have a name like that of its struct. -/
theorem run_confined_failure :
    let name : Text := ['x', '\x00']
    let fs : FileSystem :=
      ⟨[(["t.sql".toList], .file (Text.bytes ("\x60".toList ++ name ++ "\x60 int".toList))),
        (["o.json".toList], .file (Text.bytes "\x7b\x7d".toList))], []⟩
    let arguments : List Text := ["t.sql".toList, "o.json".toList, "a/b".toList]
    let files := (Command.run sound arguments fs).2
    arguments[2]? = some "a/b".toList ∧
    (∀ ddl o, statement sound arguments fs = .ok ddl → options sound arguments fs = .ok o →
      '/' ∉ Statement.name o ddl.lines) ∧
    (Command.run sound arguments fs).1.exit = 1 ∧ fs.lookup ["a".toList] = none ∧
      files.lookup ["a".toList] = some .directory ∧
      ∃ q ∈ Path.ancestors "a/b".toList, files.locate q = .ok ["a".toList] := by
  intro name fs arguments files
  have hname : ∀ ddl o, statement sound arguments fs = .ok ddl →
      options sound arguments fs = .ok o → '/' ∉ Statement.name o ddl.lines := by
    intro ddl o hddl ho
    have hddl' : statement sound arguments fs =
        .ok ("\x60".toList ++ name ++ "\x60 int".toList) := by decide +kernel
    have ho' : options sound arguments fs = .ok {} := by decide +kernel
    obtain rfl := Except.ok.inj (hddl'.symm.trans hddl)
    obtain rfl := Except.ok.inj (ho'.symm.trans ho)
    decide +kernel
  have hdirectory : arguments[2]? = some "a/b".toList := rfl
  refine ⟨hdirectory, hname, by decide +kernel, ?_⟩
  obtain hsame | ⟨d, last, rest, hd, hm⟩ | hmade := run_confined hdirectory hname ["a".toList]
  · exact absurd hsame (by decide +kernel)
  · have hbase : files.base "a/b".toList = .ok ["a".toList, "b".toList] := by decide +kernel
    obtain rfl := Except.ok.inj (hbase.symm.trans hd)
    cases hm
  · exact hmade

/-- A name with a slash leads out of the directory: here to the directory above, from one that is
named with three dots. -/
theorem exists_run_outside :
    ¬ ∀ (arguments : List Text) (fs : FileSystem) (directory : Text) (m : Location),
      arguments[2]? = some directory →
      (Command.run sound arguments fs).2.lookup m = fs.lookup m ∨
      (Command.run sound arguments fs).2.Below directory m ∨
      (fs.lookup m = none ∧ (Command.run sound arguments fs).2.lookup m = some .directory ∧
        ∃ q ∈ Path.ancestors directory, (Command.run sound arguments fs).2.locate q = .ok m) := by
  intro h
  let fs : FileSystem :=
    ⟨[(["t.sql".toList], .file (Text.bytes "CREATE TABLE \x60../x\x60\n\x60id\x60 int".toList)),
      (["o.json".toList], .file (Text.bytes "\x7b\x7d".toList)), (["out".toList], .directory),
      (["out".toList, "...".toList], .directory)], []⟩
  obtain hsame | ⟨d, name, rest, hd, hm⟩ | ⟨-, hdir, -⟩ :=
    h ["t.sql".toList, "o.json".toList, "out".toList] fs "out".toList ["x.thrift".toList] rfl
  · exact absurd hsame (by decide +kernel)
  · -- The directory itself is not the one above it.
    have hbase : (Command.run sound ["t.sql".toList, "o.json".toList, "out".toList] fs).2.base
        "out".toList = .ok ["out".toList] := by decide +kernel
    obtain rfl : ["out".toList] = d := Except.ok.inj (hbase.symm.trans hd)
    exact absurd (List.cons.inj hm).1 (by decide)
  · exact absurd hdir (by decide +kernel)

end TableThrift.Run
