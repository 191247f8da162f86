import TableThrift.Proofs.Command.Stages
import TableThrift.Proofs.Conversion.Layout
import TableThrift.Proofs.Saving.Steps

/-!
# The file that a run saves

A run that is given a directory saves the text of a struct there. The file is named after the first
line of the statement, the text after the first of its lines; both give the same name.

## Main results

* `Struct.SingleLine.second_line`: the second line of the text of a struct holds its name
* `Run.Converts.second_line`: the same for the text of a run
* `Run.run_saved_name`: the file that a run saves is named as its second line says
-/

namespace TableThrift

/-- The second line of the text of a struct holds its name. -/
theorem Struct.SingleLine.second_line {s : Struct} (h : s.SingleLine) :
    (Text.pieces lineBreak (s.render ++ lineBreak))[1]? =
      some ("struct ".toList ++ s.name ++ ['{']) := by
  rw [h.pieces_render_append]
  rfl

namespace Run

variable {env : Environment} {arguments : List Text} {fs : FileSystem} {o : Options}
  {ddl text directory : Text}

/-- The second line of the text of a run holds the name that the first line of the statement
gives. -/
theorem Converts.second_line (h : Converts env arguments fs ddl o text) :
    (Text.pieces lineBreak (text ++ lineBreak))[1]? =
      some ("struct ".toList ++ Statement.name o ddl.lines ++ ['{']) := by
  obtain ⟨s, hs, rfl⟩ := exists_of_conversionReport_eq_some h.conversion
  obtain ⟨-, rfl⟩ := eq_of_convert_eq_ok hs
  exact (singleLine_of_convert hs).second_line

/-- A run that exits with 0 and is given a directory has saved its text there. -/
theorem exists_saved (hexit : (Command.run env arguments fs).1.exit = 0)
    (hd : arguments[2]? = some directory) :
    ∃ ddl o text, Converts env arguments fs ddl o text ∧
      (Command.run env arguments fs).1.printed = text ++ ['\n'] ∧
      (Command.run env arguments fs).2.readText
        (Saving.targetPath directory (Statement.name o ddl.lines)) = .ok (text ++ lineBreak) := by
  -- With exit code 0 neither a stage nor saving has failed.
  by_cases h : ∃ ddl o text, Converts env arguments fs ddl o text
  · obtain ⟨ddl, o, text, h⟩ := h
    obtain ⟨-, ⟨-, hsave⟩ | ⟨_, _, -, -, hrun⟩⟩ := run_of_converts_cases h
    · obtain ⟨path, hp⟩ := hsave directory hd
      have hs : save env.faults fs directory (Statement.name o ddl.lines) text =
          ((save env.faults fs directory (Statement.name o ddl.lines) text).1, .ok path) :=
        Prod.ext rfl hp
      obtain ⟨rfl, hread⟩ := readText_of_save hs
      rw [h.run_of_saved hd hs]
      exact ⟨ddl, o, text, h, rfl, hread⟩
    · rw [hrun] at hexit
      cases hexit
  · obtain ⟨report, -, hrun⟩ := run_of_not_converts h
    rw [hrun] at hexit
    cases hexit

/-- **The name of a saved file.** The first line of a statement gives the same name whether it is
read off the text or taken from its lines. So the file that a run saves in a directory is named as
the second line of its text says. -/
theorem run_saved_name :
    (∀ ddl tablePrefix : Text,
      structName ddl.firstLine tablePrefix = structName (ddl.lines.headD []) tablePrefix) ∧
    ∀ (env : Environment) (arguments : List Text) (fs : FileSystem) (directory : Text),
      arguments[2]? = some directory → (Command.run env arguments fs).1.exit = 0 →
      ∃ name text,
        (Command.run env arguments fs).1.printed = text ++ ['\n'] ∧
        (Command.run env arguments fs).2.readText
          (Path.join directory (name ++ ".thrift".toList)) = .ok (text ++ lineBreak) ∧
        (Text.pieces lineBreak (text ++ lineBreak))[1]? =
          some ("struct ".toList ++ name ++ ['{']) := by
  refine ⟨structName_firstLine, ?_⟩
  intro env arguments fs directory hd hexit
  obtain ⟨ddl, o, text, h, hprinted, hread⟩ := exists_saved hexit hd
  exact ⟨Statement.name o ddl.lines, text, hprinted, hread, h.second_line⟩

/-- A statement of one line that ends with a carriage return, which only one of the two ways to take
the first line drops. -/
theorem run_saved_name_return :
    let fs : FileSystem :=
      ⟨[(["a".toList], .file (Text.bytes "TABLE \x60t_int\x60\r".toList)),
        (["o.yml".toList], .file (Text.bytes "table_prefix: t_".toList))], []⟩
    let arguments : List Text := ["a".toList, "o.yml".toList, "out".toList]
    let text : Text := "//\r\nstruct Int\x7b\r\n    1:optional i32 tInt //\r\n\x7d".toList
    arguments[2]? = some "out".toList ∧ (Command.run sound arguments fs).1.exit = 0 ∧
      (Command.run sound arguments fs).1.printed = text ++ ['\n'] ∧
      (Command.run sound arguments fs).2.readText "out/Int.thrift".toList =
        .ok (text ++ lineBreak) := by
  intro fs arguments text
  have hexit : (Command.run sound arguments fs).1.exit = 0 := by decide +kernel
  have hprinted : (Command.run sound arguments fs).1.printed = text ++ ['\n'] := by decide +kernel
  obtain ⟨name, text', hp, hread, hline⟩ := run_saved_name.2 sound arguments fs _ rfl hexit
  obtain rfl : text = text' := List.append_cancel_right (hprinted.symm.trans hp)
  -- The name is what the second line of the text says.
  have hsecond : (Text.pieces lineBreak (text ++ lineBreak))[1]? =
      some ("struct ".toList ++ "Int".toList ++ ['{']) := by decide +kernel
  have hname : "struct ".toList ++ "Int".toList = "struct ".toList ++ name :=
    List.append_cancel_right (Option.some.inj (hsecond.symm.trans hline))
  obtain rfl := List.append_cancel_left hname
  exact ⟨rfl, hexit, hprinted, hread⟩

end Run

end TableThrift
