import TableThrift.Proofs.Conversion.Summary
import TableThrift.Proofs.Struct.Layout
import TableThrift.Proofs.Text.Lines

/-!
# The outcomes of a conversion

A conversion has four outcomes. A blank statement gives nothing; a statement without a name, or
with a name but without fields, is refused with a wording of its own; every other statement gives
the text of a struct. The lines of the statement alone decide which one it is.

## Main definitions

* `conversionReport`: a conversion as text
* `Statement.Blank`, `Statement.Nameless`, `Statement.Fieldless`: the statements that give no struct

## Main results

* `conversionReport_eq_ok_none_iff`, `conversionReport_eq_nameless_iff`,
  `conversionReport_eq_fieldless_iff`, `conversionReport_eq_ok_some_iff`: when each outcome occurs
* `conversion_outcome`: the four outcomes together
-/

namespace TableThrift

/-- A conversion as text: the text of the struct, if there is one, or the wording of what the
draft lacks. -/
def conversionReport (o : Options) (ddl : Text) : Except Text (Option Text) :=
  match convert o ddl with
  | .ok s => .ok (s.map Struct.render)
  | .error gap => .error gap.message

namespace Statement

variable (o : Options) (ddl : Text)

/-- A blank statement: nothing stands between its newlines but carriage returns, one at most. -/
def Blank (ddl : Text) : Prop := ∀ piece ∈ ddl.split '\n', piece = [] ∨ piece = ['\r']

/-- A statement with lines whose first one gives no name. -/
def Nameless : Prop := ddl.lines ≠ [] ∧ name o ddl.lines = []

/-- A statement with a name none of whose lines gives a field: each one closes the table, holds no
word of a column type, or names a column to leave out. -/
def Fieldless : Prop :=
  name o ddl.lines ≠ [] ∧ ∀ line ∈ ddl.lines,
    Line.Closes line ∨ ¬ Line.Typed line ∨ o.Excludes (Line.identifier line)

instance : DecidablePred Blank := fun _ => inferInstanceAs (Decidable (∀ _ ∈ _, _))

instance : Decidable (Nameless o ddl) := inferInstanceAs (Decidable (_ ∧ _))

instance : Decidable (Fieldless o ddl) := inferInstanceAs (Decidable (_ ∧ ∀ _ ∈ _, _))

end Statement

section Outcome

variable {o : Options} {ddl text message : Text}

/-- The struct behind the text of a conversion. -/
theorem exists_of_conversionReport_eq_some (h : conversionReport o ddl = .ok (some text)) :
    ∃ s, convert o ddl = .ok (some s) ∧ s.render = text := by
  unfold conversionReport at h
  split at h
  · next s hs =>
    obtain ⟨t, rfl, ht⟩ := Option.map_eq_some_iff.1 (Except.ok.inj h)
    exact ⟨t, hs, ht⟩
  · cases h

theorem convert_of_conversionReport_eq_none (h : conversionReport o ddl = .ok none) :
    convert o ddl = .ok none := by
  unfold conversionReport at h
  split at h
  · next s hs => rw [hs, Option.map_eq_none_iff.1 (Except.ok.inj h)]
  · cases h

/-- The gap behind the refusal of a conversion. -/
theorem exists_of_conversionReport_eq_error (h : conversionReport o ddl = .error message) :
    ∃ gap, convert o ddl = .error gap ∧ gap.message = message := by
  unfold conversionReport at h
  split at h
  · cases h
  · next gap hg => exact ⟨gap, hg, Except.error.inj h⟩

/-- The two refusals are worded differently. -/
theorem message_fieldless_ne (name : Text) :
    (Draft.Gap.fieldless name).message ≠ Draft.Gap.nameless.message := fun h =>
  nomatch Draft.Gap.message_injective h

/-- The report of a conversion by its parts. -/
theorem conversionReport_eq (o : Options) (ddl : Text) :
    conversionReport o ddl =
      if ddl.lines = [] then .ok none
      else if Statement.name o ddl.lines = [] then .error Draft.Gap.nameless.message
      else if Statement.fields o ddl.lines = [] then
        .error (Draft.Gap.fieldless (Statement.name o ddl.lines)).message
      else .ok (some (Struct.render ⟨Statement.name o ddl.lines,
        (Statement.remark? ddl.lines).getD [], Statement.fields o ddl.lines⟩)) := by
  rw [conversionReport, convert_eq]
  split_ifs <;> rfl

/-- A conversion gives nothing exactly on a blank statement. -/
theorem conversionReport_eq_ok_none_iff :
    conversionReport o ddl = .ok none ↔ Statement.Blank ddl := by
  rw [Statement.Blank, ← Text.lines_eq_nil_iff, conversionReport_eq]
  split_ifs with hl hn hf <;> simp [hl]

/-- A conversion asks for a name exactly on a statement with lines but without a name. -/
theorem conversionReport_eq_nameless_iff :
    conversionReport o ddl = .error Draft.Gap.nameless.message ↔ Statement.Nameless o ddl := by
  rw [Statement.Nameless, conversionReport_eq]
  split_ifs with hl hn hf
  · simp [hl]
  · simp [hl, hn]
  · simp [hn, message_fieldless_ne]
  · simp [hn]

/-- A conversion asks for fields exactly on a statement with a name but without fields. -/
theorem conversionReport_eq_fieldless_iff :
    conversionReport o ddl = .error (Draft.Gap.fieldless (Statement.name o ddl.lines)).message ↔
      Statement.Fieldless o ddl := by
  rw [Statement.Fieldless, ← Statement.fields_eq_nil_iff, conversionReport_eq]
  split_ifs with hl hn hf
  · simp [hl, Statement.name_nil]
  · simp [hn, (message_fieldless_ne []).symm]
  · simp [hn, hf]
  · simp [hf]

/-- A conversion gives a text exactly in the other cases, and the text is that of the struct of
its parts. -/
theorem conversionReport_eq_ok_some_iff :
    conversionReport o ddl = .ok (some text) ↔
      (¬ Statement.Blank ddl ∧ ¬ Statement.Nameless o ddl ∧ ¬ Statement.Fieldless o ddl) ∧
        text = Struct.render ⟨Statement.name o ddl.lines, (Statement.remark? ddl.lines).getD [],
          Statement.fields o ddl.lines⟩ := by
  rw [Statement.Blank, ← Text.lines_eq_nil_iff, Statement.Nameless, Statement.Fieldless,
    ← Statement.fields_eq_nil_iff, conversionReport_eq]
  split_ifs with hl hn hf
  · simp [hl]
  · simp [hl, hn]
  · simp [hn, hf]
  · simp [hl, hn, hf, eq_comm]

/-- The text of a conversion in all cases. -/
theorem convertText_eq (o : Options) (ddl : Text) :
    convertText o ddl = match conversionReport o ddl with
      | .ok none => []
      | .ok (some text) => text
      | .error _ => failureText := by
  unfold convertText conversionReport
  cases convert o ddl with
  | error gap => rfl
  | ok s => cases s <;> rfl

/-- **The outcomes of a conversion.** It gives nothing on a blank statement, one of two refusals
on a statement without a name or without fields, and the text of a struct on all others: the last
remark of the lines, the name from the first of them, and the fields of the typed lines in their
order. These are numbered from one without gaps, as long as 32 bits are enough for the numbers. -/
theorem conversion_outcome (o : Options) (ddl : Text) :
    (conversionReport o ddl = .ok none ↔ Statement.Blank ddl) ∧
    (conversionReport o ddl = .error "no table name could be derived".toList ↔
      Statement.Nameless o ddl) ∧
    (conversionReport o ddl =
        .error ("struct \x60".toList ++ Statement.name o ddl.lines ++
          "\x60 has no fields".toList) ↔
      Statement.Fieldless o ddl) ∧
    (∀ text, conversionReport o ddl = .ok (some text) ↔
      (¬ Statement.Blank ddl ∧ ¬ Statement.Nameless o ddl ∧ ¬ Statement.Fieldless o ddl) ∧
        text = List.intercalate lineBreak
          (["//".toList ++ (Statement.remark? ddl.lines).getD [],
            "struct ".toList ++ Statement.name o ddl.lines ++ ['{']] ++
            Field.lines (Statement.fields o ddl.lines) ++ [['}']])) ∧
    ((Statement.fields o ddl.lines).length < UInt32.size →
      Field.lines (Statement.fields o ddl.lines) =
        ((Statement.fields o ddl.lines).zipIdx 1).map fun p => p.1.line p.2) ∧
    convertText o ddl = match conversionReport o ddl with
      | .ok none => []
      | .ok (some text) => text
      | .error _ => "error".toList := by
  refine ⟨conversionReport_eq_ok_none_iff, conversionReport_eq_nameless_iff,
    conversionReport_eq_fieldless_iff, ?_, Field.lines_of_few, convertText_eq o ddl⟩
  intro text
  exact conversionReport_eq_ok_some_iff

/-- A statement that closes its table twice, leaves out its second column, and has a line behind the
table that reads as a column. -/
theorem conversion_outcome_closed_twice :
    let o : Options := ⟨"t_".toList, ["bB".toList]⟩
    let ddl : Text := "CREATE TABLE `t_u`\n`a_a` bigint NOT NULL\n".toList ++
      "`b_b` int\n) ENGINE = 'x' int\n) ENGINE 'y'\n`c` varchar(8) COMMENT 'z'".toList
    conversionReport o ddl = .ok (some ("//y\r\nstruct U\x7b\r\n".toList ++
      "    1:required i64 aA //\r\n    2:optional string c //z\r\n\x7d".toList)) ∧
    (Statement.fields o ddl.lines).length < UInt32.size ∧
    Field.lines (Statement.fields o ddl.lines) =
      ["    1:required i64 aA //".toList, "    2:optional string c //z".toList] := by
  intro o ddl
  have hfew : (Statement.fields o ddl.lines).length < UInt32.size := by decide +kernel
  obtain ⟨-, -, -, htext, hnumbers, -⟩ := conversion_outcome o ddl
  have hcase : ¬ Statement.Blank ddl ∧ ¬ Statement.Nameless o ddl ∧ ¬ Statement.Fieldless o ddl :=
    ⟨by decide +kernel, by decide +kernel, by decide +kernel⟩
  exact ⟨(htext _).2 ⟨hcase, by decide +kernel⟩, hfew, (hnumbers hfew).trans (by decide +kernel)⟩

end Outcome

end TableThrift
