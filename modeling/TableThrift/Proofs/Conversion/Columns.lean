import TableThrift.Proofs.Conversion.Outcome
import TableThrift.Proofs.Text.SnakeCase

/-!
# The columns of a statement

The columns of a statement are the lines that are read as one. The fields of its struct come from
them alone, in their order, so the options matter only through the prefix of the table and through
which columns they leave out. Two columns may share the name of a field, but not if their
identifiers are different and in snake case.

## Main definitions

* `Line.column?`, `Statement.columns`: the column of a line, and those of a list of lines

## Main results

* `Statement.fields_eq`: the fields of a list of lines, from its columns
* `conversionReport_of_excludes_iff`: options that leave out the same columns
* `Statement.nodup_camelCase`: columns with distinct names in camel case
* `distinct_names_of_snakeCase`: camel case keeps identifiers apart, and so does a conversion
-/

namespace TableThrift

/-- The column that a line is read as, if it is one. -/
def Line.column? : Line → Option Column
  | .column c => some c
  | _ => none

namespace Statement

/-- The columns of a list of lines, in order. -/
def columns (lines : List Text) : List Column :=
  lines.filterMap fun line => (Line.read line).column?

/-! ## Fields and columns -/

section Fields

variable {o o' : Options} {line : Text} {lines : List Text}

theorem columns_cons (line : Text) (lines : List Text) :
    columns (line :: lines) = (Line.read line).column?.toList ++ columns lines := by
  rw [columns, List.filterMap_cons, columns]
  cases (Line.read line).column? <;> rfl

/-- The field of a line is that of its column, unless the column is left out. -/
theorem fieldOf?_eq (o : Options) (line : Text) :
    fieldOf? o line = ((Line.read line).column?.filter fun c => ¬ o.Excludes c.identifier).map
      Column.field := by
  cases h : Line.read line with
  | closing remark => exact fieldOf?_of_read_eq_closing h
  | other => exact fieldOf?_of_read_eq_other h
  | column c =>
    rw [fieldOf?_of_read_eq_column h, Line.column?]
    by_cases he : o.Excludes c.identifier
    · simp [Option.filter, he]
    · simp [Option.filter, he]

/-- **The fields of a list of lines** are those of its columns without the ones that are left
out. -/
theorem fields_eq (o : Options) (lines : List Text) :
    fields o lines =
      ((columns lines).filter fun c => ¬ o.Excludes c.identifier).map Column.field := by
  induction lines with
  | nil => rfl
  | cons line lines ih =>
    rw [fields_cons, ih, columns_cons, List.filter_append, List.map_append, fieldOf?_eq]
    congr 1
    -- One line has one column or none.
    cases (Line.read line).column? with
    | none => rfl
    | some c => by_cases he : o.Excludes c.identifier <;> simp [he]

/-- Options that leave out the same columns give the same fields. -/
theorem fields_of_excludes_iff
    (h : ∀ c ∈ columns lines, o'.Excludes c.identifier ↔ o.Excludes c.identifier) :
    fields o' lines = fields o lines := by
  rw [fields_eq, fields_eq]
  congr 1
  apply List.filter_congr
  intro c hc
  rw [decide_eq_decide, h c hc]

end Fields

end Statement

/-- **Options that leave out the same columns** give the same outcome of a conversion, as long as
they remove the same prefix. -/
theorem conversionReport_of_excludes_iff {o o' : Options} {ddl : Text}
    (hp : o'.tablePrefix = o.tablePrefix)
    (h : ∀ c ∈ Statement.columns ddl.lines,
      o'.Excludes c.identifier ↔ o.Excludes c.identifier) :
    conversionReport o' ddl = conversionReport o ddl := by
  rw [conversionReport_eq, conversionReport_eq, Statement.name_congr hp,
    Statement.fields_of_excludes_iff h]

/-! ## Distinct names -/

section Names

variable {o : Options} {lines : List Text}

theorem Statement.map_name_fields_sublist (o : Options) (lines : List Text) :
    ((Statement.fields o lines).map Field.name).Sublist
      ((Statement.columns lines).map fun c => Text.toCamelCase c.identifier) := by
  rw [fields_eq, List.map_map]
  exact List.filter_sublist.map _

/-- Columns with distinct identifiers in snake case have distinct names in camel case. -/
theorem Statement.nodup_camelCase
    (hsnake : ∀ c ∈ Statement.columns lines, Text.IsSnakeCase c.identifier)
    (hdistinct : ((Statement.columns lines).map Column.identifier).Nodup) :
    ((Statement.columns lines).map fun c => Text.toCamelCase c.identifier).Nodup := by
  have hmap : ((Statement.columns lines).map fun c => Text.toCamelCase c.identifier) =
      ((Statement.columns lines).map Column.identifier).map Text.toCamelCase := by
    rw [List.map_map]
    rfl
  rw [hmap]
  refine List.Nodup.map_on ?_ hdistinct
  rintro a ha b hb hab
  obtain ⟨c, hc, rfl⟩ := List.mem_map.1 ha
  obtain ⟨d, hd, rfl⟩ := List.mem_map.1 hb
  exact Text.toCamelCase_injOn (hsnake c hc) (hsnake d hd) hab

/-- **Camel case keeps identifiers in snake case apart**, and so the fields of a struct have
distinct names if the columns of its statement have distinct identifiers in snake case. -/
theorem distinct_names_of_snakeCase :
    (∀ a b : Text, Text.IsSnakeCase a → Text.IsSnakeCase b →
      Text.toCamelCase a = Text.toCamelCase b → a = b) ∧
    ∀ (o : Options) (ddl : Text) (s : Struct), convert o ddl = .ok (some s) →
      (∀ c ∈ Statement.columns ddl.lines, Text.IsSnakeCase c.identifier) →
      ((Statement.columns ddl.lines).map Column.identifier).Nodup →
      (s.fields.map Field.name).Nodup := by
  constructor
  · intro a b ha hb hab
    exact Text.toCamelCase_injOn ha hb hab
  · intro o ddl s hs hsnake hdistinct
    obtain ⟨-, rfl⟩ := eq_of_convert_eq_ok hs
    exact (Statement.nodup_camelCase hsnake hdistinct).sublist
      (Statement.map_name_fields_sublist o ddl.lines)

/-- Three columns, one of them left out, whose identifiers differ only in where an underscore
stands. -/
theorem distinct_names_of_snakeCase_shifted :
    let o : Options := { ignored := ["ab_c1".toList] }
    let ddl : Text :=
      "CREATE TABLE \x60t\x60\n\x60a_bc1\x60 int\n\x60ab_c1\x60 int\n".toList ++
        "\x60abc1\x60 int\n\x60a_b_c1\x60 int".toList
    let s : Struct := ⟨"T".toList, [], ["aBc1".toList, "abc1".toList, "aBC1".toList].map
      fun name => ⟨.optional, .i32, name, []⟩⟩
    Text.toCamelCase "a_bc1".toList ≠ Text.toCamelCase "ab_c1".toList ∧
    convert o ddl = .ok (some s) ∧
    (∀ c ∈ Statement.columns ddl.lines, Text.IsSnakeCase c.identifier) ∧
    ((Statement.columns ddl.lines).map Column.identifier).Nodup ∧
    (s.fields.map Field.name).Nodup := by
  intro o ddl s
  obtain ⟨hapart, hnames⟩ := distinct_names_of_snakeCase
  have hs : convert o ddl = .ok (some s) := by decide +kernel
  have hsnake : ∀ c ∈ Statement.columns ddl.lines, Text.IsSnakeCase c.identifier := by
    decide +kernel
  have hdistinct : ((Statement.columns ddl.lines).map Column.identifier).Nodup := by
    decide +kernel
  refine ⟨?_, hs, hsnake, hdistinct, hnames o ddl s hs hsnake hdistinct⟩
  intro he
  exact absurd (hapart _ _ (by decide) (by decide) he) (by decide)

end Names

end TableThrift
