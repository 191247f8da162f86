import TableThrift.Proofs.Conversion.Summary
import TableThrift.Proofs.Text.Case

/-!
# Fields without a name

A typed line need not hold an identifier, and camel case leaves nothing of an identifier of
underscores. A conversion does not ask for a name: such a line gives a field with an empty name,
which takes its number like any other. Only the columns to leave out can keep it away, with an empty
entry for all of them at once.

## Main definitions

* `Line.Unnamed`: a line that gives no name to a field

## Main results

* `Line.unnamed_iff`: the field of such a line has an empty name
* `Statement.forall_name_ne_nil_iff`: when all fields of a list of lines have names
* `Statement.names_of_convert`: the names of the fields of a struct
* `Statement.exists_unnamed_field`: a field without a name
-/

namespace TableThrift

/-- A line gives no name to a field if its identifier holds nothing but underscores. -/
def Line.Unnamed (line : Text) : Prop := ∀ c ∈ identifier line, c = '_'

instance : DecidablePred Line.Unnamed := fun line =>
  List.decidableBAll (· = '_') (Line.identifier line)

theorem Line.unnamed_iff {line : Text} :
    Unnamed line ↔ Text.toCamelCase (identifier line) = [] :=
  Text.toCamelCase_eq_nil_iff.symm

namespace Statement

variable {o : Options} {ddl line : Text} {lines : List Text} {s : Struct} {f : Field}

/-! ## Names of fields -/

section Names

theorem name_of_fieldOf?_eq_some (h : fieldOf? o line = some f) :
    f.name = Text.toCamelCase (Line.identifier line) := by
  unfold fieldOf? at h
  split at h
  · cases h
  · obtain ⟨type, -, rfl⟩ := Option.map_eq_some_iff.1 h
    rfl

/-- All fields of a list of lines have names exactly when the lines without one close the table,
have no type or name a column to leave out. -/
theorem forall_name_ne_nil_iff :
    (∀ f ∈ fields o lines, f.name ≠ []) ↔ ∀ line ∈ lines, Line.Unnamed line →
      Line.Closes line ∨ ¬ Line.Typed line ∨ o.Excludes (Line.identifier line) := by
  simp only [← fieldOf?_eq_none_iff]
  constructor
  · -- A field of such a line would have the empty name.
    intro h line hline hu
    cases hf : fieldOf? o line with
    | none => rfl
    | some f =>
      refine absurd ?_ (h f (List.mem_filterMap.2 ⟨line, hline, hf⟩))
      rw [name_of_fieldOf?_eq_some hf, Line.unnamed_iff.1 hu]
  · intro h f hf hname
    obtain ⟨line, hline, hf⟩ := List.mem_filterMap.1 hf
    rw [name_of_fieldOf?_eq_some hf, ← Line.unnamed_iff] at hname
    rw [h line hline hname] at hf
    cases hf

/-- An empty entry among the columns to leave out leaves out every line without a name. -/
theorem excludes_of_unnamed (h : [] ∈ o.ignored) (hu : Line.Unnamed line) :
    o.Excludes (Line.identifier line) :=
  ⟨[], h, .inr (Line.unnamed_iff.1 hu).symm⟩

end Names

/-! ## Names in a struct -/

section Struct

/-- **Names of the fields of a struct.** They all have one exactly when every line without a name
closes the table, has no type or is to be left out; else such a line gives a field with an empty
name, which takes its place and number among the others. With an empty entry among the columns to
leave out all fields have names, and the lines without one do not matter. -/
theorem names_of_convert (h : convert o ddl = .ok (some s)) :
    ((∀ f ∈ s.fields, f.name ≠ []) ↔ ∀ line ∈ ddl.lines, Line.Unnamed line →
      Line.Closes line ∨ ¬ Line.Typed line ∨ o.Excludes (Line.identifier line)) ∧
    (∀ before line after, ddl.lines = before ++ line :: after → Line.Unnamed line →
      (Line.Closes line ∨ ¬ Line.Typed line ∨ o.Excludes (Line.identifier line) →
        s.fields = fields o before ++ fields o after) ∧
      (¬ Line.Closes line → Line.Typed line → ¬ o.Excludes (Line.identifier line) →
        ∃ type, Line.baseType? line = some type ∧ s.fields = fields o before ++
          ⟨Line.presence line, type, [], Line.columnRemark line⟩ :: fields o after)) ∧
    ([] ∈ o.ignored → (∀ f ∈ s.fields, f.name ≠ []) ∧
      s.fields = fields o (ddl.lines.filter fun line => ¬ Line.Unnamed line)) := by
  obtain ⟨-, rfl⟩ := eq_of_convert_eq_ok h
  refine ⟨forall_name_ne_nil_iff, fun before line after hl hu => ?_, fun hempty => ?_⟩
  · -- What the line gives stands between the fields of the lines around it.
    rw [hl, fields_append_cons]
    refine ⟨fun hnone => ?_, fun hc ht he => ?_⟩
    · rw [fieldOf?_eq_none_iff.2 hnone]
      rfl
    · obtain ⟨column, hcolumn, hid⟩ := Line.exists_read_eq_column hc ht
      obtain ⟨-, type, htype, rfl⟩ := Line.read_eq_column_iff.1 hcolumn
      refine ⟨type, htype, ?_⟩
      rw [fieldOf?_of_read_eq_column hcolumn, if_neg he, Column.field, Line.unnamed_iff.1 hu]
      rfl
  · refine ⟨forall_name_ne_nil_iff.2 fun line _ hu => .inr (.inr (excludes_of_unnamed hempty hu)),
      fields_filter_eq_iff.2 fun line _ hp => .inr (.inr (excludes_of_unnamed hempty ?_))⟩
    simpa using hp

/-- A column without backticks gives a field without a name, and the column behind it the second
field. With an empty entry among the columns to leave out it gives none. -/
theorem names_of_convert_second :
    let ddl : Text :=
      "CREATE TABLE \x60a\x60\n(\n    id bigint NOT NULL,\n    \x60name\x60 varchar(8)\n)".toList
    let name : Field := ⟨.optional, .string, "name".toList, []⟩
    let s : Struct := ⟨"A".toList, [], [⟨.required, .i64, [], []⟩, name]⟩
    let s' : Struct := ⟨"A".toList, [], [name]⟩
    convert {} ddl = .ok (some s) ∧
      (∃ type, s.fields = fields {} ["CREATE TABLE \x60a\x60".toList, ['(']] ++
        ⟨.required, type, [], []⟩ :: fields {} ["    \x60name\x60 varchar(8)".toList, [')']]) ∧
      convert { ignored := [[]] } ddl = .ok (some s') ∧ ∀ f ∈ s'.fields, f.name ≠ [] := by
  intro ddl name s s'
  have hs : convert {} ddl = .ok (some s) := by decide +kernel
  have hs' : convert { ignored := [[]] } ddl = .ok (some s') := by decide +kernel
  obtain ⟨-, hplace, -⟩ := names_of_convert hs
  have hlines : ddl.lines = ["CREATE TABLE \x60a\x60".toList, ['(']] ++
      "    id bigint NOT NULL,".toList :: ["    \x60name\x60 varchar(8)".toList, [')']] := by
    decide +kernel
  have hu : Line.Unnamed "    id bigint NOT NULL,".toList := by decide +kernel
  have hc : ¬ Line.Closes "    id bigint NOT NULL,".toList := by decide +kernel
  have ht : Line.Typed "    id bigint NOT NULL,".toList := ⟨.bigint, by decide +kernel⟩
  have he : ¬ ({} : Options).Excludes (Line.identifier "    id bigint NOT NULL,".toList) := by
    decide +kernel
  obtain ⟨type, -, hfields⟩ := (hplace _ _ _ hlines hu).2 hc ht he
  exact ⟨hs, ⟨type, hfields⟩, hs', ((names_of_convert hs').2.2 (by decide)).1⟩

/-- **A field without a name**: a column without backticks gives one, and takes a number with it. -/
theorem exists_unnamed_field :
    ¬ ∀ (o : Options) (ddl : Text) (s : Struct), convert o ddl = .ok (some s) →
      (∀ f ∈ s.fields, f.name ≠ []) ∧
        s.fields = fields o (ddl.lines.filter fun line => ¬ Line.Unnamed line) := by
  intro h
  let ddl : Text :=
    "CREATE TABLE \x60t_a\x60\n(\n    id bigint NOT NULL,\n    \x60name\x60 varchar(8)\n)".toList
  have hs : convert { tablePrefix := "t_".toList } ddl = .ok (some ⟨"A".toList, [],
      [⟨.required, .i64, [], []⟩, ⟨.optional, .string, "name".toList, []⟩]⟩) := by
    decide +kernel
  exact (h _ _ _ hs).1 _ List.mem_cons_self rfl

end Struct

end Statement

end TableThrift
