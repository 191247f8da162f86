import TableThrift.Ddl.Line
import TableThrift.Proofs.Text.Cut
import TableThrift.Proofs.Text.Enclosed

/-!
# What a line is read as

A line is read by two questions: whether it closes the table, and whether it holds the word of a
column type. The first one is asked first.

## Main definitions

* `Line.Closes`, `Line.Typed`: the two questions

## Main results

* `Line.read_of_closes`, `Line.read_of_not_closes`: the reading of a line by the two answers
* `Line.read_eq_closing_iff`, `Line.read_eq_other_iff`, `Line.read_eq_column_iff`: when each
  reading occurs
* `ColumnType.word_infix_backticks_iff`: where a word of a column type can stand
* `Line.typed_iff`: three words decide whether a line is typed
-/

namespace TableThrift

/-! ## Words of column types -/

namespace ColumnType

section Words

variable {type : ColumnType} {c : Char} {start stop x : Text}

theorem isLower_of_mem_word (h : c ∈ type.word) : c.isLower = true := by
  have hw : type.word.all Char.isLower = true := by cases type <;> decide
  exact List.all_eq_true.1 hw c h

theorem not_mem_word (h : c.isLower = false) : c ∉ type.word := by
  intro hm
  rw [isLower_of_mem_word hm] at h
  cases h

theorem word_ne_nil (type : ColumnType) : type.word ≠ [] := by
  cases type <;> decide

/-- No word of a column type occurs in a text without lower-case letters. -/
theorem not_infix_word (h : start.any Char.isLower = false) : ¬ type.word <:+: start := by
  obtain ⟨c, hc⟩ := List.exists_mem_of_ne_nil type.word (word_ne_nil type)
  refine Text.not_infix_of_not_mem hc fun hm => ?_
  exact List.any_eq_false.1 h c hm (isLower_of_mem_word hc)

/-- Between backticks, with no lower-case letters around them, only the enclosed part can hold a
word of a column type. -/
theorem word_infix_backticks_iff (hstart : start.any Char.isLower = false)
    (hstop : stop.any Char.isLower = false) :
    type.word <:+: start ++ '\x60' :: (x ++ '\x60' :: stop) ↔ type.word <:+: x := by
  have hb : '\x60' ∉ type.word := not_mem_word (by decide)
  rw [Text.infix_append_cons_iff hb, Text.infix_append_cons_iff hb,
    or_iff_right (not_infix_word hstart), or_iff_left (not_infix_word hstop)]

end Words

end ColumnType

namespace Line

variable {line : Text}

/-- A line closes the table if it names an engine and quotes a remark that is not empty. -/
def Closes (line : Text) : Prop := "ENGINE".toList <:+: line ∧ Text.enclosed '\'' line ≠ []

/-- A line is typed if the word of a column type occurs in it. -/
def Typed (line : Text) : Prop := ∃ type : ColumnType, type.word <:+: line

instance : DecidablePred Closes := fun _ => inferInstanceAs (Decidable (_ ∧ _))

/-! ## Remarks -/

section Remark

/-- The remark that closes a table is not empty exactly on a line that closes it. -/
theorem closingRemark_ne_nil_iff : closingRemark line ≠ [] ↔ Closes line := by
  rw [Closes, ← Text.occurs_iff, closingRemark]
  split
  · next h => exact ⟨fun hne => ⟨h, hne⟩, And.right⟩
  · next h => exact ⟨fun hne => absurd rfl hne, fun hc => absurd hc.1 h⟩

theorem closingRemark_of_not_closes (h : ¬ Closes line) : closingRemark line = [] := by
  by_contra hne
  exact h (closingRemark_ne_nil_iff.1 hne)

theorem closingRemark_of_infix (h : "ENGINE".toList <:+: line) :
    closingRemark line = Text.enclosed '\'' line := by
  rw [closingRemark, if_pos (Text.occurs_iff.2 h)]

theorem closingRemark_subset (line : Text) : closingRemark line ⊆ line := by
  unfold closingRemark
  split
  · exact Text.enclosed_subset _ line
  · exact List.nil_subset line

end Remark

/-! ## Types -/

section Types

theorem mem_searchOrder (type : ColumnType) : type ∈ ColumnType.searchOrder := by
  cases type <;> decide

/-- A line has no base type exactly when it is not typed. -/
theorem baseType?_eq_none_iff : baseType? line = none ↔ ¬ Typed line := by
  rw [baseType?, Option.map_eq_none_iff, List.find?_eq_none, Typed, not_exists]
  simp only [Text.occurs_iff]
  exact ⟨fun h type => h type (mem_searchOrder type), fun h type _ => h type⟩

instance : DecidablePred Typed := fun line =>
  decidable_of_iff (baseType? line ≠ none) (baseType?_eq_none_iff.not.trans not_not)

/-- Three words decide whether a line is typed, as `int` is a part of two of the five. -/
theorem typed_iff :
    Typed line ↔ "int".toList <:+: line ∨ "varchar".toList <:+: line ∨
      "timestamp".toList <:+: line := by
  constructor
  · rintro ⟨type, h⟩
    cases type with
    | bigint => exact .inl (List.IsInfix.trans ⟨"big".toList, [], by decide⟩ h)
    | tinyint => exact .inl (List.IsInfix.trans ⟨"tiny".toList, [], by decide⟩ h)
    | varchar => exact .inr (.inl h)
    | timestamp => exact .inr (.inr h)
    | int => exact .inl h
  · rintro (h | h | h)
    · exact ⟨.int, h⟩
    · exact ⟨.varchar, h⟩
    · exact ⟨.timestamp, h⟩

end Types

/-! ## Readings -/

section Read

/-- A line that closes the table is read as its remark, whatever else it holds. -/
theorem read_of_closes (h : Closes line) : read line = .closing (closingRemark line) := by
  have hne := closingRemark_ne_nil_iff.2 h
  unfold read
  split
  · next he => exact absurd he hne
  · rfl

/-- Any other line is a column if it has a base type. -/
theorem read_of_not_closes (h : ¬ Closes line) :
    read line = match baseType? line with
      | none => .other
      | some type => .column ⟨identifier line, presence line, type, columnRemark line⟩ := by
  have hr := closingRemark_of_not_closes h
  unfold read
  split
  · rfl
  · next hne => exact absurd hr hne

/-- A line is read as a remark exactly when it closes the table. -/
theorem read_eq_closing_iff {remark : Text} :
    read line = .closing remark ↔ Closes line ∧ closingRemark line = remark := by
  by_cases hc : Closes line
  · rw [read_of_closes hc, closing.injEq]
    exact (and_iff_right hc).symm
  · rw [read_of_not_closes hc]
    cases baseType? line <;> simp [hc]

/-- A line says nothing exactly when it neither closes the table nor is typed. -/
theorem read_eq_other_iff : read line = .other ↔ ¬ Closes line ∧ ¬ Typed line := by
  by_cases hc : Closes line
  · rw [read_of_closes hc]
    simp [hc]
  · rw [read_of_not_closes hc, ← baseType?_eq_none_iff]
    cases baseType? line <;> simp [hc]

/-- A line is read as a column exactly when it does not close the table and has a base type, and
then the column is what the words of the line say. -/
theorem read_eq_column_iff {column : Column} :
    read line = .column column ↔ ¬ Closes line ∧ ∃ type, baseType? line = some type ∧
      column = ⟨identifier line, presence line, type, columnRemark line⟩ := by
  by_cases hc : Closes line
  · rw [read_of_closes hc]
    simp [hc]
  · rw [read_of_not_closes hc]
    cases baseType? line <;> simp [hc, eq_comm]

/-- A typed line is read as a column under its identifier, unless it closes the table. -/
theorem exists_read_eq_column (h : ¬ Closes line) (ht : Typed line) :
    ∃ column, read line = .column column ∧ column.identifier = identifier line := by
  cases hb : baseType? line with
  | none => exact absurd ht (baseType?_eq_none_iff.1 hb)
  | some type =>
    exact ⟨⟨identifier line, presence line, type, columnRemark line⟩,
      read_eq_column_iff.2 ⟨h, type, hb, rfl⟩, rfl⟩

end Read

end Line

end TableThrift
