import TableThrift.Proofs.Conversion.Summary

/-!
# Lines that define no column

The line that opens a statement, its key lines and the line that names the engine define no
column, and are meant to be skipped. They are read like any other line, though: a word of a column
type makes a column of each of them, and the words are looked for in identifiers too. Such a line
stays silent exactly when none of its identifiers holds one of the words, or when it closes the
table.

## Main definitions

* `Text.Unquoted`: an identifier without quotes and newlines
* `Clause`, `Clause.line`: the lines of a statement by what they are for
* `Clause.names`: the texts of a line that may hold a word of a column type

## Main results

* `Clause.typed_line_iff`: where the word of a column type can stand on a line
* `Clause.reading_of_names_eq`, `Clause.reading_uniqueKey`, `Clause.reading_engine`: what a line
  that defines no column is read as
* `Clause.fields_eq_iff`: when the fields of a statement are those of its column lines
* `Clause.exists_phantom`, `Clause.clause_reading`: a line that defines no column may give a
  field, and when
-/

namespace TableThrift

/-- An identifier without backticks, single quotes and newlines. -/
structure Text.Unquoted (t : Text) : Prop where
  backtick : '\x60' ∉ t
  quote : '\'' ∉ t
  newline : '\n' ∉ t

/-- A line of a statement by what it is for. -/
inductive Clause where
  /-- The line that opens the statement of a table. -/
  | opening (table : Text)
  /-- The line of a primary key. -/
  | primaryKey (column : Text)
  /-- The line of a unique key over a column. -/
  | uniqueKey (key column : Text)
  /-- Any line that names an engine. -/
  | engine (line : Text)
  /-- The line of a column. -/
  | column (line : Text)
deriving DecidableEq, Repr

namespace Clause

/-- The line itself. -/
def line : Clause → Text
  | opening x => "CREATE TABLE ".toList ++ '\x60' :: (x ++ '\x60' :: [])
  | primaryKey x => "    PRIMARY KEY (".toList ++ '\x60' :: (x ++ '\x60' :: "),".toList)
  | uniqueKey x y =>
    "    UNIQUE KEY ".toList ++
      '\x60' :: ((x ++ '\x60' :: (" (".toList ++ '\x60' :: y)) ++ '\x60' :: ")".toList)
  | engine text => text
  | column text => text

/-- The identifiers hold no quotes or newlines, and a line of an engine names one. -/
def WellFormed : Clause → Prop
  | opening x => x.Unquoted
  | primaryKey x => x.Unquoted
  | uniqueKey x y => x.Unquoted ∧ y.Unquoted
  | engine line => "ENGINE".toList <:+: line
  | column _ => True

/-- Whether the line defines a column. -/
def isColumn : Clause → Bool
  | column _ => true
  | _ => false

/-- The texts of the line that may hold a word of a column type. -/
def names : Clause → List Text
  | opening x => [x]
  | primaryKey x => [x]
  | uniqueKey x y => [x, y]
  | engine line => [line]
  | column line => [line]

/-! ## Words on a line -/

section Words

variable {c : Clause} {x y : Text}

theorem line_opening (x : Text) :
    (opening x).line = "CREATE TABLE ".toList ++ '\x60' :: (x ++ '\x60' :: []) := rfl

theorem line_primaryKey (x : Text) :
    (primaryKey x).line =
      "    PRIMARY KEY (".toList ++ '\x60' :: (x ++ '\x60' :: "),".toList) := rfl

theorem line_uniqueKey (x y : Text) :
    (uniqueKey x y).line = "    UNIQUE KEY ".toList ++
      '\x60' :: ((x ++ '\x60' :: (" (".toList ++ '\x60' :: y)) ++ '\x60' :: ")".toList) := rfl

/-- The words of column types on a line are those of its names. -/
theorem word_infix_line_iff (type : ColumnType) (c : Clause) :
    type.word <:+: c.line ↔ ∃ t ∈ c.names, type.word <:+: t := by
  cases c with
  | opening x =>
    rw [line_opening, ColumnType.word_infix_backticks_iff (by decide) (by decide)]
    simp [names]
  | primaryKey x =>
    rw [line_primaryKey, ColumnType.word_infix_backticks_iff (by decide) (by decide)]
    simp [names]
  | uniqueKey x y =>
    -- The second identifier stands behind two more backticks, inside the outermost ones.
    have hb : '\x60' ∉ type.word := ColumnType.not_mem_word (by decide)
    have hp : ¬ type.word <:+: " (".toList := ColumnType.not_infix_word (by decide)
    rw [line_uniqueKey, ColumnType.word_infix_backticks_iff (by decide) (by decide),
      Text.infix_append_cons_iff hb, Text.infix_append_cons_iff hb, or_iff_right hp]
    simp [names]
  | engine text =>
    change type.word <:+: text ↔ _
    simp [names]
  | column text =>
    change type.word <:+: text ↔ _
    simp [names]

theorem typed_line_iff : Line.Typed c.line ↔ ∃ t ∈ c.names, Line.Typed t := by
  simp only [Line.Typed, word_infix_line_iff]
  constructor
  · rintro ⟨type, t, ht, h⟩
    exact ⟨t, ht, type, h⟩
  · rintro ⟨t, ht, type, h⟩
    exact ⟨type, t, ht, h⟩

end Words

/-! ## Readings -/

section Readings

open Line (Closes Typed read)

variable {c : Clause} {x y line : Text}

/-- A line without single quotes does not close the table. -/
theorem not_closes_of_not_mem (hn : '\n' ∉ line) (h : '\'' ∉ line) : ¬ Closes line :=
  fun hc => hc.2 (Text.enclosed_eq_nil hn h)

/-- Neither the opening line nor a key line closes the table. -/
theorem not_closes_line (h : c.WellFormed) (hc : c.isColumn = false)
    (he : ∀ line, c ≠ engine line) : ¬ Closes c.line := by
  cases c with
  | opening x =>
    rw [line_opening]
    exact not_closes_of_not_mem (by simp [h.newline]) (by simp [h.quote])
  | primaryKey x =>
    rw [line_primaryKey]
    exact not_closes_of_not_mem (by simp [h.newline]) (by simp [h.quote])
  | uniqueKey x y =>
    rw [line_uniqueKey]
    exact not_closes_of_not_mem (by simp [h.1.newline, h.2.newline])
      (by simp [h.1.quote, h.2.quote])
  | engine text => exact absurd rfl (he text)
  | column text => cases hc

/-- The identifier on the opening line is the one given. -/
theorem identifier_line_opening (h : x.Unquoted) : Line.identifier (opening x).line = x := by
  rw [line_opening, Line.identifier]
  exact Text.enclosed_append (by simp [h.newline]) (by decide) (by decide)

theorem identifier_line_primaryKey (h : x.Unquoted) :
    Line.identifier (primaryKey x).line = x := by
  rw [line_primaryKey, Line.identifier]
  exact Text.enclosed_append (by simp [h.newline]) (by decide) (by decide)

/-- On the line of a unique key the outermost backticks enclose both identifiers. -/
theorem identifier_line_uniqueKey (hx : x.Unquoted) (hy : y.Unquoted) :
    Line.identifier (uniqueKey x y).line = x ++ "\x60 (\x60".toList ++ y := by
  rw [line_uniqueKey, Line.identifier,
    Text.enclosed_append (by simp [hx.newline, hy.newline]) (by decide) (by decide)]
  simp

/-- A line that does not close the table says nothing exactly when none of its names holds the word
of a column type, and else gives a column under the identifier on it. -/
theorem reading_of_not_closes (h : ¬ Closes c.line) :
    (read c.line = .other ↔ ∀ t ∈ c.names, ¬ Typed t) ∧
      ((∃ t ∈ c.names, Typed t) → ∃ column, read c.line = .column column ∧
        column.identifier = Line.identifier c.line) := by
  constructor
  · rw [Line.read_eq_other_iff, and_iff_right h, typed_line_iff]
    simp only [not_exists, not_and]
  · intro ht
    exact Line.exists_read_eq_column h (typed_line_iff.2 ht)

/-- The same for a line with a single identifier, which is its only name. -/
theorem reading_of_names_eq (h : ¬ Closes c.line) (hn : c.names = [x])
    (hi : Line.identifier c.line = x) :
    (read c.line = .other ↔ ¬ Typed x) ∧
      (Typed x → ∃ column, read c.line = .column column ∧ column.identifier = x) := by
  have hr := reading_of_not_closes h
  rw [hn, hi] at hr
  simpa only [List.mem_singleton, forall_eq, exists_eq_left] using hr

/-- A key line over two identifiers says nothing exactly when neither holds the word of a column
type. -/
theorem reading_uniqueKey (hx : x.Unquoted) (hy : y.Unquoted) :
    (read (uniqueKey x y).line = .other ↔ ¬ Typed x ∧ ¬ Typed y) ∧
      (Typed x ∨ Typed y → ∃ column, read (uniqueKey x y).line = .column column ∧
        column.identifier = x ++ "\x60 (\x60".toList ++ y) := by
  have hr := reading_of_not_closes (not_closes_line (c := uniqueKey x y) ⟨hx, hy⟩ rfl (by simp))
  simpa only [names, List.mem_cons, List.not_mem_nil, or_false, forall_eq_or_imp, forall_eq,
    exists_eq_or_imp, exists_eq_left, identifier_line_uniqueKey hx hy] using hr

/-- A line that names an engine closes the table if it quotes a remark, and else is read by the
words on it. -/
theorem reading_engine (h : "ENGINE".toList <:+: line) :
    (Text.enclosed '\'' line ≠ [] → read line = .closing (Text.enclosed '\'' line)) ∧
      (Text.enclosed '\'' line = [] →
        (read line = .other ↔ ¬ Typed line) ∧
          (Typed line → ∃ column, read line = .column column)) := by
  constructor
  · intro hr
    exact Line.read_eq_closing_iff.2 ⟨⟨h, hr⟩, Line.closingRemark_of_infix h⟩
  · intro hr
    have hc : ¬ Closes line := fun hc => hc.2 hr
    refine ⟨by rw [Line.read_eq_other_iff, and_iff_right hc], fun ht => ?_⟩
    obtain ⟨column, hcolumn, -⟩ := Line.exists_read_eq_column hc ht
    exact ⟨column, hcolumn⟩

end Readings

/-! ## Fields of a statement -/

section Fields

variable {o : Options} {cs : List Clause}

/-- The fields of a statement are those of its column lines exactly when every other line closes
the table, holds no word of a column type in its names, or names a column to leave out. -/
theorem fields_eq_iff :
    Statement.fields o (cs.map line) = Statement.fields o ((cs.filter isColumn).map line) ↔
      ∀ c ∈ cs, c.isColumn = false →
        Line.Closes c.line ∨ (∀ t ∈ c.names, ¬ Line.Typed t) ∨
          o.Excludes (Line.identifier c.line) := by
  rw [Statement.fields, Statement.fields, List.filterMap_map, List.filterMap_map,
    filterMap_filter_eq_iff]
  simp only [Function.comp_apply, Statement.fieldOf?_eq_none_iff, typed_line_iff, not_exists,
    not_and]

end Fields

/-! ## Phantom fields -/

section Phantom

open Line (Closes Typed read)

/-- **A phantom field**: a line that defines no column may be read as one. Here it is a primary
key over a column whose identifier holds the word `int`. -/
theorem exists_phantom :
    ¬ ∀ c : Clause, c.WellFormed → c.isColumn = false → ∀ column, read c.line ≠ .column column := by
  intro h
  have hw : WellFormed (primaryKey "point_id".toList) := ⟨by decide, by decide, by decide⟩
  have hr : read (primaryKey "point_id".toList).line =
      .column ⟨"point_id".toList, .optional, .i32, []⟩ := by decide
  exact h _ hw rfl _ hr

/-- **The lines that define no column.** The opening line and the key lines say nothing exactly
when no identifier on them holds the word of a column type, and else give a column under what
their outermost backticks enclose. A line that names an engine closes the table if it quotes a
remark, and else is read by the words on it. The fields of a statement are those of its column
lines exactly when no other line gives one that is kept. -/
theorem clause_reading (x y text : Text) (o : Options) (cs : List Clause) :
    (x.Unquoted → ∀ c ∈ [opening x, primaryKey x],
      (read c.line = .other ↔ ¬ Typed x) ∧
      (Typed x → ∃ column, read c.line = .column column ∧ column.identifier = x)) ∧
    (x.Unquoted → y.Unquoted →
      (read (uniqueKey x y).line = .other ↔ ¬ Typed x ∧ ¬ Typed y) ∧
      (Typed x ∨ Typed y → ∃ column, read (uniqueKey x y).line = .column column ∧
        column.identifier = x ++ "\x60 (\x60".toList ++ y)) ∧
    ("ENGINE".toList <:+: text →
      (Text.enclosed '\'' text ≠ [] → read text = .closing (Text.enclosed '\'' text)) ∧
      (Text.enclosed '\'' text = [] → (read text = .other ↔ ¬ Typed text) ∧
        (Typed text → ∃ column, read text = .column column))) ∧
    ∀ (ddl : Text) (s : Struct), ddl.lines = cs.map line → convert o ddl = .ok (some s) →
      (s.fields = Statement.fields o ((cs.filter isColumn).map line) ↔
        ∀ c ∈ cs, c.isColumn = false →
          Closes c.line ∨ (∀ t ∈ c.names, ¬ Typed t) ∨ o.Excludes (Line.identifier c.line)) := by
  refine ⟨?_, reading_uniqueKey, reading_engine, ?_⟩
  · intro hx c hc
    rcases List.mem_cons.1 hc with rfl | hc
    · have hclose := not_closes_line (c := opening x) hx rfl (by simp)
      exact reading_of_names_eq hclose rfl (identifier_line_opening hx)
    · obtain rfl := List.mem_singleton.1 hc
      have hclose := not_closes_line (c := primaryKey x) hx rfl (by simp)
      exact reading_of_names_eq hclose rfl (identifier_line_primaryKey hx)
  · intro ddl s hl h
    obtain ⟨-, rfl⟩ := eq_of_convert_eq_ok h
    rw [hl]
    exact fields_eq_iff

/-- A statement with one column whose primary key gives a second field, as its line is read as a
column. -/
theorem clause_reading_second_field :
    let o : Options := ⟨"t_".toList, []⟩
    let cs : List Clause := [opening "t_a".toList, column "\x60id\x60 bigint".toList,
      primaryKey "point_id".toList]
    let ddl : Text :=
      "CREATE TABLE \x60t_a\x60\n\x60id\x60 bigint\n    PRIMARY KEY (\x60point_id\x60),".toList
    let s : Struct := ⟨"A".toList, [],
      [⟨.optional, .i64, "id".toList, []⟩, ⟨.optional, .i32, "pointId".toList, []⟩]⟩
    (Text.Unquoted "point_id".toList ∧ ∃ column,
      read (primaryKey "point_id".toList).line = .column column ∧
        column.identifier = "point_id".toList) ∧
    ddl.lines = cs.map line ∧ convert o ddl = .ok (some s) ∧
      s.fields ≠ Statement.fields o ((cs.filter isColumn).map line) := by
  intro o cs ddl s
  obtain ⟨hreading, -, -, hfields⟩ := clause_reading "point_id".toList [] [] o cs
  have hunquoted : Text.Unquoted "point_id".toList := ⟨by decide, by decide, by decide⟩
  have htyped : Typed "point_id".toList := ⟨.int, by decide +kernel⟩
  have hl : ddl.lines = cs.map line := by decide +kernel
  have hs : convert o ddl = .ok (some s) := by decide +kernel
  refine ⟨⟨hunquoted, (hreading hunquoted _ (List.mem_pair.2 (.inr rfl))).2 htyped⟩, hl, hs,
    fun he => ?_⟩
  have hkey := (hfields ddl s hl hs).1 he (primaryKey "point_id".toList)
    (List.mem_of_getLast? rfl) rfl
  rcases hkey with hc | ht | hx
  · exact absurd hc (by decide +kernel)
  · exact ht "point_id".toList List.mem_cons_self htyped
  · exact absurd hx (by decide +kernel)

end Phantom

end Clause

end TableThrift
