import TableThrift.Ddl.Line

/-!
# Tables in standard layout

A table given as data and its statement in standard layout: the identifier on the first line, one
line for each column, and the engine with the table's remark on the last.

## Main definitions

* `Presence.clause`: the words of a column that must or need not have a value
* `ColumnDefinition`, `ColumnDefinition.line`: a column and its line
* `Table`, `Table.layout`, `Table.render`: a table, its lines and its statement

## Main results

* `Table.length_layout`: three lines stand around those of the columns
-/

namespace TableThrift

/-- The words of a column that must have a value, or need not have one. -/
def Presence.clause : Presence → Text
  | required => "NOT NULL".toList
  | optional => "null".toList

/-- A column of a table in standard layout. -/
structure ColumnDefinition where
  /-- The number of spaces before the identifier. -/
  indent : Nat
  identifier : Text
  type : ColumnType
  /-- The digits in parentheses behind the type, if there are parentheses. -/
  width : Option (List (Fin 10))
  presence : Presence
  remark : Text
deriving DecidableEq, Repr

namespace ColumnDefinition

/-- The width of a type in parentheses; nothing if there is none. -/
def parenthesized : Option (List (Fin 10)) → Text
  | none => []
  | some digits => ['('] ++ digits.map (fun d => d.val.digitChar) ++ [')']

/-- The line of a column. -/
def line (c : ColumnDefinition) : Text :=
  List.replicate c.indent ' ' ++ "\x60".toList ++ c.identifier ++ "\x60 ".toList ++ c.type.word ++
    parenthesized c.width ++ " ".toList ++ c.presence.clause ++ " COMMENT '".toList ++ c.remark ++
    "',".toList

end ColumnDefinition

/-- A table in standard layout. -/
structure Table where
  identifier : Text
  columns : List ColumnDefinition
  remark : Text
deriving DecidableEq, Repr

namespace Table

/-- The line that names a table. -/
def openingLine (t : Table) : Text :=
  "CREATE TABLE \x60".toList ++ t.identifier ++ "\x60".toList

/-- The line that ends a table and gives its remark. -/
def closingLine (t : Table) : Text :=
  ") ENGINE = InnoDB COMMENT = '".toList ++ t.remark ++ "';".toList

/-- The lines of a table. -/
def layout (t : Table) : List Text :=
  [t.openingLine, ['(']] ++ t.columns.map ColumnDefinition.line ++ [t.closingLine]

/-- The statement of a table. -/
def render (t : Table) : Text := List.intercalate ['\n'] t.layout

/-- Three lines stand around those of the columns. -/
theorem length_layout (t : Table) : t.layout.length = t.columns.length + 3 := by
  simp only [layout, List.length_append, List.length_map, List.length_cons, List.length_nil]
  omega

end Table

end TableThrift
