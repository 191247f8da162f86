import TableThrift.Struct.Basic
import TableThrift.Text.Case
import TableThrift.Text.Enclosed

/-!
# Lines of a `CREATE TABLE` statement

A line is told by the words it holds, wherever they stand. The line that closes the table names
its engine and may quote the table's remark; a column line holds the name of a column type. All
other lines say nothing about the struct.

## Main definitions

* `ColumnType`, `ColumnType.base`: the column types that are told apart, and the base type of each
* `Column`, `Line`: what a line says
* `Line.read`: the reading of a line
* `Line.identifier`, `Line.closingRemark`, `Line.columnRemark`, `Line.presence`,
  `Line.baseType?`: what the words of a line say
-/

namespace TableThrift

/-- The column types that a line is searched for. -/
inductive ColumnType where
  | bigint
  | tinyint
  | varchar
  | timestamp
  | int
deriving DecidableEq, Repr

namespace ColumnType

/-- The word for it in a statement. -/
def word : ColumnType → Text
  | bigint => "bigint".toList
  | tinyint => "tinyint".toList
  | varchar => "varchar".toList
  | timestamp => "timestamp".toList
  | int => "int".toList

/-- The type of a field made from such a column. -/
def base : ColumnType → BaseType
  | bigint => .i64
  | tinyint => .i32
  | varchar => .string
  | timestamp => .i64
  | int => .i32

/-- The column types in the order in which a line is searched for them; `int` is last because it
is a part of two others. -/
def searchOrder : List ColumnType := [bigint, tinyint, varchar, timestamp, int]

end ColumnType

/-- A column of a table as its line gives it. -/
structure Column where
  identifier : Text
  presence : Presence
  type : BaseType
  remark : Text
deriving DecidableEq, Repr

/-- What a line of a statement says. -/
inductive Line where
  /-- The end of the table, with the table's remark, which is not empty. -/
  | closing (remark : Text)
  /-- A column. -/
  | column (column : Column)
  /-- Nothing that matters to the struct. -/
  | other
deriving DecidableEq, Repr

namespace Line

/-- The identifier between the outermost backticks of a line; empty if there is none. -/
def identifier (line : Text) : Text := Text.enclosed '\x60' line

/-- The remark between the outermost single quotes of a line that names an engine; empty if there
is none. -/
def closingRemark (line : Text) : Text :=
  if Text.occurs "ENGINE".toList line then Text.enclosed '\'' line else []

/-- The remark between the last two single quotes after the word `COMMENT`; empty if there is
none. -/
def columnRemark (line : Text) : Text := Text.enclosedAfter "COMMENT".toList '\'' line

/-- The base type of the first column type, in search order, whose word occurs in a line. -/
def baseType? (line : Text) : Option BaseType :=
  (ColumnType.searchOrder.find? fun type => Text.occurs type.word line).map ColumnType.base

/-- A field is required if its line says so in upper case. -/
def presence (line : Text) : Presence :=
  if Text.occurs "NOT NUL".toList line then .required else .optional

/-- The reading of a line. The table's remark is looked for first, then a column type. -/
def read (line : Text) : Line :=
  match closingRemark line with
  -- An engine without a remark does not close the table.
  | [] =>
    match baseType? line with
    | none => .other
    | some type => .column ⟨identifier line, presence line, type, columnRemark line⟩
  | remark => .closing remark

end Line

/-- The field made from a column: its name is the identifier in camel case. -/
def Column.field (c : Column) : Field :=
  ⟨c.presence, c.type, Text.toCamelCase c.identifier, c.remark⟩

end TableThrift
