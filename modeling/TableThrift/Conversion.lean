import TableThrift.Ddl.Line
import TableThrift.Options.Basic
import TableThrift.Struct.Draft
import TableThrift.Text.Lines

/-!
# From a statement to a struct

The struct takes its name from the first line of the statement and its remark and fields from all
lines in order. Options may remove a word from the table's identifier and leave columns out.

## Main definitions

* `Options.ignores`: whether a column is left out
* `structNameOf`, `structName`: the name that an identifier, or a line, gives to a struct
* `draft`: what the lines of a statement give to a draft
* `convert`: the struct of a statement, if it has any lines
* `convertText`: the text of a conversion in all cases

## Main results

* `convert_of_lines_eq_nil`: a statement without lines gives no struct
-/

namespace TableThrift

/-- Whether a column is left out: its identifier or its field name is listed. -/
def Options.ignores (o : Options) (c : Column) : Bool :=
  o.ignored.contains c.identifier || o.ignored.contains (Text.toCamelCase c.identifier)

/-- The name of the struct of a table: the table's identifier without `tablePrefix`, in camel case
and capitalized. An empty `tablePrefix` changes nothing. -/
def structNameOf (identifier tablePrefix : Text) : Text :=
  Text.capitalize (Text.toCamelCase (Text.eraseFirst tablePrefix identifier))

/-- The name that a line gives to a struct, from the identifier on it. -/
def structName (line tablePrefix : Text) : Text :=
  structNameOf (Line.identifier line) tablePrefix

/-- What a line adds to a draft. -/
def Draft.take (o : Options) (d : Draft) (line : Text) : Draft :=
  match Line.read line with
  | .closing remark => d.remarked remark
  | .column c => if o.ignores c then d else d.add c.field
  | .other => d

/-- The draft of a statement, given its first line and all its lines. -/
def draft (o : Options) (first : Text) (lines : List Text) : Draft :=
  lines.foldl (Draft.take o) (({} : Draft).named (structName first o.tablePrefix))

/-- The struct of a statement; none if the statement has no lines. -/
def convert (o : Options) (ddl : Text) : Except Draft.Gap (Option Struct) :=
  match ddl.lines with
  | [] => .ok none
  | first :: rest => (draft o first (first :: rest)).finish.map some

/-- The text that stands for a statement without a struct. -/
def failureText : Text := "error".toList

/-- The text of a conversion: empty without lines, `failureText` if the draft is not complete. -/
def convertText (o : Options) (ddl : Text) : Text :=
  match convert o ddl with
  | .ok none => []
  | .ok (some s) => s.render
  | .error _ => failureText

/-- A statement without lines gives no struct. -/
theorem convert_of_lines_eq_nil {o : Options} {ddl : Text} (h : ddl.lines = []) :
    convert o ddl = .ok none := by simp [convert, h]

end TableThrift
