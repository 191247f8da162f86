import TableThrift.Struct.Basic

/-!
# The text of a struct

A struct is written line by line: its remark, its name and an opening brace, one line for each
field, and the closing brace. Every line but the last ends with a carriage return and a newline.

## Main definitions

* `lineBreak`: the end of a line
* `Field.line`, `Field.lines`: the lines of fields
* `Struct.layout`: the lines of a struct
* `Struct.render`: the text
-/

namespace TableThrift

/-- The end of every line of a struct but its last. -/
def lineBreak : Text := ['\r', '\n']

/-- The line of a field under its number. -/
def Field.line (field : Field) (number : Nat) : Text :=
  "    ".toList ++ Nat.toDigits 10 number ++ ":".toList ++ field.presence.word ++ " ".toList ++
    field.type.word ++ " ".toList ++ field.name ++ " //".toList ++ field.remark

/-- The lines of fields, each under its number. -/
def Field.lines (fields : List Field) : List Text :=
  (numbered fields).map fun p => p.1.line p.2.toNat

namespace Struct

/-- The lines of a struct. -/
def layout (s : Struct) : List Text :=
  ["//".toList ++ s.remark, "struct ".toList ++ s.name ++ ['{']] ++ Field.lines s.fields ++ [['}']]

/-- The text of a struct. -/
def render (s : Struct) : Text := List.intercalate lineBreak s.layout

end Struct

end TableThrift
