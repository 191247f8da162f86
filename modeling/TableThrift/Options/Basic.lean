import TableThrift.Text.Basic

/-!
# Options of a conversion

Options say what to remove from the table's identifier and which columns to leave out. An options
file may give either, both or none of them.

## Main definitions

* `Options`: the options
* `Options.Key`: the names of the options in a file
-/

namespace TableThrift

/-- The options of a conversion. -/
structure Options where
  /-- A text that is removed from the table's identifier, where it first occurs. -/
  tablePrefix : Text := []
  /-- The columns to leave out, by identifier or by field name. -/
  ignored : List Text := []
deriving DecidableEq, Repr

namespace Options

/-- The names of the options in a file. -/
inductive Key where
  | tablePrefix
  | ignored
deriving DecidableEq, Repr

namespace Key

/-- The word for it. -/
def word : Key → Text
  | tablePrefix => "table_prefix".toList
  | ignored => "ignore_fields".toList

/-- The key with a given word. -/
def ofWord? (t : Text) : Option Key :=
  if t = tablePrefix.word then some tablePrefix
  else if t = ignored.word then some ignored
  else none

end Key

end Options

end TableThrift
