import TableThrift.Options.Basic

/-!
# Options that are being read

The readers of both formats go through a file from its start and keep what they have seen.

## Main definitions

* `Options.Partial`: the options seen so far
-/

namespace TableThrift.Options

/-- The options of a file while it is read: each is absent until its key comes. -/
structure Partial where
  tablePrefix : Option Text := none
  ignored : Option (List Text) := none
deriving DecidableEq, Repr

namespace Partial

/-- Whether an option is there. -/
def has (p : Partial) : Key → Bool
  | .tablePrefix => p.tablePrefix.isSome
  | .ignored => p.ignored.isSome

/-- The options, empty where the file gives none. -/
def complete (p : Partial) : Options := ⟨p.tablePrefix.getD [], p.ignored.getD []⟩

end Partial

end TableThrift.Options
