import TableThrift.Text.Basic

/-!
# The characters of JSON

What the grammar of JSON and its readers have in common: the characters between tokens, the digits
and the brackets.

## Main definitions

* `Json.isBlank`, `Json.isDigit`: blanks and digits
* `Json.Bracket`: the brackets of sequences and of objects
-/

namespace TableThrift.Json

/-- The four characters that may stand between tokens. -/
def isBlank (c : Char) : Bool := c == ' ' || c == '\n' || c == '\t' || c == '\r'

/-- The value of a digit. -/
def digit? (c : Char) : Option Nat :=
  if '0' ≤ c ∧ c ≤ '9' then some (c.toNat - '0'.toNat) else none

/-- Whether a character is a digit. -/
def isDigit (c : Char) : Bool := (digit? c).isSome

/-- The brackets that enclose a value. -/
inductive Bracket where
  | sequence
  | object
deriving DecidableEq, Repr

namespace Bracket

/-- The character that opens a bracket. -/
def opening : Bracket → Char
  | sequence => '['
  | object => '{'

/-- The character that closes a bracket. -/
def closing : Bracket → Char
  | sequence => ']'
  | object => '}'

end Bracket

end TableThrift.Json
