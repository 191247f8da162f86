import TableThrift.Text.Basic
import TableThrift.Readers.Text.Hidden

/-!
# Texts in diagnostics

A text in a diagnostic stands between double quotes. Quotes, backslashes and four control
characters are escaped by a backslash, other characters that do not show by themselves are given
by their code point.

## Main definitions

* `Text.shownChar`, `Text.shown`: a character and a text in a diagnostic
-/

namespace TableThrift.Text

/-- A character in a diagnostic. -/
def shownChar (c : Char) : Text :=
  match c with
  | '\x00' => ['\\', '0']
  | '\t' => ['\\', 't']
  | '\r' => ['\\', 'r']
  | '\n' => ['\\', 'n']
  | '\\' => ['\\', '\\']
  | '"' => ['\\', '"']
  | c => if isHidden c then ['\\', 'u', '{'] ++ Nat.toDigits 16 c.toNat ++ ['}'] else [c]

/-- A text in a diagnostic. -/
def shown (t : Text) : Text := ['"'] ++ t.flatMap shownChar ++ ['"']

end TableThrift.Text
