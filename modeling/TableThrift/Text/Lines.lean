import TableThrift.Text.Basic

/-!
# Lines

A line ends with a newline, which may follow a carriage return.

## Main definitions

* `Text.dropReturn`: a text without one carriage return at its end
* `Text.lines`: the lines of a text without the empty ones at its end
* `Text.firstLine`: the first line, whose carriage return counts only before a newline
-/

namespace TableThrift.Text

/-- A text without the carriage return at its end, if it has one. -/
def dropReturn (t : Text) : Text :=
  if t.getLast? = some '\r' then t.dropLast else t

/-- A list without its empty texts at the end. -/
def dropTrailingEmpty (ls : List Text) : List Text :=
  (ls.reverse.dropWhile List.isEmpty).reverse

/-- The lines of a text, each without the carriage return at its end, up to the last line that is
not empty. -/
def lines (t : Text) : List Text :=
  dropTrailingEmpty ((t.split '\n').map dropReturn)

/-- The text before the first newline, without the carriage return in front of that newline. With
no newline it is the whole text, and a carriage return at the end stays. -/
def firstLine (t : Text) : Text :=
  match cut? ['\n'] t with
  | some (line, _) => dropReturn line
  | none => t

@[simp] theorem dropReturn_nil : dropReturn [] = [] := rfl

@[simp] theorem dropReturn_append_return (t : Text) : dropReturn (t ++ ['\r']) = t := by
  simp [dropReturn]

theorem dropReturn_of_ne {t : Text} (h : t.getLast? ≠ some '\r') : dropReturn t = t := by
  simp [dropReturn, h]

end TableThrift.Text
