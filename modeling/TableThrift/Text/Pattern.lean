import Mathlib.Data.List.Infix
import TableThrift.Text.Basic

/-!
# Patterns

A pattern is a list of characters and of runs; a run stands for any number of characters other
than newlines. Often there are several ways to fit a pattern to a text, and the first one counts:
a pattern is looked for from the left, and its runs are as long as they can be, the earlier run
before the later one.

## Main definitions

* `Pattern`, `Pattern.Part`: patterns and their parts
* `Pattern.runs`, `Pattern.fits`: the ways to fit a run or a pattern to the front of a text
* `Pattern.found`, `Pattern.capture`: what a pattern captures in a text
* `Pattern.between`, `Pattern.betweenAfter`: the patterns of quoted parts
-/

namespace TableThrift

/-- A part of a pattern. -/
inductive Pattern.Part where
  /-- The character itself. -/
  | char (c : Char)
  /-- Any number of characters other than newlines, which may be captured. -/
  | run (captured : Bool)
deriving DecidableEq, Repr

/-- A pattern: its parts in order. -/
abbrev Pattern := List Pattern.Part

namespace Pattern

/-- The runs with which a text begins, the longest first, each with what follows it. -/
def runs : Text → List (Text × Text)
  | [] => [([], [])]
  | c :: cs =>
    if c = '\n' then [([], c :: cs)]
    else (runs cs).map (fun r => (c :: r.1, r.2)) ++ [([], c :: cs)]

/-- What a pattern captures at the front of a text, for each way to fit it there, the longest runs
first. A pattern without a captured run gives `group`. -/
def fits (group : Text) : Pattern → Text → List Text
  | [], _ => [group]
  | .char _ :: _, [] => []
  | .char c :: p, d :: t => if c = d then fits group p t else []
  | .run captured :: p, t =>
    (runs t).flatMap fun r => fits (if captured then r.1 else group) p r.2

@[simp] theorem fits_nil (group t : Text) : fits group [] t = [group] := by rw [fits]

@[simp] theorem fits_char_nil (group : Text) (c : Char) (p : Pattern) :
    fits group (.char c :: p) [] = [] := by rw [fits]

theorem fits_char_cons (group : Text) (c d : Char) (p : Pattern) (t : Text) :
    fits group (.char c :: p) (d :: t) = if c = d then fits group p t else [] := by rw [fits]

theorem fits_run (group : Text) (captured : Bool) (p : Pattern) (t : Text) :
    fits group (.run captured :: p) t =
      (runs t).flatMap fun r => fits (if captured then r.1 else group) p r.2 := by rw [fits]

/-- What a pattern captures in a text, for each way to fit it, the leftmost first. -/
def found (p : Pattern) (t : Text) : List Text := t.tails.flatMap (fits [] p)

/-- What a pattern captures in a text where it is found first; empty if it is not found. -/
def capture (p : Pattern) (t : Text) : Text := (found p t).head?.getD []

/-- A captured run between two quotes. -/
def between (quote : Char) : Pattern := [.char quote, .run true, .char quote]

/-- A captured run between two quotes, somewhere behind a word. -/
def betweenAfter (word : Text) (quote : Char) : Pattern :=
  word.map .char ++ [.run false, .char quote, .run true, .char quote]

end Pattern

end TableThrift
