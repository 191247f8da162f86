import TableThrift.Readers.Yaml.Character

/-!
# Positions in a text

## Main definitions

* `Yaml.Position`: bytes, lines and columns passed so far
* `Yaml.Position.after`: the position behind a text
-/

namespace TableThrift.Yaml

/-- A position: the bytes and lines in front of it, and the characters of its line. -/
structure Position where
  index : Nat := 0
  line : Nat := 0
  column : Nat := 0
deriving DecidableEq, Repr

/-- The position behind a text. A carriage return and a newline are one line break. -/
def Position.after (p : Position) : Text → Position
  | [] => p
  | '\r' :: '\n' :: t => after ⟨p.index + 2, p.line + 1, 0⟩ t
  | c :: t =>
    if isBreak c then after ⟨p.index + c.utf8Size, p.line + 1, 0⟩ t
    else after ⟨p.index + c.utf8Size, p.line, p.column + 1⟩ t

@[simp] theorem Position.after_nil (p : Position) : p.after [] = p := rfl

theorem Position.after_cons {p : Position} {c : Char} (h : isBreak c = false) (t : Text) :
    p.after (c :: t) = Position.after ⟨p.index + c.utf8Size, p.line, p.column + 1⟩ t := by
  rw [Position.after]
  · simp [h]
  · intro _ hc
    subst hc
    exact absurd h (by decide)

end TableThrift.Yaml
