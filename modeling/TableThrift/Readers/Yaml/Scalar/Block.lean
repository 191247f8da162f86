import TableThrift.Readers.Yaml.Character

/-!
# Block scalars

A block scalar holds whole lines below its header. The header may give the indentation and say
what becomes of the line breaks at the end. A literal scalar keeps its line breaks; in a folded one
a break between two lines that start with no blank becomes a space.

## Main definitions

* `Yaml.BlockStyle`, `Yaml.Chomping`, `Yaml.BlockHeader`: what the header says
* `Yaml.blockHeader`: the header
* `Yaml.emptyLines`: indentation and empty lines
* `Yaml.block`: a block scalar

## Main results

* `Yaml.length_blockLines_le`: what is left is not longer
-/

namespace TableThrift.Yaml

/-! ## Headers -/

section Headers

/-- The two kinds of block scalars. -/
inductive BlockStyle where
  | literal
  | folded
deriving DecidableEq, Repr

/-- What becomes of the line breaks at the end of a block scalar. -/
inductive Chomping where
  /-- None is kept. -/
  | strip
  /-- One is kept. -/
  | clip
  /-- All are kept. -/
  | keep
deriving DecidableEq, Repr

/-- What the header of a block scalar says; the indentation is zero if it does not give one. -/
structure BlockHeader where
  chomping : Chomping := .clip
  indentation : Nat := 0
deriving DecidableEq, Repr

/-- The chomping that a sign asks for. -/
def Chomping.ofSign? (c : Char) : Option Chomping :=
  if c = '+' then some .keep else if c = '-' then some .strip else none

/-- The sign of a header, if there is one, and what is left. -/
def chompingSign (t : Text) : Option Chomping × Text :=
  match t.head?.bind Chomping.ofSign? with
  | some k => (some k, t.drop 1)
  | none => (none, t)

/-- The indentation of a header, if there is one, and what is left. It must not be zero. -/
def indentationDigit (t : Text) : Option (Nat × Text) :=
  match t with
  | [] => some (0, [])
  | c :: rest =>
    if c = '0' then none
    else if c.isDigit then some (c.toNat - '0'.toNat, rest)
    else some (0, c :: rest)

/-- The header of a block scalar up to the end of its line; sign and digit may come in either
order, and a comment may follow them. -/
def blockHeader (t : Text) : Option (BlockHeader × Text) := do
  let (before, t) := chompingSign t
  let (indentation, t) ← indentationDigit t
  let (behind, t) := if before.isNone ∧ indentation ≠ 0 then chompingSign t else (none, t)
  let t ← skipComment? t
  return (⟨(before.or behind).getD .clip, indentation⟩, skipBreak t)

end Headers

/-! ## Lines -/

section Lines

/-- Indentation and empty lines in front of a line of a block scalar. -/
structure EmptyLines where
  /-- The line breaks. -/
  breaks : List Text := []
  /-- The column of the line in front of which they stand. -/
  column : Nat
  /-- The greatest indentation among them. -/
  widest : Nat
deriving DecidableEq, Repr

/-- Indentation and empty lines, and what is left behind them. Spaces count as indentation up to
`indentation` columns, or all of them if it is zero; a tab must not stand among them. -/
def emptyLines (indentation column widest : Nat) : Text → Option (EmptyLines × Text)
  | [] => some (⟨[], column, max widest column⟩, [])
  | '\r' :: '\n' :: t =>
    (emptyLines indentation 0 (max widest column) t).map fun p =>
      ({ p.1 with breaks := ['\n'] :: p.1.breaks }, p.2)
  | c :: t =>
    if c = ' ' ∧ (indentation = 0 ∨ column < indentation) then
      emptyLines indentation (column + 1) widest t
    else if c = '\t' ∧ (indentation = 0 ∨ column < indentation) then none
    else if isBreak c then
      (emptyLines indentation 0 (max widest column) t).map fun p =>
        ({ p.1 with breaks := breakText c :: p.1.breaks }, p.2)
    else some (⟨[], column, max widest column⟩, c :: t)

theorem length_emptyLines_le {indentation column widest : Nat} {t rest : Text} {e : EmptyLines}
    (h : emptyLines indentation column widest t = some (e, rest)) : rest.length ≤ t.length := by
  fun_induction emptyLines indentation column widest t generalizing e with
  | case1 => cases h; exact Nat.le_refl _
  | case2 _ _ t ih =>
    obtain ⟨⟨u, v⟩, hu, hp⟩ := Option.map_eq_some_iff.1 h
    cases hp
    exact Nat.le_trans (ih hu) (by simp only [List.length_cons]; omega)
  | case3 _ _ _ _ _ _ ih => exact Nat.le_succ_of_le (ih h)
  | case4 => cases h
  | case5 _ _ _ _ _ _ _ _ ih =>
    obtain ⟨⟨u, v⟩, hu, hp⟩ := Option.map_eq_some_iff.1 h
    cases hp
    exact Nat.le_succ_of_le (ih hu)
  | case6 => cases h; exact Nat.le_refl _

/-- What stands between the lines read so far and the next one. -/
structure Pending where
  /-- The line break of the last line; empty in front of the first line. -/
  lineBreak : Text := []
  /-- Whether the last line starts with a blank. -/
  startsBlank : Bool := false
  /-- The empty lines behind the last line. -/
  empty : EmptyLines
deriving DecidableEq, Repr

/-- The text between the last line and a next line, which starts with a blank or not. -/
def Pending.join (style : BlockStyle) (p : Pending) (nextStartsBlank : Bool) : Text :=
  (if style = .folded ∧ p.lineBreak = ['\n'] ∧ !p.startsBlank ∧ !nextStartsBlank then
    if p.empty.breaks = [] then [' '] else []
  else p.lineBreak) ++ p.empty.breaks.flatten

/-- The text behind the last line. -/
def Pending.chomp (chomping : Chomping) (p : Pending) : Text :=
  match chomping with
  | .strip => []
  | .clip => p.lineBreak
  | .keep => p.lineBreak ++ p.empty.breaks.flatten

/-- The lines of a block scalar that stand at its indentation. -/
def blockLines (style : BlockStyle) (chomping : Chomping) (indentation : Nat) (p : Pending)
    (t : Text) : Option (Text × Text) :=
  match t with
  | [] => some (p.chomp chomping, [])
  | c :: t =>
    if p.empty.column ≠ indentation then some (p.chomp chomping, c :: t)
    else
      match _h : emptyLines indentation 0 0 (skipBreak (t.dropWhile isInLine)) with
      | none => none
      | some (empty, after) =>
        (blockLines style chomping indentation
          ⟨breakOf (t.dropWhile isInLine), isBlank c, empty⟩ after).map fun q =>
            (p.join style (isBlank c) ++ c :: t.takeWhile isInLine ++ q.1, q.2)
termination_by t.length
decreasing_by
  have := length_emptyLines_le _h
  have := length_skipBreak_le (t.dropWhile isInLine)
  have := (List.dropWhile_sublist (l := t) isInLine).length_le
  simp only [List.length_cons]
  omega

/-- A block scalar behind its first character, and what is left behind it. Without an indentation
in its header it takes that of its first line, which is at least `least` and not zero. -/
def block (style : BlockStyle) (least : Nat) (t : Text) : Option (Text × Text) :=
  match blockHeader t with
  | none => none
  | some (header, t) =>
    let given := if header.indentation = 0 then 0 else least - 1 + header.indentation
    match emptyLines given 0 0 t with
    | none => none
    | some (empty, t) =>
      let indentation := if given = 0 then max (max empty.widest least) 1 else given
      blockLines style header.chomping indentation { empty } t

theorem length_blockLines_le {style : BlockStyle} {chomping : Chomping} {indentation : Nat}
    {p : Pending} {t value rest : Text}
    (h : blockLines style chomping indentation p t = some (value, rest)) :
    rest.length ≤ t.length := by
  fun_induction blockLines style chomping indentation p t generalizing value with
  | case1 => cases h; exact Nat.le_refl _
  | case2 => cases h; exact Nat.le_refl _
  | case3 => cases h
  | case4 _ _ t _ _ _ he ih =>
    obtain ⟨⟨u, v⟩, hu, hp⟩ := Option.map_eq_some_iff.1 h
    cases hp
    have hv : v.length ≤ _ := ih hu
    have := length_emptyLines_le he
    have := length_skipBreak_le (t.dropWhile isInLine)
    have := (List.dropWhile_sublist (l := t) isInLine).length_le
    simp only [List.length_cons]
    omega

end Lines

end TableThrift.Yaml
