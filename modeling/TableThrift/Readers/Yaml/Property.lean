import TableThrift.Readers.Text.Hexadecimal
import TableThrift.Readers.Yaml.Token
import TableThrift.Readers.Yaml.Character

/-!
# Anchors, tags and directives

Properties of a node are an anchor and a tag. Directives stand in front of a document; they give
the version and define handles for tags. Addresses in tags are checked and then forgotten.

## Main definitions

* `Yaml.anchorName`: the name of an anchor or a reference
* `Yaml.skipUri`: an address
* `Yaml.tagToken`: a tag
* `Yaml.directiveToken`: a directive with the rest of its line
-/

namespace TableThrift.Yaml

/-! ## Names and addresses -/

section Names

/-- The name of an anchor or a reference, and what is left behind it. -/
def anchorName (t : Text) : Option (Text × Text) :=
  let name := t.takeWhile isWordChar
  let rest := t.dropWhile isWordChar
  if name = [] then none
  else if endsWord rest || startsWithOneOf "?:,]\x7d%@\x60".toList rest then some (name, rest)
  else none

/-- A byte that is written by a percent sign and two hexadecimal digits. -/
def escapedByte : Text → Option (Nat × Text)
  | '%' :: a :: b :: t => (Text.hexNumber? [a, b]).map fun n => (n, t)
  | _ => none

/-- Bytes behind the first one of a character. -/
def escapedTail : Nat → Text → Option Text
  | 0, t => some t
  | n + 1, t =>
    match escapedByte t with
    | none => none
    | some (b, rest) => if b / 0x40 = 2 then escapedTail n rest else none

/-- The number of bytes behind the first one of a character. -/
def tailLength? (first : Nat) : Option Nat :=
  if first < 0x80 then some 0
  else if first / 0x20 = 6 then some 1
  else if first / 0x10 = 14 then some 2
  else if first / 0x08 = 30 then some 3
  else none

/-- All escaped bytes of one character. -/
def escapedCharacter (t : Text) : Option Text :=
  match escapedByte t with
  | none => none
  | some (first, rest) => (tailLength? first).bind fun n => escapedTail n rest

theorem length_escapedByte_lt {t rest : Text} {n : Nat} (h : escapedByte t = some (n, rest)) :
    rest.length < t.length := by
  unfold escapedByte at h
  split at h
  · obtain ⟨_, _, hp⟩ := Option.map_eq_some_iff.1 h
    cases hp
    simp only [List.length_cons]
    omega
  · cases h

theorem length_escapedTail_le {n : Nat} {t rest : Text} (h : escapedTail n t = some rest) :
    rest.length ≤ t.length := by
  induction n generalizing t with
  | zero => cases h; exact Nat.le_refl _
  | succ n ih =>
    rw [escapedTail] at h
    split at h
    · cases h
    · next hb =>
      split at h
      · exact Nat.le_trans (ih h) (Nat.le_of_lt (length_escapedByte_lt hb))
      · cases h

theorem length_escapedCharacter_lt {t rest : Text} (h : escapedCharacter t = some rest) :
    rest.length < t.length := by
  unfold escapedCharacter at h
  split at h
  · cases h
  · next hb =>
    obtain ⟨n, _, hn⟩ := Option.bind_eq_some_iff.1 h
    exact Nat.lt_of_le_of_lt (length_escapedTail_le hn) (length_escapedByte_lt hb)

/-- What is left behind an address, which may be empty. -/
def skipUri (bracketed : Bool) (t : Text) : Option Text :=
  match t with
  | [] => some []
  | c :: rest =>
    if !isUriChar bracketed c then some (c :: rest)
    else if c = '%' then
      match _h : escapedCharacter (c :: rest) with
      | none => none
      | some after => skipUri bracketed after
    else skipUri bracketed rest
termination_by t.length
decreasing_by
  · exact length_escapedCharacter_lt _h
  · simp

/-- What is left behind an address that is not empty. -/
def skipUri1 (bracketed : Bool) (t : Text) : Option Text :=
  if t.head?.any (isUriChar bracketed) then skipUri bracketed t else none

end Names

/-! ## Tags -/

section Tags

/-- The characters of a tag from its exclamation mark to a second one, if there is one, or to the
end of the word. -/
def tagHead (t : Text) : Text × Text :=
  let word := (t.drop 1).takeWhile isWordChar
  let rest := (t.drop 1).dropWhile isWordChar
  if rest.head? = some '!' then ('!' :: word ++ ['!'], rest.drop 1) else ('!' :: word, rest)

/-- Whether a text is a handle with a name. -/
def isNamedHandle (head : Text) : Bool := 1 < head.length && head.getLast? == some '!'

/-- A tag from its exclamation mark on, and what is left behind it. -/
def tagToken (inFlow : Bool) (t : Text) : Option (Token × Text) := do
  let (handle, rest) ←
    if (t.drop 1).head? = some '<' then do
      let rest ← skipUri1 true (t.drop 2)
      if rest.head? = some '>' then some ([], rest.drop 1) else none
    else
      let (head, rest) := tagHead t
      if isNamedHandle head then (skipUri1 false rest).map fun rest => (head, rest)
      else
        (skipUri false rest).map fun after =>
          (if head.length = 1 ∧ after.length = rest.length then [] else ['!'], after)
  if endsWord rest || (inFlow && rest.head? == some ',') then some (.tag handle, rest) else none

end Tags

/-! ## Directives -/

section Directives

/-- A number of at most nine digits. -/
def versionNumber (t : Text) : Option (Nat × Text) :=
  let digits := t.takeWhile Char.isDigit
  if digits = [] ∨ 9 < digits.length then none
  else some (digits.foldl (fun n c => n * 10 + (c.toNat - '0'.toNat)) 0,
    t.dropWhile Char.isDigit)

/-- The version of a directive. -/
def versionToken (t : Text) : Option (Token × Text) := do
  let (major, t) ← versionNumber (t.dropWhile isBlank)
  if t.head? ≠ some '.' then none
  else
    let (minor, t) ← versionNumber (t.drop 1)
    return (.version major minor, t)

/-- The handle of a directive, with the address that it stands for. -/
def handleToken (t : Text) : Option (Token × Text) :=
  let t := t.dropWhile isBlank
  if t.head? ≠ some '!' then none
  else
    let (head, t) := tagHead t
    if head ≠ ['!'] ∧ !isNamedHandle head then none
    else if !t.head?.any isBlank then none
    else
      match skipUri1 true (t.dropWhile isBlank) with
      | none => none
      | some rest => if endsWord rest then some (.handle head, rest) else none

/-- A directive behind its percent sign, and what is left behind its line. -/
def directiveToken (t : Text) : Option (Token × Text) := do
  let name := t.takeWhile isWordChar
  let rest := t.dropWhile isWordChar
  let (token, rest) ←
    if !endsWord rest then none
    else if name = "YAML".toList then versionToken rest
    else if name = "TAG".toList then handleToken rest
    else none
  let rest ← skipComment? rest
  return (token, skipBreak rest)

end Directives

end TableThrift.Yaml
