import TableThrift.Struct.Printer

/-!
# Reading the text of a struct

The text of a struct is read back line by line. A line break ends a line; the words of a field
stand between the first colon and the next two spaces, and its name ends where its remark begins.

## Main definitions

* `Presence.ofWord?`, `BaseType.ofWord?`: the word of a field read back
* `Reading`: what the text of a struct says, with the numbers of its fields
* `Struct.reading`: what the text of a struct should say
* `Reading.ofText?`: the reading of a text

## Main results

* `Presence.ofWord?_word`, `BaseType.ofWord?_word`: a word reads back
* `readNumber?_toDigits`: a number reads back
-/

namespace TableThrift

/-- The presence with a given word. -/
def Presence.ofWord? (t : Text) : Option Presence :=
  [required, optional].find? fun p => p.word = t

/-- The base type with a given word. -/
def BaseType.ofWord? (t : Text) : Option BaseType :=
  [i32, i64, string].find? fun b => b.word = t

@[simp] theorem Presence.ofWord?_word (p : Presence) : ofWord? p.word = some p := by
  cases p <;> decide

@[simp] theorem BaseType.ofWord?_word (b : BaseType) : ofWord? b.word = some b := by
  cases b <;> decide

/-- The number that a text of one or more decimal digits stands for. -/
def readNumber? (t : Text) : Option Nat :=
  if t ≠ [] ∧ t.all Char.isDigit then some (Nat.ofDigitChars 10 t 0) else none

/-- A number reads back. -/
@[simp] theorem readNumber?_toDigits (n : Nat) : readNumber? (Nat.toDigits 10 n) = some n := by
  have hd : ∀ c ∈ Nat.toDigits 10 n, c.isDigit = true := fun c hc =>
    Nat.isDigit_of_mem_toDigits (by decide) (by decide) hc
  have hn : Nat.toDigits 10 n ≠ [] := Nat.toDigits_ne_nil
  rw [readNumber?, if_pos ⟨hn, List.all_eq_true.2 hd⟩, Nat.ofDigitChars_ten_toDigits]

/-- What the text of a struct says: every field comes with the number before it. -/
structure Reading where
  name : Text
  remark : Text
  fields : List (Field × Nat)
deriving DecidableEq, Repr

/-- What the text of a struct should say. -/
def Struct.reading (s : Struct) : Reading :=
  ⟨s.name, s.remark, (Field.numbered s.fields).map fun p => (p.1, p.2.toNat)⟩

/-- A text without a given beginning; none if it begins otherwise. -/
def Text.after? (start t : Text) : Option Text :=
  if start.isPrefixOf t then some (t.drop start.length) else none

@[simp] theorem Text.after?_append (start t : Text) : Text.after? start (start ++ t) = some t := by
  simp [Text.after?]

namespace Reading

/-- The remark on the first line. -/
def remarkOfLine? (line : Text) : Option Text := Text.after? "//".toList line

/-- The name on the second line, which an opening brace ends. -/
def nameOfLine? (line : Text) : Option Text := do
  let t ← Text.after? "struct ".toList line
  if t.getLast? = some '{' then some t.dropLast else none

/-- The field on a line and its number. -/
def fieldOfLine? (line : Text) : Option (Field × Nat) := do
  let t ← Text.after? "    ".toList line
  let (number, t) ← Text.cut? [':'] t
  let (presence, t) ← Text.cut? [' '] t
  let (type, t) ← Text.cut? [' '] t
  let (name, remark) ← Text.cut? " //".toList t
  let number ← readNumber? number
  let presence ← Presence.ofWord? presence
  let type ← BaseType.ofWord? type
  some (⟨presence, type, name, remark⟩, number)

/-- The reading of the lines of a struct. -/
def ofLines? : List Text → Option Reading
  | first :: second :: rest => do
    let remark ← remarkOfLine? first
    let name ← nameOfLine? second
    if rest.getLast? = some ['}'] then
      let fields ← rest.dropLast.mapM fieldOfLine?
      some ⟨name, remark, fields⟩
    else none
  | _ => none

/-- The reading of a text. -/
def ofText? (t : Text) : Option Reading := ofLines? (Text.pieces lineBreak t)

end Reading

end TableThrift
