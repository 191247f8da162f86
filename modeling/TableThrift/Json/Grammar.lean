import Mathlib.Data.List.Forall2
import TableThrift.Json.Basic

/-!
# The grammar of JSON

The texts that write a string, a number or a whole value, told apart from any reader of them. A
string is known by what it stands for, since one string has many spellings; of a value that nobody
asks for, it only matters that it is one.

## Main definitions

* `Json.Spelling`, `Json.Quoted`: the ways to write a character and a string
* `Json.Mark`, `Json.Literal`: the same without what they stand for
* `Json.Numeral`: the numbers
* `Json.Listed`, `Json.Bracketed`: items between brackets and with them
* `Json.Document`: a whole text
* `Json.WellFormed`: the values, of any nesting
-/

namespace TableThrift.Json

/-- A text of blanks. -/
def Blank (t : Text) : Prop := ∀ c ∈ t, isBlank c = true

instance (t : Text) : Decidable (Blank t) := List.decidableBAll _ t

/-! ## Strings -/

section Strings

/-- A character that may stand for itself between quotes. -/
def Plain (c : Char) : Prop := c ≠ '"' ∧ c ≠ '\\' ∧ 0x20 ≤ c.toNat

instance : DecidablePred Plain := fun _ => inferInstanceAs (Decidable (_ ∧ _ ∧ _))

/-- The letters of the short escapes, each with the character that it stands for. -/
def shortEscapes : List (Char × Char) :=
  [('"', '"'), ('\\', '\\'), ('/', '/'), ('b', '\x08'), ('f', '\x0c'), ('n', '\n'), ('r', '\r'),
    ('t', '\t')]

/-- The ways to write a code unit: four hexadecimal digits, each letter in either case. -/
def HexUnit (n : Nat) (t : Text) : Prop :=
  t.map Char.toLower =
    [n / 0x1000, n / 0x100 % 0x10, n / 0x10 % 0x10, n % 0x10].map Nat.digitChar

instance (n : Nat) (t : Text) : Decidable (HexUnit n t) := inferInstanceAs (Decidable (_ = _))

/-- The first code unit of a character beyond the 16-bit ones. -/
def highUnit (c : Char) : Nat := 0xD800 + (c.toNat - 0x10000) / 0x400

/-- The second code unit of a character beyond the 16-bit ones. -/
def lowUnit (c : Char) : Nat := 0xDC00 + (c.toNat - 0x10000) % 0x400

/-- The ways to write a character between quotes. -/
inductive Spelling : Char → Text → Prop where
  | plain {c : Char} (hc : Plain c) : Spelling c [c]
  | short {letter c : Char} (hc : (letter, c) ∈ shortEscapes) : Spelling c ['\\', letter]
  | unit {c : Char} {t : Text} (hc : c.toNat < 0x10000) (ht : HexUnit c.toNat t) :
      Spelling c ('\\' :: 'u' :: t)
  | pair {c : Char} {t u : Text} (hc : 0x10000 ≤ c.toNat) (ht : HexUnit (highUnit c) t)
      (hu : HexUnit (lowUnit c) u) : Spelling c ('\\' :: 'u' :: t ++ '\\' :: 'u' :: u)

/-- The ways to write a string: a spelling of each of its characters, between quotes. -/
inductive Quoted (s : Text) : Text → Prop where
  | mk {us : List Text} (hs : List.Forall₂ Spelling s us) : Quoted s ('"' :: us.flatten ++ ['"'])

/-- A character or an escape between quotes. A code unit may be half of a surrogate pair. -/
inductive Mark : Text → Prop where
  | plain {c : Char} (hc : Plain c) : Mark [c]
  | short {letter c : Char} (hc : (letter, c) ∈ shortEscapes) : Mark ['\\', letter]
  | unit {n : Nat} {t : Text} (hn : n < 0x10000) (ht : HexUnit n t) : Mark ('\\' :: 'u' :: t)

/-- A string, whatever it stands for. -/
inductive Literal : Text → Prop where
  | mk {us : List Text} (hs : ∀ u ∈ us, Mark u) : Literal ('"' :: us.flatten ++ ['"'])

end Strings

/-! ## Numbers -/

section Numbers

/-- Digits, of which there must be one. -/
def Digits (t : Text) : Prop := t ≠ [] ∧ ∀ c ∈ t, isDigit c = true

instance (t : Text) : Decidable (Digits t) :=
  @instDecidableAnd (t ≠ []) _ _ (List.decidableBAll _ t)

/-- The digits in front of the point. A zero at the start stands alone. -/
inductive Whole : Text → Prop where
  | zero : Whole ['0']
  | digits {c : Char} {t : Text} (hc : c ≠ '0') (h : Digits (c :: t)) : Whole (c :: t)

/-- The point and the digits behind it, if there are any. -/
inductive Fraction : Text → Prop where
  | absent : Fraction []
  | digits {t : Text} (h : Digits t) : Fraction ('.' :: t)

/-- The power of ten with its sign, if there is one. -/
inductive Power : Text → Prop where
  | absent : Power []
  | digits {e : Char} {sign t : Text} (he : e = 'e' ∨ e = 'E')
      (hs : sign = [] ∨ sign = ['+'] ∨ sign = ['-']) (h : Digits t) : Power (e :: sign ++ t)

/-- A number. -/
inductive Numeral : Text → Prop where
  | mk {sign whole fraction power : Text} (hs : sign = [] ∨ sign = ['-']) (hw : Whole whole)
      (hf : Fraction fraction) (hp : Power power) :
      Numeral (sign ++ (whole ++ (fraction ++ power)))

end Numbers

/-! ## Items -/

section Items

/-- What stands in front of an item: blanks, with a comma among them unless the item is the
first. -/
inductive Separator : Bool → Text → Prop where
  | first {b : Text} (hb : Blank b) : Separator true b
  | comma {b c : Text} (hb : Blank b) (hc : Blank c) : Separator false (b ++ ',' :: c)

variable {α : Type}

/-- Items as they stand between brackets. The flag tells whether the first of them stands behind
the opening bracket or behind another item. -/
inductive Listed (Item : α → Text → Prop) : Bool → List α → Text → Prop where
  | nil {isFirst : Bool} {b : Text} (hb : Blank b) : Listed Item isFirst [] b
  | cons {isFirst : Bool} {a : α} {as : List α} {s t u : Text} (hs : Separator isFirst s)
      (ht : Item a t) (hu : Listed Item false as u) :
      Listed Item isFirst (a :: as) (s ++ (t ++ u))

/-- Items with their brackets. -/
inductive Bracketed (bracket : Bracket) (Item : α → Text → Prop) (as : List α) : Text → Prop where
  | mk {t : Text} (ht : Listed Item true as t) :
      Bracketed bracket Item as (bracket.opening :: t ++ [bracket.closing])

/-- A whole text: a body with blanks around it. -/
inductive Document (Body : Text → Prop) : Text → Prop where
  | mk {b t c : Text} (hb : Blank b) (ht : Body t) (hc : Blank c) : Document Body (b ++ (t ++ c))

end Items

/-! ## Values -/

section Values

/-- What stands in front of a value inside a bracket: in an object its key and a colon. -/
inductive Keyed : Bracket → Text → Prop where
  | sequence : Keyed .sequence []
  | object {k b c : Text} (hk : Literal k) (hb : Blank b) (hc : Blank c) :
      Keyed .object (k ++ (b ++ ':' :: c))

/-- The parts of values: a whole one, and items as they stand inside a bracket, behind its opening
or behind another item. -/
inductive Part where
  | value
  | items (bracket : Bracket) (isFirst : Bool)

/-- The values of any nesting, with their parts. -/
inductive WellFormed : Part → Text → Prop where
  | word {t : Text} (ht : t ∈ ["null".toList, "true".toList, "false".toList]) :
      WellFormed .value t
  | numeral {t : Text} (ht : Numeral t) : WellFormed .value t
  | literal {t : Text} (ht : Literal t) : WellFormed .value t
  | enclosed {bracket : Bracket} {t : Text} (ht : WellFormed (.items bracket true) t) :
      WellFormed .value (bracket.opening :: t ++ [bracket.closing])
  | nil {bracket : Bracket} {isFirst : Bool} {b : Text} (hb : Blank b) :
      WellFormed (.items bracket isFirst) b
  | cons {bracket : Bracket} {isFirst : Bool} {s k v t : Text} (hs : Separator isFirst s)
      (hk : Keyed bracket k) (hv : WellFormed .value v)
      (ht : WellFormed (.items bracket false) t) :
      WellFormed (.items bracket isFirst) (s ++ (k ++ (v ++ t)))

end Values

end TableThrift.Json
