import TableThrift.Readers.Decimal.Shortest
import TableThrift.Readers.Json.Basic

/-!
# JSON numbers

A number is read as digits and a power of ten. Digits are kept as long as they fit in 64 bits;
those beyond count only as a power of ten before the point and not at all behind it. A number with
a fraction, an exponent, or too many digits is a double, and one beyond the doubles is malformed.

## Main definitions

* `Json.absorb`: the digits that fit
* `Json.scaled?`: digits and a power of ten as a double
* `Json.number`: a number, as a report shows it
* `Json.skipUnsigned`: a number whose value does not matter, behind its sign

## Main results

* `Json.length_skipUnsigned_le`: skipping a number takes nothing but its characters
-/

namespace TableThrift.Json

/-- Whether a text starts with a digit. -/
def startsWithDigit (t : Text) : Bool := (t.head?.map isDigit).getD false

/-- What is left after digits. -/
def skipDigits (t : Text) : Text := t.dropWhile isDigit

/-! ## Values -/

section Values

/-- The greatest number of 64 bits. -/
def digitsLimit : Nat := Nat.pow 2 64 - 1

/-- The greatest exponent that is counted exactly. -/
def exponentLimit : Nat := Nat.pow 2 31 - 1

/-- The number that digits make after `n`, up to the first digit that would take it beyond
`limit`; how many digits were taken, and what is left. -/
def absorb (limit : Nat) : Nat → Text → Nat × Nat × Text
  | n, [] => (n, 0, [])
  | n, c :: t =>
    match digit? c with
    | none => (n, 0, c :: t)
    | some d =>
      if n * 10 + d ≤ limit then
        let (m, count, rest) := absorb limit (n * 10 + d) t
        (m, count + 1, rest)
      else (n, 0, c :: t)

/-- A power of ten as a double. -/
def powerOfTen (n : Nat) : Binary64 := (Binary64.ofRatio? (Nat.pow 10 n) 1).getD Binary64.zero

/-- The greatest exponent of a power of ten among the doubles. -/
def powerLimit : Nat := 308

/-- The double `x * 10 ^ e`, by multiplications and divisions with powers of ten; none beyond the
doubles. -/
def scaled? (x : Binary64) (e : Int) : Option Binary64 :=
  if x.significand = 0 then some x
  else if 0 ≤ e then
    if e.natAbs ≤ powerLimit then x.mul? (powerOfTen e.natAbs) else none
  else
    match x.div? (powerOfTen (min e.natAbs powerLimit)) with
    | none => none
    | some y => if e.natAbs ≤ powerLimit then some y else scaled? y (e + powerLimit)
termination_by e.natAbs
decreasing_by
  have : powerLimit = 308 := rfl
  omega

/-- A number as a report shows it: the text of the double with its sign. -/
def decimalFound (negative : Bool) (x : Binary64) : Found :=
  .decimal ((if negative then ['-'] else []) ++ x.shortest.text)

/-- The double of some digits and a power of ten. -/
def double (negative : Bool) (digits : Nat) (e : Int) (rest : Text) :
    Except Problem (Found × Text) :=
  match (Binary64.ofRatio? digits 1).bind fun x => scaled? x e with
  | none => .error .malformed
  | some x => .ok (decimalFound negative x, rest)

/-- A number from its exponent on, after the letter that starts it. -/
def exponent (negative : Bool) (digits : Nat) (e : Int) (t : Text) :
    Except Problem (Found × Text) :=
  let (down, t) := match t with
    | '+' :: t => (false, t)
    | '-' :: t => (true, t)
    | t => (false, t)
  match t with
  | [] => .error .truncated
  | c :: t' =>
    if !isDigit c then .error .malformed
    else
      let (n, _, rest) := absorb exponentLimit 0 (c :: t')
      if startsWithDigit rest then
        if digits ≠ 0 ∧ !down then .error .malformed
        else .ok (decimalFound negative Binary64.zero, skipDigits rest)
      else double negative digits (if down then e - n else e + n) rest

/-- A number after its fraction. -/
def afterFraction (negative : Bool) (digits : Nat) (e : Int) (t : Text) :
    Except Problem (Found × Text) :=
  match t with
  | 'e' :: t => exponent negative digits e t
  | 'E' :: t => exponent negative digits e t
  | t => double negative digits e t

/-- A number from its fraction on, after the point. -/
def fraction (negative : Bool) (digits : Nat) (e : Int) (t : Text) :
    Except Problem (Found × Text) :=
  match t with
  | [] => .error .truncated
  | c :: t' =>
    if !isDigit c then .error .malformed
    else
      let (n, count, rest) := absorb digitsLimit digits (c :: t')
      afterFraction negative n (e - count) (skipDigits rest)

/-- An integer: an unsigned number of 64 bits or a negative one of 63 bits and a sign; others are
doubles, and so is negative zero. -/
def integer (negative : Bool) (n : Nat) (rest : Text) : Except Problem (Found × Text) :=
  if !negative then .ok (.integer (Nat.toDigits 10 n), rest)
  else if 0 < n ∧ n ≤ Nat.pow 2 63 then .ok (.integer (['-'] ++ Nat.toDigits 10 n), rest)
  else double true n 0 rest

/-- A number after its sign. -/
def unsigned (negative : Bool) (t : Text) : Except Problem (Found × Text) :=
  match t with
  | [] => .error .truncated
  | c :: t' =>
    if !isDigit c then .error .malformed
    else if c = '0' ∧ startsWithDigit t' then .error .malformed
    else
      let (n, _, rest) := absorb digitsLimit 0 (c :: t')
      let left := skipDigits rest
      let e : Nat := rest.length - left.length
      match left with
      | '.' :: t => fraction negative n e t
      | 'e' :: t => exponent negative n e t
      | 'E' :: t => exponent negative n e t
      | _ => if e = 0 then integer negative n left else double negative n e left

/-- A number. -/
def number (t : Text) : Except Problem (Found × Text) :=
  match t with
  | '-' :: t => unsigned true t
  | t => unsigned false t

end Values

/-! ## Skipped numbers -/

section Skipped

/-- What is left after digits, of which there must be one. -/
def expectDigits (t : Text) : Except Problem Text :=
  if startsWithDigit t then .ok (skipDigits t) else .error .malformed

/-- What is left after the exponent of a number, if it has one. -/
def skipExponent (t : Text) : Except Problem Text :=
  match t with
  | 'e' :: '+' :: t => expectDigits t
  | 'e' :: '-' :: t => expectDigits t
  | 'e' :: t => expectDigits t
  | 'E' :: '+' :: t => expectDigits t
  | 'E' :: '-' :: t => expectDigits t
  | 'E' :: t => expectDigits t
  | t => .ok t

/-- What is left after the fraction and the exponent of a number. -/
def skipFraction (t : Text) : Except Problem Text :=
  match t with
  | '.' :: t =>
    match expectDigits t with
    | .error p => .error p
    | .ok t => skipExponent t
  | t => skipExponent t

/-- What is left after a number without its sign. A zero at the start stands alone. -/
def skipUnsigned (t : Text) : Except Problem Text :=
  match t with
  | '0' :: t => if startsWithDigit t then .error .malformed else skipFraction t
  | t =>
    match expectDigits t with
    | .error p => .error p
    | .ok t => skipFraction t

theorem length_expectDigits_lt {t rest : Text} (h : expectDigits t = .ok rest) :
    rest.length < t.length := by
  unfold expectDigits at h
  split at h
  · next hs =>
    cases h
    cases t with
    | nil => simp [startsWithDigit] at hs
    | cons c t =>
      simp only [startsWithDigit, List.head?_cons, Option.map_some, Option.getD_some] at hs
      simp only [skipDigits, List.dropWhile_cons_of_pos hs]
      exact Nat.lt_succ_of_le (List.dropWhile_sublist _).length_le
  · cases h

theorem length_skipExponent_le {t rest : Text} (h : skipExponent t = .ok rest) :
    rest.length ≤ t.length := by
  unfold skipExponent at h
  split at h
  case h_7 => cases h; exact Nat.le_refl _
  all_goals
    have := length_expectDigits_lt h
    simp only [List.length_cons]
    omega

theorem length_skipFraction_le {t rest : Text} (h : skipFraction t = .ok rest) :
    rest.length ≤ t.length := by
  unfold skipFraction at h
  split at h
  · split at h
    · cases h
    · next u hu =>
      have := length_expectDigits_lt hu
      have := length_skipExponent_le h
      simp only [List.length_cons]
      omega
  · exact length_skipExponent_le h

theorem length_skipUnsigned_le {t rest : Text} (h : skipUnsigned t = .ok rest) :
    rest.length ≤ t.length := by
  unfold skipUnsigned at h
  split at h
  · split at h
    · cases h
    · exact Nat.le_succ_of_le (length_skipFraction_le h)
  · split at h
    · cases h
    · next u hu =>
      have := length_expectDigits_lt hu
      have := length_skipFraction_le h
      omega

end Skipped

end TableThrift.Json
