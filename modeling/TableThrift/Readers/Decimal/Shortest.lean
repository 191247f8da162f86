import TableThrift.Readers.Decimal.Binary64
import TableThrift.Text.Basic

/-!
# The shortest decimal of a double

The decimals that round to a double form an interval. The shortest decimal is the first one found
in it by number of digits, and of two with equally many digits the nearer one.

## Main definitions

* `Decimal`: digits and a power of ten
* `Binary64.shortest`: the shortest decimal that rounds to a double
* `Decimal.text`: a decimal with a point, or with an exponent if it is very large or very small
-/

namespace TableThrift

/-- The number `digits * 10 ^ exponent`. -/
structure Decimal where
  digits : Nat
  exponent : Int
deriving DecidableEq, Repr

namespace Decimal

/-- The same number with fewer digits, as long as the last one is zero. -/
def trim (d : Decimal) : Decimal :=
  if d.digits ≠ 0 ∧ d.digits % 10 = 0 then trim ⟨d.digits / 10, d.exponent + 1⟩ else d
termination_by d.digits
decreasing_by omega

/-- The text of a decimal. Exponents of its first digit from -5 to 15 are written out, always with
a digit after the point; beyond them the exponent follows with its sign. -/
def text (d : Decimal) : Text :=
  let digits := Nat.toDigits 10 d.digits
  let point : Int := digits.length + d.exponent
  if 0 ≤ d.exponent ∧ point ≤ 16 then
    digits ++ List.replicate d.exponent.natAbs '0' ++ ".0".toList
  else if 0 < point ∧ point ≤ 16 then
    digits.take point.natAbs ++ ".".toList ++ digits.drop point.natAbs
  else if -5 < point ∧ point ≤ 0 then
    "0.".toList ++ List.replicate point.natAbs '0' ++ digits
  else
    digits.take 1 ++ (if digits.length = 1 then [] else ".".toList ++ digits.drop 1) ++
      (if point - 1 < 0 then "e-".toList else "e+".toList) ++
      Nat.toDigits 10 (point - 1).natAbs

end Decimal

namespace Binary64

/-- The exponent of the first decimal digit of the ratio `n / d`, which is not zero. -/
def magnitude (n d : Nat) : Int :=
  if d ≤ n then (Nat.toDigits 10 (n / d)).length - 1
  else -(((List.range 400).find? fun z => decide (d ≤ n * Nat.pow 10 z)).getD 0 : Nat)

/-- The decimals of the grid `10 ^ g` next to a double, if they round to it: the nearer one, and
the even one of two. Bounds of the interval are counted in quarters of the last bit. -/
def onGrid? (x : Binary64) (g : Int) : Option Decimal :=
  let quarter := scale 1 1 (2 - x.exponent)
  let grid : Nat × Nat := if g < 0 then (1, Nat.pow 10 g.natAbs) else (Nat.pow 10 g.natAbs, 1)
  -- Everything below is a multiple of one common unit, so that it can be compared exactly.
  let value := 4 * x.significand * quarter.1 * grid.2
  let least := (4 * x.significand -
    if x.significand = Nat.pow 2 (precision - 1) ∧ x.exponent ≠ leastExponent then 1 else 2) *
      quarter.1 * grid.2
  let greatest := (4 * x.significand + 2) * quarter.1 * grid.2
  let unit := grid.1 * quarter.2
  -- The ends of the interval round to the double only if its significand is even.
  let inside (k : Nat) : Bool :=
    if x.significand % 2 = 0 then least ≤ k * unit && k * unit ≤ greatest
    else least < k * unit && k * unit < greatest
  let below := value / unit
  let nearer := roundDiv value unit
  let other := if nearer = below then below + 1 else below
  if inside nearer then some ⟨nearer, g⟩
  else if inside other then some ⟨other, g⟩
  else none

/-- The shortest decimal that rounds to a double; of two the nearer one. -/
def shortest (x : Binary64) : Decimal :=
  if x.significand = 0 then ⟨0, 0⟩
  else
    let first := magnitude x.ratio.1 x.ratio.2
    (((List.range 17).findSome? fun (n : Nat) => x.onGrid? (first - n)).getD ⟨0, 0⟩).trim

end Binary64

end TableThrift
