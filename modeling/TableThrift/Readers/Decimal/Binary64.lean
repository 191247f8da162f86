/-!
# Double-precision numbers

A finite double without its sign is a significand times a power of two. All arithmetic is exact
arithmetic of ratios followed by one rounding, to the nearest double and to the even one of two.

A number in a JSON file matters in one place only: in the report that it stands where a string or a
list is wanted, which shows the double nearest to it.

## Main definitions

* `Binary64`: a significand and an exponent
* `Binary64.ofRatio?`: the double nearest to a ratio
* `Binary64.mul?`, `Binary64.div?`: products and quotients
-/

namespace TableThrift

/-- The number `significand * 2 ^ exponent`. -/
structure Binary64 where
  significand : Nat
  exponent : Int
deriving DecidableEq, Repr

namespace Binary64

/-- The number of bits of a significand. -/
def precision : Nat := 53

/-- The least exponent. -/
def leastExponent : Int := -1074

/-- The greatest exponent. -/
def greatestExponent : Int := 971

/-- The number zero. -/
def zero : Binary64 := ⟨0, leastExponent⟩

/-- The quotient `n / d` rounded to the nearest number, and to the even one of two. -/
def roundDiv (n d : Nat) : Nat :=
  if 2 * (n % d) < d ∨ (2 * (n % d) = d ∧ n / d % 2 = 0) then n / d else n / d + 1

/-- The ratio `n / d` divided by `2 ^ e`. -/
def scale (n d : Nat) (e : Int) : Nat × Nat :=
  if e < 0 then (n * Nat.pow 2 e.natAbs, d) else (n, d * Nat.pow 2 e.natAbs)

/-- The double nearest to `n / d`, and the even one of two; none beyond the greatest double. -/
def ofRatio? (n d : Nat) : Option Binary64 :=
  if n = 0 then some zero
  else
    let low : Int := (n.log2 : Int) - d.log2 - precision
    let first := scale n d low
    let exponent :=
      max leastExponent (if first.1 / first.2 < Nat.pow 2 precision then low else low + 1)
    let second := scale n d exponent
    let significand := roundDiv second.1 second.2
    let rounded : Binary64 :=
      if significand = Nat.pow 2 precision then ⟨Nat.pow 2 (precision - 1), exponent + 1⟩
      else ⟨significand, exponent⟩
    if rounded.exponent > greatestExponent then none else some rounded

/-- A double as a ratio. -/
def ratio (x : Binary64) : Nat × Nat := scale x.significand 1 (-x.exponent)

/-- The rounded product. -/
def mul? (x y : Binary64) : Option Binary64 :=
  ofRatio? (x.ratio.1 * y.ratio.1) (x.ratio.2 * y.ratio.2)

/-- The rounded quotient. -/
def div? (x y : Binary64) : Option Binary64 :=
  ofRatio? (x.ratio.1 * y.ratio.2) (x.ratio.2 * y.ratio.1)

end Binary64

end TableThrift
