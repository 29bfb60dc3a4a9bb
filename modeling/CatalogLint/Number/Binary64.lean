import CatalogLint.Number.Decimal

/-!
# Rounding to 53 bits

A `Binary64` is a finite double: a sign and `mantissa · 2 ^ exponent`, the mantissa below
`2 ^ 53` and the exponent at least `-1074`. `roundRatio` takes an exact quotient to the
nearest double, a tie to the even mantissa; all arithmetic here is an exact computation on
natural numbers followed by one such rounding. `none` stands for an overflow.
-/

namespace CatalogLint

/-- A finite double. A zero keeps its sign. -/
structure Binary64 where
  negative : Bool
  mantissa : Nat
  exponent : Int
  deriving DecidableEq, Repr

namespace Binary64

/-- The value of the first of the 53 bits of a mantissa, `2 ^ 52`. -/
def leadingBit : Nat := Nat.pow 2 52

/-- The least exponent, that of the numbers nearest to zero. -/
def minExponent : Int := -1074

/-- The greatest exponent. -/
def maxExponent : Int := 971

/-- The quotient of two natural numbers rounded to the nearest natural number, a tie to the
even one. -/
def divNearest (num den : Nat) : Nat :=
  let quotient := num / den
  let twice := 2 * (num % den)
  if twice < den then quotient
  else if den < twice then quotient + 1
  else if quotient % 2 = 0 then quotient
  else quotient + 1

/-- `num / den / 2 ^ exponent` as a quotient of natural numbers. -/
def scale (num den : Nat) (exponent : Int) : Nat × Nat :=
  match exponent with
  | .ofNat e => (num, den * Nat.pow 2 e)
  | .negSucc e => (num * Nat.pow 2 (e + 1), den)

/-- The exponent at which the integral part of `num / den` has 53 bits, or the least one. -/
def exponentFor (num den : Nat) : Int :=
  let guess : Int := (num.log2 : Int) - den.log2 - 52
  let (n, d) := scale num den guess
  max minExponent (if n / d < leadingBit then guess - 1 else guess)

/-- `± num / den` rounded to the nearest double; `none` when that is infinite. -/
def roundRatio (negative : Bool) (num den : Nat) : Option Binary64 :=
  if num = 0 then some ⟨negative, 0, minExponent⟩
  else
    let exponent := exponentFor num den
    let (n, d) := scale num den exponent
    let mantissa := divNearest n d
    let rounded : Binary64 :=
      if mantissa = 2 * leadingBit then ⟨negative, leadingBit, exponent + 1⟩
      else ⟨negative, mantissa, exponent⟩
    if rounded.exponent ≤ maxExponent then some rounded else none

/-- The double nearest to a natural number. -/
def ofNat (n : Nat) : Option Binary64 := roundRatio false n 1

/-- The double nearest to a decimal number. Below `10 ^ -400` it is zero and from
`10 ^ 400` on infinite, which is settled without writing the power out. -/
def ofDecimal (x : Decimal) : Option Binary64 :=
  let magnitude : Int := (Nat.toDigits 10 x.significand).length + x.exponent
  if x.significand = 0 || magnitude < -400 then some ⟨x.negative, 0, minExponent⟩
  else if 400 < magnitude then none
  else
    match x.exponent with
    | .ofNat e => roundRatio x.negative (x.significand * Nat.pow 10 e) 1
    | .negSucc e => roundRatio x.negative x.significand (Nat.pow 10 (e + 1))

/-- The product of two doubles, rounded. -/
def mul (a b : Binary64) : Option Binary64 :=
  let (num, den) := scale (a.mantissa * b.mantissa) 1 (-(a.exponent + b.exponent))
  roundRatio (a.negative != b.negative) num den

/-- The quotient of two doubles, the second of them other than zero, rounded. -/
def div (a b : Binary64) : Option Binary64 :=
  let (num, den) := scale a.mantissa b.mantissa (b.exponent - a.exponent)
  roundRatio (a.negative != b.negative) num den

/-- The quotient of a double by a natural number other than zero, rounded. -/
def divNat (a : Binary64) (n : Nat) : Option Binary64 :=
  let (num, den) := scale a.mantissa 1 (-a.exponent)
  roundRatio a.negative num (den * n)

/-- The multiple of `2 ^ minExponent` that a double is. -/
def units (a : Binary64) : Int :=
  let magnitude : Int := ↑(a.mantissa * Nat.pow 2 (a.exponent - minExponent).toNat)
  if a.negative then -magnitude else magnitude

/-- Whether a double is at most another one. -/
def le (a b : Binary64) : Bool := a.units ≤ b.units

/-- The 64 bits of a double: sign, biased exponent and mantissa without its leading one. -/
def bits (a : Binary64) : Nat :=
  let sign := if a.negative then 2048 * leadingBit else 0
  if a.mantissa < leadingBit then sign + a.mantissa
  else sign + (a.exponent - minExponent + 1).toNat * leadingBit + (a.mantissa - leadingBit)

end Binary64

end CatalogLint
