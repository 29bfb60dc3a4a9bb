import CatalogLint.Text.Basic

/-!
# Decimal numbers

A decimal number is written as an optional sign, ASCII digits with at most one point and
at least one digit, and an optional exponent: `e` or `E`, an optional sign and at least one
digit. `Decimal.ofText?` reads exactly these texts and keeps the value exact.
-/

namespace CatalogLint

/-- The number `±significand · 10 ^ exponent`. A zero keeps its sign. -/
structure Decimal where
  negative : Bool
  significand : Nat
  exponent : Int
  deriving DecidableEq, Repr

namespace Decimal

/-- Whether a character is an ASCII digit. -/
def isDigit (c : Char) : Bool := '0' ≤ c && c ≤ '9'

/-- The number that a text of digits writes. -/
def digitsValue (digits : Text) : Nat :=
  digits.foldl (fun n c => 10 * n + (c.toNat - '0'.toNat)) 0

/-- Removes a sign from the front and tells whether it is a minus. -/
def readSign : Text → Bool × Text
  | '-' :: t => (true, t)
  | '+' :: t => (false, t)
  | t => (false, t)

/-- The exponent that a text writes; without the letter, and so for the empty text, zero. -/
def readExponent? : Text → Option Int
  | [] => some 0
  | c :: t =>
    if c = 'e' || c = 'E' then
      let (negative, digits) := readSign t
      if !digits.isEmpty && digits.all isDigit then
        let n : Int := digitsValue digits
        some (if negative then -n else n)
      else none
    else none

/-- The digits of a text up to its exponent: those before the point, those after it, and
what follows. -/
def readDigits (t : Text) : Text × Text × Text :=
  let whole := t.takeWhile isDigit
  match t.dropWhile isDigit with
  | '.' :: rest => (whole, rest.takeWhile isDigit, rest.dropWhile isDigit)
  | rest => (whole, [], rest)

/-- The decimal number that a text writes, if it writes one. -/
def ofText? (t : Text) : Option Decimal :=
  let (negative, body) := readSign t
  let (whole, fraction, tail) := readDigits body
  if whole.isEmpty && fraction.isEmpty then none
  else
    (readExponent? tail).map fun exponent =>
      { negative
        significand := digitsValue (whole ++ fraction)
        exponent := exponent - fraction.length }

end Decimal

/-- The integer that a text writes: an optional sign and ASCII digits. -/
def readInteger? (t : Text) : Option Int :=
  let (negative, digits) := Decimal.readSign t
  if !digits.isEmpty && digits.all Decimal.isDigit then
    let n : Int := Decimal.digitsValue digits
    some (if negative then -n else n)
  else none

end CatalogLint
