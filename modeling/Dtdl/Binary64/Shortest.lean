import Dtdl.Binary64

/-!
# The shortest decimal of a magnitude

Many decimals round to the same magnitude.  The shortest one has the fewest
significant digits, and among those it is the one nearest to the exact value.  It is
found on decimal grids of one digit, of two digits and so on: on each grid only the
two neighbours of the value need to be tried, since every other point of the grid is
farther away on the same side.

A decimal can be written with all its zeros, and a magnitude can be read from a decimal
of any length.
-/

namespace Dtdl

/-- The number `digits · 10 ^ exponent`. -/
structure Decimal where
  digits : Nat
  exponent : Int
  deriving DecidableEq, Repr

/-- Move trailing zeros of the digits into the exponent. -/
def Decimal.trimmed (fuel : Nat) (decimal : Decimal) : Decimal :=
  match fuel with
  | 0 => decimal
  | fuel + 1 =>
      if decimal.digits % 10 = 0 && decimal.digits ≠ 0 then
        Decimal.trimmed fuel ⟨decimal.digits / 10, decimal.exponent + 1⟩
      else decimal

namespace Binary64

/-- A power of ten with a natural exponent, the negative part of an exponent counting
as 0. -/
def tens (exponent : Int) : Nat := Nat.pow 10 exponent.toNat

/-- The ends of the interval that rounds to a magnitude, as multiples of a quarter of
the place value of its last bit.  Below a power of two the next magnitude is only half
as far away. -/
def interval (value : Binary64) : Nat × Nat :=
  let lower :=
    if value.significand = Nat.pow 2 (precision - 1) && value.exponent ≠ minExponent then
      4 * value.significand - 1
    else 4 * value.significand - 2
  (lower, 4 * value.significand + 2)

/-- Whether a decimal rounds to a magnitude.  The ends of the interval belong to it
when the significand is even. -/
def roundsFrom (value : Binary64) (decimal : Decimal) : Bool :=
  let scale := value.exponent - 2
  let left := decimal.digits * tens decimal.exponent * shift (-scale)
  let right (bound : Nat) : Nat := bound * shift scale * tens (-decimal.exponent)
  let ends := value.interval
  if value.significand % 2 = 0 then right ends.1 ≤ left && left ≤ right ends.2
  else right ends.1 < left && left < right ends.2

/-- The number of decimal digits before the point; for a value below 1 it counts down
from 0 by the zeros behind the point. -/
def pointPosition (value : Binary64) : Int :=
  if value.denominator ≤ value.numerator then
    (Nat.toDigits 10 (value.numerator / value.denominator)).length
  else
    let reaches (count : Nat) : Bool :=
      value.denominator ≤ value.numerator * Nat.pow 10 (count + 1)
    0 - (((List.range 330).find? reaches).getD 0 : Nat)

/-- The better of the two neighbours of a value on a decimal grid, if one of them
rounds to the value. -/
def neighbour? (value : Binary64) (exponent : Int) : Option Decimal :=
  let numerator := value.numerator * tens (-exponent)
  let denominator := value.denominator * tens exponent
  let below : Decimal := ⟨numerator / denominator, exponent⟩
  let above : Decimal := ⟨numerator / denominator + 1, exponent⟩
  match value.roundsFrom below, value.roundsFrom above with
  | true, true =>
      let double := 2 * (numerator % denominator)
      if double < denominator || double = denominator && below.digits % 2 = 0 then some below
      else some above
  | true, false => some below
  | false, true => some above
  | false, false => none

/-- The shortest decimal that rounds to a magnitude; seventeen digits always suffice. -/
def shortest (value : Binary64) : Decimal :=
  if value.significand = 0 then ⟨0, 0⟩
  else
    let point := value.pointPosition
    let found := (List.range 17).findSome? fun count =>
      value.neighbour? (point - (count + 1 : Nat))
    (found.getD ⟨0, 0⟩).trimmed 20

end Binary64

/-- The written form of a decimal with every digit in its place and at least one digit
behind the point. -/
def Decimal.positional (decimal : Decimal) : String :=
  let digits := (toString decimal.digits).toList
  let zeros (count : Nat) : List Char := List.replicate count '0'
  let point : Int := digits.length + decimal.exponent
  String.ofList
    (if 0 ≤ decimal.exponent then digits ++ zeros decimal.exponent.toNat ++ ['.', '0']
    else if 0 < point then digits.take point.toNat ++ '.' :: digits.drop point.toNat
    else '0' :: '.' :: zeros (0 - point).toNat ++ digits)

/-- The magnitude nearest to a decimal; nothing if it is too large.  Decimals that lie
far beyond either end of the range are told by their number of digits. -/
def Binary64.ofDecimal (decimal : Decimal) : Option Binary64 :=
  let point : Int := (toString decimal.digits).length + decimal.exponent
  if decimal.digits = 0 || point < -400 then some zero
  else if 400 < point then none
  else round (decimal.digits * tens decimal.exponent) (tens (0 - decimal.exponent))

end Dtdl
