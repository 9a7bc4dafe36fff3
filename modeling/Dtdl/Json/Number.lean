import Dtdl.Binary64.Shortest

/-!
# Numbers of JSON documents

A numeral without fraction and exponent is a whole number as long as it fits into 64
bits, with or without sign.  Every other numeral is a floating point number.
-/

namespace Dtdl.Json

inductive Number where
  | integer (value : Int)
  | real (negative : Bool) (magnitude : Binary64)
  deriving DecidableEq, Repr

namespace Number

/-- A magnitude in decimal digits.  The point is written for values with at most
sixteen digits before it and at most five zeros in front, the exponent for all others. -/
def magnitudeText (magnitude : Binary64) : String :=
  let decimal := magnitude.shortest
  let digits := toString decimal.digits
  let length := digits.length
  let point : Int := length + decimal.exponent
  let zeros (count : Nat) : String := String.ofList (List.replicate count '0')
  if magnitude.significand = 0 then "0.0"
  else if 0 ≤ decimal.exponent && point ≤ 16 then
    digits ++ zeros decimal.exponent.toNat ++ ".0"
  else if 0 < point && point ≤ 16 then
    String.ofList (digits.toList.take point.toNat) ++ "." ++
      String.ofList (digits.toList.drop point.toNat)
  else if -5 < point && point ≤ 0 then "0." ++ zeros (-point).toNat ++ digits
  else
    let exponent := point - 1
    let sign := if exponent < 0 then "-" else "+"
    let fraction := if length = 1 then "" else "." ++ String.ofList (digits.toList.drop 1)
    String.ofList (digits.toList.take 1) ++ fraction ++ "e" ++ sign ++ toString exponent.natAbs

def text : Number → String
  | integer value => toString value
  | real negative magnitude => (if negative then "-" else "") ++ magnitudeText magnitude

/-- The largest whole number that is kept as one. -/
def maxInteger : Nat := 18446744073709551615

/-- The largest magnitude of a negative whole number that is kept as one. -/
def maxNegative : Nat := 9223372036854775808

/-- The magnitude nearest to a power of ten, for exponents up to 308. -/
def powerOfTen (exponent : Nat) : Binary64 :=
  (Binary64.ofNat (Nat.pow 10 exponent)).getD Binary64.zero

/-- Divide a magnitude by a power of ten in steps of at most 308, each of which is
rounded; a magnitude that has become zero stays zero. -/
def dividedByTens (fuel exponent : Nat) (magnitude : Binary64) : Binary64 :=
  match fuel with
  | 0 => magnitude
  | fuel + 1 =>
      if exponent ≤ 308 then (magnitude.quotient (powerOfTen exponent)).getD Binary64.zero
      else if magnitude.significand = 0 then magnitude
      else
        dividedByTens fuel (exponent - 308)
          ((magnitude.quotient (powerOfTen 308)).getD Binary64.zero)

/-- The value of `significand · 10 ^ exponent`.  The significand is rounded first and
then multiplied or divided by a rounded power of ten, so the last bit may differ from
that of the nearest magnitude.  Nothing is given for a value that is too large. -/
def scaled (significand : Nat) (exponent : Int) : Option Binary64 := do
  let magnitude ← Binary64.ofNat significand
  if exponent < 0 then
    some (dividedByTens (exponent.natAbs / 308 + 1) exponent.natAbs magnitude)
  else if exponent ≤ 308 then magnitude.product (powerOfTen exponent.toNat)
  else if magnitude.significand = 0 then some magnitude
  else none

end Number

end Dtdl.Json
