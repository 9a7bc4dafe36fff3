/-!
# 64-bit binary floating point, in exact arithmetic

A magnitude is a significand of at most 53 bits times a power of two.  Every
operation computes the exact quotient of two natural numbers and rounds it once, to
the nearest magnitude and to the even significand where two are equally near.  There
is no infinity: what lies beyond the largest magnitude is refused.
-/

namespace Dtdl

/-- The magnitude `significand · 2 ^ exponent`. -/
structure Binary64 where
  significand : Nat
  exponent : Int
  deriving DecidableEq, Repr

namespace Binary64

/-- The number of bits of a significand. -/
def precision : Nat := 53

/-- The smallest exponent; magnitudes with it may have a short significand. -/
def minExponent : Int := -1074

def maxExponent : Int := 971

def zero : Binary64 := ⟨0, minExponent⟩

/-- A power of two with a natural exponent, the negative part of an exponent counting
as 0. -/
def shift (exponent : Int) : Nat := Nat.pow 2 exponent.toNat

/-- The quotient of two numbers rounded to a whole number, halves to even. -/
def roundedQuotient (numerator denominator : Nat) : Nat :=
  let quotient := numerator / denominator
  let double := 2 * (numerator % denominator)
  if denominator < double || double = denominator && quotient % 2 = 1 then quotient + 1
  else quotient

/-- The exponent of the highest bit of a quotient of two positive numbers. -/
def leadingBit (numerator denominator : Nat) : Int :=
  let guess : Int := (Nat.log2 numerator : Int) - (Nat.log2 denominator : Int)
  if numerator * shift (-guess) < denominator * shift guess then guess - 1 else guess

/-- The magnitude nearest to a quotient; nothing if it is too large. -/
def round (numerator denominator : Nat) : Option Binary64 :=
  if numerator = 0 || denominator = 0 then some zero
  else
    let exponent := max minExponent (leadingBit numerator denominator - (precision - 1 : Nat))
    let significand :=
      roundedQuotient (numerator * shift (-exponent)) (denominator * shift exponent)
    let rounded : Binary64 :=
      if significand = Nat.pow 2 precision then ⟨Nat.pow 2 (precision - 1), exponent + 1⟩
      else ⟨significand, exponent⟩
    if maxExponent < rounded.exponent then none else some rounded

def numerator (value : Binary64) : Nat := value.significand * shift value.exponent

def denominator (value : Binary64) : Nat := shift (-value.exponent)

def ofNat (number : Nat) : Option Binary64 := round number 1

def product (left right : Binary64) : Option Binary64 :=
  round (left.numerator * right.numerator) (left.denominator * right.denominator)

def quotient (left right : Binary64) : Option Binary64 :=
  round (left.numerator * right.denominator) (left.denominator * right.numerator)

end Binary64

end Dtdl
