/-!
# Binary floating-point numbers

A finite number of the format with fifty-three binary digits, as the exact value
`mantissa * 2 ^ exponent` with a sign. Decimal numbers are read by rounding to the nearest
one, and a tie goes to the even mantissa.
-/

namespace GadgetGuard.Decimal

structure Binary64 where
  negative : Bool
  mantissa : Nat
  exponent : Int
  deriving DecidableEq, Repr

/-- A positive fraction. -/
structure Ratio where
  numerator : Nat
  denominator : Nat

namespace Ratio

/-- The fraction times a power of the base. -/
def scaled (ratio : Ratio) (base : Nat) (exponent : Int) : Ratio :=
  if 0 ≤ exponent then ⟨ratio.numerator * base.pow exponent.toNat, ratio.denominator⟩
  else ⟨ratio.numerator, ratio.denominator * base.pow (-exponent).toNat⟩

def le (left right : Ratio) : Bool :=
  left.numerator * right.denominator ≤ right.numerator * left.denominator

def lt (left right : Ratio) : Bool :=
  left.numerator * right.denominator < right.numerator * left.denominator

/-- The nearest whole number; a tie goes to the even one. -/
def round (ratio : Ratio) : Nat :=
  let quotient := ratio.numerator / ratio.denominator
  let twice := 2 * (ratio.numerator % ratio.denominator)
  if twice < ratio.denominator then quotient
  else if twice = ratio.denominator then quotient + quotient % 2
  else quotient + 1

end Ratio

namespace Binary64

/-- The least mantissa with fifty-three binary digits. -/
def leastFull : Nat := Nat.pow 2 52

/-- The exponent of the numbers nearest to zero. -/
def leastExponent : Int := -1074

def greatestExponent : Int := 971

def digitCount (value : Nat) : Nat :=
  (Nat.toDigits 10 value).length

/-- The exponent under which the mantissa of a fraction has fifty-three binary digits, or
the least one. -/
def exponentOf (ratio : Ratio) : Int :=
  let guess : Int := (Nat.log2 ratio.numerator : Int) - (Nat.log2 ratio.denominator : Int) - 52
  let exponent := if (ratio.scaled 2 (-guess)).lt ⟨leastFull, 1⟩ then guess - 1 else guess
  max exponent leastExponent

/-- The nearest number to a fraction, if it is not too large. -/
def ofRatio? (negative : Bool) (ratio : Ratio) : Option Binary64 :=
  let exponent := exponentOf ratio
  let mantissa := (ratio.scaled 2 (-exponent)).round
  let (mantissa, exponent) :=
    if mantissa = 2 * leastFull then (leastFull, exponent + 1) else (mantissa, exponent)
  if exponent ≤ greatestExponent then some ⟨negative, mantissa, exponent⟩ else none

/-- The nearest number to `digits * 10 ^ scale`, if it is not too large. Far beyond the
range the answer is known from the size alone. -/
def ofDecimal? (negative : Bool) (digits : Nat) (scale : Int) : Option Binary64 :=
  let size := scale + digitCount digits
  if digits = 0 ∨ size < -400 then some ⟨negative, 0, leastExponent⟩
  else if 400 < size then none
  else ofRatio? negative ((Ratio.mk digits 1).scaled 10 scale)

end Binary64

end GadgetGuard.Decimal
