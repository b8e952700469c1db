import GadgetGuard.Decimal.Binary64
/-!
# Shortest decimal text

A number is written with the fewest digits that read back as the same number, and of those
digits with the nearest. Positional notation is used from `0.00001` up to sixteen digits
before the point, and a power of ten with a sign beyond that.
-/

namespace GadgetGuard.Decimal

namespace Binary64

def magnitude (number : Binary64) : Ratio :=
  (Ratio.mk number.mantissa 1).scaled 2 number.exponent

/-- The ends of the interval of reals that round to the number. Below a power of two the
neighbours are closer. -/
def bounds (number : Binary64) : Ratio × Ratio :=
  let isClose := number.mantissa = leastFull ∧ number.exponent ≠ leastExponent
  let below : Ratio :=
    if isClose then ⟨4 * number.mantissa - 1, 4⟩ else ⟨2 * number.mantissa - 1, 2⟩
  let above : Ratio := ⟨2 * number.mantissa + 1, 2⟩
  (below.scaled 2 number.exponent, above.scaled 2 number.exponent)

/-- Whether a fraction rounds to the number; the ends do so if the mantissa is even. -/
def reads (number : Binary64) (ratio : Ratio) : Bool :=
  let (low, high) := number.bounds
  if number.mantissa % 2 = 0 then low.le ratio && ratio.le high
  else low.lt ratio && ratio.lt high

/-- The power of ten that the first decimal digit of a fraction counts. -/
def leadingPower (ratio : Ratio) : Int :=
  let guess : Int := (digitCount ratio.numerator : Int) - (digitCount ratio.denominator : Int)
  if ((Ratio.mk 1 1).scaled 10 guess).le ratio then guess else guess - 1

/-- The best multiple of a power of ten that reads back, if one does: of the two next to the
number the nearer, and the even one of two that are as near. -/
def multiple? (number : Binary64) (power : Int) : Option Nat :=
  let grid := number.magnitude.scaled 10 (-power)
  let lower := grid.numerator / grid.denominator
  let readsBack (digits : Nat) := number.reads ((Ratio.mk digits 1).scaled 10 power)
  match readsBack lower, readsBack (lower + 1) with
  | true, true => some grid.round
  | true, false => some lower
  | false, true => some (lower + 1)
  | false, false => none

/-- Tries smaller and smaller powers of ten, and returns a multiple with its power. -/
def search (number : Binary64) : Nat → Int → Nat × Int
  | 0, power => ((number.multiple? power).getD 0, power)
  | more + 1, power =>
    match number.multiple? power with
    | some digits => (digits, power)
    | none => search number more (power - 1)

/-- The digits of the shortest decimal without zeros at the end, and the power of ten that
the first of them counts. -/
def shortest (number : Binary64) : List Char × Int :=
  let (value, power) := number.search 16 (leadingPower number.magnitude)
  let digits := Nat.toDigits 10 value
  ((digits.reverse.dropWhile (· == '0')).reverse, power + (digits.length : Int) - 1)

def zeros (count : Nat) : List Char :=
  List.replicate count '0'

/-- Digits with a point behind the units; there is a digit on either side of it. -/
def positional (digits : List Char) (place : Int) : List Char :=
  if place < 0 then ['0', '.'] ++ zeros (-place - 1).toNat ++ digits
  else
    let units := place.toNat + 1
    let whole := digits.take units ++ zeros (units - digits.length)
    let fraction := digits.drop units
    whole ++ '.' :: (if fraction.isEmpty then ['0'] else fraction)

/-- One digit before the point and a power of ten behind all. -/
def scientific (digits : List Char) (place : Int) : List Char :=
  let significand := match digits with
    | first :: [] => [first]
    | first :: rest => first :: '.' :: rest
    | [] => []
  significand ++ ['e', if place < 0 then '-' else '+'] ++ Nat.toDigits 10 place.natAbs

def toString (number : Binary64) : String :=
  let sign := if number.negative then ['-'] else []
  let text :=
    if number.mantissa = 0 then ['0', '.', '0']
    else
      let (digits, place) := number.shortest
      if -5 ≤ place ∧ place ≤ 15 then positional digits place else scientific digits place
  String.ofList (sign ++ text)

end Binary64

end GadgetGuard.Decimal
