import GadgetGuard.Json.Basic
import GadgetGuard.Text.Ascii
import GadgetGuard.Text.Cut
import GadgetGuard.Text.Number
/-!
# Numbers in JSON5

A number without point and exponent is an integer of sixty-four bits with a sign, or of
thirty-two bits without one where it is written in hexadecimal. All others are rounded to
the nearest binary number. Numbers that are not finite read as null.
-/

namespace GadgetGuard.Json5

open GadgetGuard.Text GadgetGuard.Decimal

/-- Digits around a point and a power of ten, as they are written. -/
structure DecimalText where
  whole : List Char
  fraction : Option (List Char)
  power : Option Int
  deriving DecidableEq, Repr

/-- Reads the power of ten after its letter. -/
def power? (text : List Char) : Option Int :=
  match text with
  | '-' :: digits => (digits? digits).map fun value => -(value : Int)
  | '+' :: digits => (digits? digits).map Int.ofNat
  | digits => (digits? digits).map Int.ofNat

/-- Whole digits have no zero in front of others. -/
def isWhole (digits : List Char) : Bool :=
  match digits with
  | [] => false
  | '0' :: rest => rest.isEmpty
  | _ => true

def DecimalText.of? (text : List Char) : Option DecimalText := do
  let (significand, exponent) := match text.span (fun c => c != 'e' && c != 'E') with
    | (significand, []) => (significand, none)
    | (significand, _ :: exponent) => (significand, some exponent)
  let power ← match exponent with
    | none => pure none
    | some exponent => (power? exponent).map some
  let (whole, fraction) := cut '.' significand
  if !(whole ++ fraction.getD []).all Char.isDigit then none
  else if isWhole whole || (whole.isEmpty && !(fraction.getD []).isEmpty) then
    some { whole, fraction, power }
  else none

/-- The value of an unsigned text with a sign in front. -/
def DecimalText.value? (negative : Bool) (text : DecimalText) : Option Json :=
  if text.fraction.isNone ∧ text.power.isNone then
    let value : Int := decimalValue text.whole
    let signed := if negative then -value else value
    if -(maxInteger : Int) - 1 ≤ signed ∧ signed ≤ maxInteger then some (.integer signed) else none
  else
    let fraction := text.fraction.getD []
    (Binary64.ofDecimal? negative (decimalValue (text.whole ++ fraction))
      (text.power.getD 0 - fraction.length)).map .real

/-- Reads a number, with its sign if it has one. -/
def number? (text : List Char) : Option Json :=
  if ["Infinity", "-Infinity", "NaN", "-NaN"].contains (String.ofList text) then some .null
  else
    match text with
    | '0' :: 'x' :: digits | '0' :: 'X' :: digits =>
      if digits.isEmpty then none
      else ((numberOfDigits? 16 digits).filter (· < UInt32.size)).map fun value => .integer value
    | '-' :: digits => (DecimalText.of? digits).bind (·.value? true)
    | '+' :: digits => (DecimalText.of? digits).bind (·.value? false)
    | digits => (DecimalText.of? digits).bind (·.value? false)

end GadgetGuard.Json5
