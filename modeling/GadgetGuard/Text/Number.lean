import GadgetGuard.Text.Blank
/-!
# Numbers in requests

Whole numbers are read from decimal digits after an optional sign. Blanks around them are
allowed where a request spells them, and a number beyond the range of its use is refused.
-/

namespace GadgetGuard.Text

def decimalValue (digits : List Char) : Nat :=
  digits.foldl (fun value c => value * 10 + (c.toNat - 48)) 0

def digits? (text : List Char) : Option Nat :=
  if !text.isEmpty && text.all Char.isDigit then some (decimalValue text) else none

/-- Reads a number from zero up to a limit, after an optional plus. -/
def natural? (limit : Nat) (text : List Char) : Option Nat :=
  let value := match text with
    | '+' :: digits => digits? digits
    | digits => digits? digits
  value.filter (· ≤ limit)

/-- The largest number of sixty-four bits without a sign. -/
def maxNatural : Nat := UInt64.size - 1

/-- The largest number of sixty-four bits with a sign. -/
def maxInteger : Nat := UInt64.size / 2 - 1

/-- Reads a number of sixty-four bits with a sign. -/
def integer? (text : List Char) : Option Int :=
  match text with
  | '-' :: digits =>
    ((digits? digits).filter (· ≤ maxInteger + 1)).map fun value => -(value : Int)
  | _ => (natural? maxInteger text).map Int.ofNat

end GadgetGuard.Text
