/-!
# ASCII letters and digits

Names of tags, attributes, headers and schemes are compared without regard to the case
of ASCII letters, and numbers are written with ASCII digits. Every other character is
its own lower case here.
-/

namespace GadgetGuard.Text

/-- Folds `A` to `Z`; every other character is kept. -/
def lower (text : String) : String :=
  text.map Char.toLower

def equalIgnoringCase (left right : String) : Bool :=
  lower left == lower right

/-- The value of a hexadecimal digit of either case. -/
def hexValue? (c : Char) : Option Nat :=
  let n := c.toNat
  if 48 ≤ n ∧ n ≤ 57 then some (n - 48)
  else if 97 ≤ n ∧ n ≤ 102 then some (n - 87)
  else if 65 ≤ n ∧ n ≤ 70 then some (n - 55)
  else none

def isHexDigit (c : Char) : Bool :=
  (hexValue? c).isSome

/-- The digit of a value below sixteen, in upper case. -/
def upperHexDigit (value : Nat) : Char :=
  if value < 10 then Char.ofNat (48 + value) else Char.ofNat (55 + value)

/-- The digit of a value below sixteen, in lower case. -/
def lowerHexDigit (value : Nat) : Char :=
  if value < 10 then Char.ofNat (48 + value) else Char.ofNat (87 + value)

/-- Lower-case hexadecimal without leading zeros. -/
def hexText (value : Nat) : String :=
  String.ofList (Nat.toDigits 16 value)

/-- Reads a number in the given base from digits of either case; no digits give zero. -/
def numberOfDigits? (base : Nat) (digits : List Char) : Option Nat :=
  digits.foldlM (fun value c => do
    let digit ← hexValue? c
    if digit < base then some (value * base + digit) else none) 0

end GadgetGuard.Text
