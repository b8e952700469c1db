import GadgetGuard.Text.Ascii
import GadgetGuard.Text.Cut
/-!
# Tables of character properties

A property is written as text: rows between blanks and line ends, each a code point or a
stretch `first..last` in hexadecimal, with the value of the property where it has one.
-/

namespace GadgetGuard.Unicode

open GadgetGuard.Text

structure Stretch where
  first : Nat
  last : Nat
  deriving Repr, DecidableEq

def Stretch.covers (stretch : Stretch) (c : Char) : Bool :=
  stretch.first ≤ c.toNat && c.toNat ≤ stretch.last

def inStretches (stretches : List Stretch) (c : Char) : Bool :=
  stretches.any (·.covers c)

def codePoint (digits : List Char) : Nat :=
  (numberOfDigits? 16 digits).getD 0

/-- Reads `first..last`, or one code point. -/
def Stretch.ofText (text : List Char) : Stretch :=
  match splitAt (· == '.') text with
  | [first, _, last] => ⟨codePoint first, codePoint last⟩
  | _ => ⟨codePoint text, codePoint text⟩

/-- The rows of a table. -/
def rows (table : String) : List (List Char) :=
  (splitAt (fun c => c == ' ' || c == '\n') table.toList).filter (! ·.isEmpty)

def Stretch.rows (table : String) : List Stretch :=
  (Unicode.rows table).map Stretch.ofText

/-- Rows of the form `first..last=class`, the class in decimal. -/
def Stretch.classRows (table : String) : List (Stretch × Nat) :=
  (Unicode.rows table).map fun row =>
    match cut '=' row with
    | (stretch, some value) => (ofText stretch, (numberOfDigits? 10 value).getD 0)
    | (stretch, none) => (ofText stretch, 0)

/-- A row that replaces the characters of a stretch, or every second one of them, either
by a fixed text or by the character a constant distance away. -/
structure Replacement where
  stretch : Stretch
  everySecond : Bool
  offset : Int
  target : List Char

def Replacement.covers (row : Replacement) (c : Char) : Bool :=
  row.stretch.covers c && (!row.everySecond || (c.toNat - row.stretch.first) % 2 == 0)

def Replacement.apply (row : Replacement) (c : Char) : List Char :=
  if row.target.isEmpty then [Char.ofNat (c.toNat + row.offset).toNat] else row.target

/-- Reads a stretch that may end in `/2`. -/
def Replacement.withStretch (text : List Char) (offset : Int) (target : List Char) :
    Replacement :=
  let (stretch, step) := cut '/' text
  ⟨Stretch.ofText stretch, step.isSome, offset, target⟩

def Replacement.ofText (row : List Char) : Replacement :=
  match cut '>' row with
  | (stretch, some target) =>
    withStretch stretch 0
      ((splitAt (· == ',') target).map fun digits => Char.ofNat (codePoint digits))
  | (_, none) =>
    match cut '+' row, cut '-' row with
    | (stretch, some distance), _ => withStretch stretch (codePoint distance) []
    | _, (stretch, some distance) => withStretch stretch (-(codePoint distance : Int)) []
    | _, _ => withStretch row 0 []

def Replacement.rows (table : String) : List Replacement :=
  (Unicode.rows table).map Replacement.ofText

end GadgetGuard.Unicode
