import GadgetGuard.Text.Ascii
import GadgetGuard.Text.Cut
/-!
# IPv4 addresses

Two spellings are read. Addresses in settings are four decimal parts. Hosts of URLs may
have one to four parts in decimal, octal or hexadecimal, the last of which fills the
remaining bytes.
-/

namespace GadgetGuard

open GadgetGuard.Text

structure Ipv4 where
  a : UInt8
  b : UInt8
  c : UInt8
  d : UInt8
  deriving DecidableEq, Repr

namespace Ipv4

def ofNat (value : Nat) : Ipv4 :=
  ⟨UInt8.ofNat (value >>> 24), UInt8.ofNat (value >>> 16), UInt8.ofNat (value >>> 8),
    UInt8.ofNat value⟩

def toNat (address : Ipv4) : Nat :=
  ((address.a.toNat * 256 + address.b.toNat) * 256 + address.c.toNat) * 256 + address.d.toNat

def toString (address : Ipv4) : String :=
  ".".intercalate
    [s!"{address.a}", s!"{address.b}", s!"{address.c}", s!"{address.d}"]

/-- Reads a part of one to three digits without a leading zero, at most 255. -/
def decimalPart? (digits : List Char) : Option UInt8 :=
  match digits with
  | [] => none
  | ['0'] => some 0
  | '0' :: _ => none
  | _ =>
    if digits.length ≤ 3 then
      match numberOfDigits? 10 digits with
      | some value => if value < 256 then some (UInt8.ofNat value) else none
      | none => none
    else none

/-- Reads four decimal parts. -/
def parse? (text : List Char) : Option Ipv4 :=
  match (splitAt (· == '.') text).map decimalPart? with
  | [some a, some b, some c, some d] => some ⟨a, b, c, d⟩
  | _ => none

/-- Reads a number of a host: `0x` starts hexadecimal and a leading zero octal, and the
digits may be missing after either. Empty text is no number. -/
def hostNumber? (text : List Char) : Option Nat :=
  match text with
  | [] => none
  | '0' :: 'x' :: digits | '0' :: 'X' :: digits => numberOfDigits? 16 digits
  | '0' :: digit :: digits => numberOfDigits? 8 (digit :: digits)
  | _ => numberOfDigits? 10 text

/-- A host is meant as an address when its last part, an empty one after a final dot
aside, is a number. -/
def isIntended (host : List Char) : Bool :=
  let last? := match (splitAt (· == '.') host).reverse with
    | [] :: last :: _ => some last
    | [] :: [] => none
    | last :: _ => some last
    | [] => none
  match last? with
  | none => false
  | some last => (!last.isEmpty && last.all Char.isDigit) || (hostNumber? last).isSome

/-- Reads the numbers of a host as an address: every part but the last is one byte, and
the last fills the bytes that are left. -/
def ofNumbers? : List Nat → Option Ipv4
  | [] => none
  | numbers =>
    let bytes := numbers.dropLast
    let last := numbers.getLast?.getD 0
    let space := Nat.pow 256 (4 - bytes.length)
    if numbers.length ≤ 4 ∧ bytes.all (· < 256) ∧ last < space then
      some (ofNat ((bytes.foldl (fun value byte => value * 256 + byte) 0) * space + last))
    else none

/-- Reads a host that is meant as an address. -/
def ofHost? (host : List Char) : Option Ipv4 :=
  let parts := splitAt (· == '.') host
  let parts := match parts.reverse with
    | [] :: earlier => earlier.reverse
    | _ => parts
  (parts.mapM hostNumber?).bind ofNumbers?

end Ipv4

end GadgetGuard
