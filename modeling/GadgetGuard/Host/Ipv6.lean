import GadgetGuard.Host.Ipv4
import GadgetGuard.Text.Cut
/-!
# IPv6 addresses

Eight groups of sixteen bits. Hosts of URLs and addresses in settings are read by two
grammars that differ in what they refuse, and are written in two forms that differ for
mapped IPv4 addresses.
-/

namespace GadgetGuard

open GadgetGuard.Text

structure Ipv6 where
  g0 : UInt16
  g1 : UInt16
  g2 : UInt16
  g3 : UInt16
  g4 : UInt16
  g5 : UInt16
  g6 : UInt16
  g7 : UInt16
  deriving DecidableEq, Repr

namespace Ipv6

def groups (address : Ipv6) : List UInt16 :=
  [address.g0, address.g1, address.g2, address.g3, address.g4, address.g5, address.g6,
    address.g7]

def ofGroups? : List UInt16 → Option Ipv6
  | [g0, g1, g2, g3, g4, g5, g6, g7] => some ⟨g0, g1, g2, g3, g4, g5, g6, g7⟩
  | _ => none

def loopback : Ipv6 := ⟨0, 0, 0, 0, 0, 0, 0, 1⟩

def unspecified : Ipv6 := ⟨0, 0, 0, 0, 0, 0, 0, 0⟩

/-- The IPv4 address that a mapped address `::ffff:a.b.c.d` stands for. -/
def mapped? (address : Ipv6) : Option Ipv4 :=
  match address with
  | ⟨0, 0, 0, 0, 0, 0xFFFF, high, low⟩ => some (Ipv4.ofNat (high.toNat * 65536 + low.toNat))
  | _ => none

/-- How many leading groups are zero. -/
def zeroRun (groups : List UInt16) : Nat :=
  (groups.takeWhile (· == 0)).length

/-- Where the first longest run of at least two zero groups starts, and its length. -/
def longestRun (groups : List UInt16) : Option (Nat × Nat) :=
  (List.range groups.length).foldl
    (fun best start =>
      let length := zeroRun (groups.drop start)
      let bestLength := match best with
        | some (_, bestLength) => bestLength
        | none => 1
      if bestLength < length then some (start, length) else best)
    none

def groupsText (groups : List UInt16) : String :=
  ":".intercalate (groups.map fun group => hexText group.toNat)

/-- Groups in lower-case hexadecimal, the first longest run of zero groups as `::`. -/
def toHostString (address : Ipv6) : String :=
  match longestRun address.groups with
  | none => groupsText address.groups
  | some (start, length) =>
    groupsText (address.groups.take start) ++ "::" ++
      groupsText (address.groups.drop (start + length))

/-- As in a host, except that a mapped address shows its IPv4 address. -/
def toString (address : Ipv6) : String :=
  match address.mapped? with
  | some address => "::ffff:" ++ address.toString
  | none => address.toHostString

/-- Up to four hexadecimal digits and what follows them. -/
def takeGroup : Nat → Nat → List Char → Nat × List Char
  | 0, value, text => (value, text)
  | _ + 1, value, [] => (value, [])
  | count + 1, value, c :: text =>
    match hexValue? c with
    | some digit => takeGroup count (value * 16 + digit) text
    | none => (value, c :: text)

theorem takeGroup_length (count value : Nat) (text : List Char) :
    (takeGroup count value text).2.length ≤ text.length := by
  induction count generalizing value text with
  | zero => simp [takeGroup]
  | succ count ih =>
    cases text with
    | nil => simp [takeGroup]
    | cons c text =>
      rw [takeGroup]
      split
      · exact Nat.le_succ_of_le (ih _ _)
      · simp

/-- The groups read so far, and after how many of them `::` stood. -/
structure Reading where
  groups : List UInt16
  gap : Option Nat

/-- The two groups of an IPv4 address at the end of a host. -/
def Reading.withIpv4 (reading : Reading) (address : Ipv4) : Reading :=
  { reading with groups := reading.groups ++
      [UInt16.ofNat (address.toNat / 65536), UInt16.ofNat (address.toNat % 65536)] }

/-- The address, the groups after `::` moved to its end. -/
def Reading.finish (reading : Reading) : Option Ipv6 :=
  match reading.gap with
  | none => ofGroups? reading.groups
  | some gap =>
    ofGroups? (reading.groups.take gap ++ List.replicate (8 - reading.groups.length) 0 ++
      reading.groups.drop gap)

/-- Reads the groups of a host. A colon where a group would start is the second one of
`::`, which may occur once and counts as a group of its own. -/
def readHost (reading : Reading) : List Char → Option Reading
  | [] => some reading
  | ':' :: text =>
    if reading.groups.length = 8 ∨ reading.gap.isSome then none
    else readHost ⟨reading.groups ++ [0], some (reading.groups.length + 1)⟩ text
  | c :: text =>
    if reading.groups.length = 8 then none
    else
      match hexValue? c with
      | none => none
      | some digit =>
        let group := takeGroup 3 digit text
        let next : Reading := { reading with groups := reading.groups ++ [UInt16.ofNat group.1] }
        match _hgroup : group.2 with
        | [] => some next
        | ':' :: rest => if rest.isEmpty then none else readHost next rest
        | '.' :: _ =>
          if reading.groups.length > 6 then none
          else (Ipv4.parse? (c :: text)).map reading.withIpv4
        | _ => none
termination_by text => text.length
decreasing_by
  · simp
  · have hlength := takeGroup_length 3 digit text
    rw [show (takeGroup 3 digit text).2 = ':' :: rest from _hgroup] at hlength
    simp only [List.length_cons] at hlength ⊢
    omega

/-- Reads the host of a URL, without its brackets. -/
def ofHost? (text : List Char) : Option Ipv6 :=
  match text with
  | ':' :: ':' :: rest => (readHost ⟨[0], some 1⟩ rest).bind Reading.finish
  | ':' :: _ => none
  | [] => none
  | [_] => none
  | _ => (readHost ⟨[], none⟩ text).bind Reading.finish

/-- Reads one group of one to four digits. -/
def group? (text : List Char) : Option UInt16 :=
  if text.isEmpty ∨ 4 < text.length then none
  else (numberOfDigits? 16 text).map UInt16.ofNat

/-- Reads groups separated by colons, the last of which may be an IPv4 address. -/
def groupList? (text : List Char) : Option (List UInt16) :=
  if text.isEmpty then some []
  else
    let parts := splitAt (· == ':') text
    let last := parts.getLast?.getD []
    match Ipv4.parse? last with
    | some address => do
      let earlier ← parts.dropLast.mapM group?
      some (Reading.withIpv4 ⟨earlier, none⟩ address).groups
    | none => parts.mapM group?

/-- The text around the first `::`. -/
def cutGap : List Char → Option (List Char × List Char)
  | ':' :: ':' :: rest => some ([], rest)
  | c :: rest => (cutGap rest).map fun (before, after) => (c :: before, after)
  | [] => none

/-- Reads an address in settings: `::` stands for at least one zero group, and an IPv4
address may stand only at the very end. -/
def parse? (text : List Char) : Option Ipv6 :=
  match cutGap text with
  | none => (groupList? text).bind ofGroups?
  | some (before, after) => do
    let front ← groupList? before
    let back ← groupList? after
    if before.contains '.' then none
    else if front.length + back.length < 8 then
      ofGroups? (front ++ List.replicate (8 - front.length - back.length) 0 ++ back)
    else none

end Ipv6

end GadgetGuard
