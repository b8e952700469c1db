import Mathlib.Data.Nat.Bitwise
import GadgetGuard.Proxy.Target
/-!
# Blocks of addresses

An address is a number of 32 or of 128 bits, and a block is an interval of such numbers.  The
addresses that the proxy takes for private are those of a list of blocks, and no others
(`Address.isPrivate_iff`).
-/

namespace GadgetGuard

/-- The numbers from the first one on, as many as the size says. -/
structure AddressBlock where
  first : Nat
  size : Nat
  deriving DecidableEq, Repr

namespace AddressBlock

def Holds (block : AddressBlock) (number : Nat) : Prop :=
  block.first ≤ number ∧ number < block.first + block.size

instance (block : AddressBlock) (number : Nat) : Decidable (block.Holds number) :=
  inferInstanceAs (Decidable (_ ∧ _))

end AddressBlock

/-! ## Blocks of 32 bits -/

namespace Ipv4

variable {address : Ipv4} {a b c : UInt8}

/-- The addresses that share a number of leading bits with some address. -/
def block (base : Ipv4) (length : Nat) : AddressBlock :=
  ⟨base.toNat, 2 ^ (32 - length)⟩

/-- The blocks of private, local, reserved and documentation addresses, and of those for many
receivers. -/
def reserved : List AddressBlock :=
  [block ⟨10, 0, 0, 0⟩ 8, block ⟨172, 16, 0, 0⟩ 12, block ⟨192, 168, 0, 0⟩ 16,
    block ⟨127, 0, 0, 0⟩ 8, block ⟨169, 254, 0, 0⟩ 16, block ⟨0, 0, 0, 0⟩ 8,
    block ⟨100, 64, 0, 0⟩ 10, block ⟨192, 0, 0, 0⟩ 24, block ⟨192, 0, 2, 0⟩ 24,
    block ⟨198, 51, 100, 0⟩ 24, block ⟨203, 0, 113, 0⟩ 24, block ⟨224, 0, 0, 0⟩ 3]

theorem toNat_lt (address : Ipv4) : address.toNat < 2 ^ 32 := by
  have ha := address.a.toNat_lt
  have hb := address.b.toNat_lt
  have hc := address.c.toNat_lt
  have hd := address.d.toNat_lt
  rw [toNat]
  omega

theorem toNat_ofNat {number : Nat} (hnumber : number < 2 ^ 32) :
    (ofNat number).toNat = number := by
  simp only [ofNat, toNat, UInt8.toNat_ofNat', Nat.shiftRight_eq_div_pow]
  omega

theorem ofNat_toNat (address : Ipv4) : ofNat address.toNat = address := by
  obtain ⟨a, b, c, d⟩ := address
  have ha := a.toNat_lt
  have hb := b.toNat_lt
  have hc := c.toNat_lt
  have hd := d.toNat_lt
  simp only [ofNat, toNat, mk.injEq, ← UInt8.toNat_inj, UInt8.toNat_ofNat',
    Nat.shiftRight_eq_div_pow]
  omega

theorem isPrivate_iff (address : Ipv4) :
    address.isPrivate = true ↔ ∃ block ∈ reserved, block.Holds address.toNat := by
  obtain ⟨a, b, c, d⟩ := address
  have ha := a.toNat_lt
  have hb := b.toNat_lt
  have hc := c.toNat_lt
  have hd := d.toNat_lt
  simp only [isPrivate, reserved, List.mem_cons, List.not_mem_nil, or_false, or_and_right,
    exists_or, exists_eq_left, Bool.or_eq_true, or_assoc]
  -- both sides list their cases in the same order
  repeat' apply or_congr
  all_goals
    simp only [AddressBlock.Holds, block, toNat, Bool.and_eq_true, beq_iff_eq, decide_eq_true_eq,
      ← UInt8.toNat_inj, UInt8.le_iff_toNat_le, UInt8.reduceToNat]
    omega

end Ipv4

/-! ## Blocks of 128 bits -/

namespace Ipv6

variable {address other : Ipv6} {mapped : Ipv4} {left right : List UInt16}

/-- The number that groups spell, the first one being the most significant. -/
def groupsNumber : List UInt16 → Nat
  | [] => 0
  | group :: groups => group.toNat * 65536 ^ groups.length + groupsNumber groups

def toNat (address : Ipv6) : Nat :=
  groupsNumber address.groups

/-- The addresses that share a number of leading bits with some address. -/
def block (base : Ipv6) (length : Nat) : AddressBlock :=
  ⟨base.toNat, 2 ^ (128 - length)⟩

/-- The mapped form of an IPv4 address. -/
def ofIpv4 (address : Ipv4) : Ipv6 :=
  ⟨0, 0, 0, 0, 0, 0xFFFF, UInt16.ofNat (address.toNat / 65536), UInt16.ofNat address.toNat⟩

/-- The mapped forms of a block of IPv4 addresses. -/
def mappedBlock (block : AddressBlock) : AddressBlock :=
  ⟨0xFFFF * 2 ^ 32 + block.first, block.size⟩

/-- The machine itself, the unspecified address, and the blocks of private, local, multicast and
documentation addresses. -/
def ownReserved : List AddressBlock :=
  [block loopback 128, block unspecified 128, block ⟨0xFC00, 0, 0, 0, 0, 0, 0, 0⟩ 7,
    block ⟨0xFE80, 0, 0, 0, 0, 0, 0, 0⟩ 10, block ⟨0xFF00, 0, 0, 0, 0, 0, 0, 0⟩ 8,
    block ⟨0x2001, 0x0DB8, 0, 0, 0, 0, 0, 0⟩ 32]

/-- With the mapped forms of the reserved IPv4 addresses. -/
def reserved : List AddressBlock :=
  ownReserved ++ Ipv4.reserved.map mappedBlock

theorem groupsNumber_lt (groups : List UInt16) :
    groupsNumber groups < 65536 ^ groups.length := by
  induction groups with
  | nil => exact Nat.one_pos
  | cons group groups ih =>
    have hgroup : group.toNat + 1 ≤ 65536 := group.toNat_lt
    calc
      groupsNumber (group :: groups) < (group.toNat + 1) * 65536 ^ groups.length := by
        rw [groupsNumber, Nat.succ_mul]
        exact Nat.add_lt_add_left ih _
      _ ≤ 65536 * 65536 ^ groups.length := Nat.mul_le_mul_right _ hgroup
      _ = 65536 ^ (group :: groups).length := (Nat.pow_succ').symm

/-- Groups of the same length are told apart by their numbers. -/
theorem eq_of_groupsNumber_eq (hlength : left.length = right.length)
    (hnumber : groupsNumber left = groupsNumber right) : left = right := by
  induction left generalizing right with
  | nil => exact (List.eq_nil_of_length_eq_zero hlength.symm).symm
  | cons group left ih =>
    cases right with
    | nil => contradiction
    | cons other right =>
      rw [List.length_cons, List.length_cons, Nat.add_right_cancel_iff] at hlength
      have hleft := groupsNumber_lt left
      have hright := groupsNumber_lt right
      rw [hlength] at hleft
      rw [groupsNumber, groupsNumber, hlength, Nat.mul_comm, Nat.mul_comm other.toNat] at hnumber
      have hpos : 0 < 65536 ^ right.length := Nat.pow_pos (by decide)
      have hgroup : group.toNat = other.toNat := by
        have hquotient := congrArg (· / 65536 ^ right.length) hnumber
        simpa only [Nat.mul_add_div hpos, Nat.div_eq_of_lt hleft, Nat.div_eq_of_lt hright,
          Nat.add_zero] using hquotient
      rw [hgroup, Nat.add_left_cancel_iff] at hnumber
      rw [UInt16.toNat_inj.1 hgroup, ih hlength hnumber]

theorem toNat_inj : address.toNat = other.toNat ↔ address = other := by
  constructor
  · intro hnumber
    have hlength : address.groups.length = other.groups.length := rfl
    have hgroups := eq_of_groupsNumber_eq hlength hnumber
    simpa only [groups, List.cons.injEq, and_true, ← mk.injEq] using hgroups
  · rintro rfl
    rfl

theorem toNat_ofIpv4 (mapped : Ipv4) : (ofIpv4 mapped).toNat = 0xFFFF * 2 ^ 32 + mapped.toNat := by
  have hlt := mapped.toNat_lt
  simp only [ofIpv4, toNat, groups, groupsNumber, List.length_cons, List.length_nil,
    UInt16.toNat_ofNat', UInt16.reduceToNat]
  omega

/-- The mapped addresses are those of the block `::ffff:0:0/96`, in the order of what they stand
for. -/
theorem mapped?_eq_some_iff :
    address.mapped? = some mapped ↔ address.toNat = 0xFFFF * 2 ^ 32 + mapped.toNat := by
  rw [← toNat_ofIpv4, toNat_inj]
  constructor
  · intro hmapped
    unfold mapped? at hmapped
    split at hmapped
    next high low =>
      have hhigh := high.toNat_lt
      have hlow := low.toNat_lt
      rw [← Option.some.inj hmapped, ofIpv4, Ipv4.toNat_ofNat (by omega)]
      simp only [mk.injEq, ← UInt16.toNat_inj, UInt16.toNat_ofNat', true_and]
      omega
    · contradiction
  · rintro rfl
    have hlt := mapped.toNat_lt
    have hvalue : (UInt16.ofNat (mapped.toNat / 65536)).toNat * 65536 +
        (UInt16.ofNat mapped.toNat).toNat = mapped.toNat := by
      rw [UInt16.toNat_ofNat', UInt16.toNat_ofNat']
      omega
    rw [ofIpv4, mapped?, hvalue, Ipv4.ofNat_toNat]

/-- Keeping the leading bits of a number takes off what the others spell. -/
theorem and_leading_bits {number kept dropped : Nat} (hnumber : number < 2 ^ (kept + dropped)) :
    number &&& (2 ^ kept - 1) <<< dropped = number / 2 ^ dropped * 2 ^ dropped := by
  rw [← Nat.shiftRight_eq_div_pow, ← Nat.shiftLeft_eq]
  apply Nat.eq_of_testBit_eq
  intro i
  rw [Nat.testBit_and, Nat.testBit_shiftLeft, Nat.testBit_shiftLeft, Nat.testBit_two_pow_sub_one,
    Nat.testBit_shiftRight]
  by_cases hdropped : dropped ≤ i
  · by_cases hkept : i - dropped < kept
    · simp [hdropped, hkept]
    · have hzero : number.testBit i = false :=
        Nat.testBit_lt_two_pow
          (Nat.lt_of_lt_of_le hnumber (Nat.pow_le_pow_right (by decide) (by omega)))
      simp [hdropped, hkept, hzero]
  · simp [hdropped]

/-- The groups with the same leading bits as a group without any other bits. -/
theorem and_beq_iff {group base mask : UInt16} (kept dropped : Nat)
    (hwidth : kept + dropped = 16) (hmask : mask.toNat = (2 ^ kept - 1) <<< dropped)
    (hbase : base.toNat % 2 ^ dropped = 0) :
    (group &&& mask == base) = true ↔
      base.toNat ≤ group.toNat ∧ group.toNat < base.toNat + 2 ^ dropped := by
  have hgroup : group.toNat < 2 ^ (kept + dropped) := by
    rw [hwidth]
    exact group.toNat_lt
  rw [beq_iff_eq, ← UInt16.toNat_inj, UInt16.toNat_and, hmask, and_leading_bits hgroup]
  have hsplit := Nat.div_add_mod' group.toNat (2 ^ dropped)
  have hrest := Nat.mod_lt group.toNat (Nat.two_pow_pos dropped)
  constructor
  · intro hequal
    omega
  · rintro ⟨hlow, hhigh⟩
    have hmultiple := Nat.div_mul_cancel (Nat.dvd_of_mod_eq_zero hbase)
    have hquotient : group.toNat / 2 ^ dropped = base.toNat / 2 ^ dropped := by
      apply Nat.div_eq_of_lt_le
      · rwa [hmultiple]
      · rwa [Nat.succ_mul, hmultiple]
    rw [hquotient, hmultiple]

theorem holds_block_single {base : Ipv6} :
    (block base 128).Holds address.toNat ↔ address = base := by
  rw [← toNat_inj]
  simp only [AddressBlock.Holds, block]
  omega

/-- A block of at most sixteen leading bits is decided by the first group. -/
theorem holds_block_first {base : UInt16} {length : Nat} (hlength : length ≤ 16) :
    (block ⟨base, 0, 0, 0, 0, 0, 0, 0⟩ length).Holds address.toNat ↔
      base.toNat ≤ address.g0.toNat ∧ address.g0.toNat < base.toNat + 2 ^ (16 - length) := by
  have hrest : groupsNumber address.groups.tail < 65536 ^ 7 := groupsNumber_lt _
  have hnumber : address.toNat =
      address.g0.toNat * 65536 ^ 7 + groupsNumber address.groups.tail := rfl
  have hbase : (Ipv6.mk base 0 0 0 0 0 0 0).toNat = base.toNat * 65536 ^ 7 := by
    simp [toNat, groups, groupsNumber]
  have hsize : 2 ^ (128 - length) = 2 ^ (16 - length) * 2 ^ 112 := by
    have hwidth : 128 - length = 16 - length + 112 := by omega
    rw [hwidth, Nat.pow_add]
  simp only [AddressBlock.Holds, block, hnumber, hbase, hsize]
  omega

theorem holds_block_second {base second : UInt16} :
    (block ⟨base, second, 0, 0, 0, 0, 0, 0⟩ 32).Holds address.toNat ↔
      address.g0 = base ∧ address.g1 = second := by
  have hrest : groupsNumber address.groups.tail.tail < 65536 ^ 6 := groupsNumber_lt _
  have hnumber : address.toNat = address.g0.toNat * 65536 ^ 7 +
      (address.g1.toNat * 65536 ^ 6 + groupsNumber address.groups.tail.tail) := rfl
  have hbase : (Ipv6.mk base second 0 0 0 0 0 0).toNat =
      base.toNat * 65536 ^ 7 + second.toNat * 65536 ^ 6 := by
    simp [toNat, groups, groupsNumber]
  have hsecond := second.toNat_lt
  have hgroup := address.g1.toNat_lt
  simp only [AddressBlock.Holds, block, hnumber, hbase, ← UInt16.toNat_inj]
  omega

/-- An address that is mapped to nothing is private if it is in a block of its own. -/
theorem isPrivate_iff_of_unmapped (hunmapped : address.mapped? = none) :
    address.isPrivate = true ↔ ∃ range ∈ ownReserved, range.Holds address.toNat := by
  simp only [ownReserved, List.mem_cons, List.not_mem_nil, or_false, or_and_right, exists_or,
    exists_eq_left, holds_block_single, holds_block_second]
  rw [isPrivate, hunmapped]
  split
  next hknown => simp [or_assoc.symm, hknown]
  next hunknown =>
    rw [not_or] at hunknown
    simp only [hunknown, false_or, Bool.or_eq_true, or_assoc]
    repeat' apply or_congr
    · rw [holds_block_first (by decide)]
      exact and_beq_iff 7 9 rfl rfl rfl
    · rw [holds_block_first (by decide)]
      exact and_beq_iff 10 6 rfl rfl rfl
    · rw [holds_block_first (by decide)]
      exact and_beq_iff 8 8 rfl rfl rfl
    · simp

/-- A mapped address is in no block of its own. -/
theorem not_holds_ownReserved {range : AddressBlock} (hrange : range ∈ ownReserved) :
    ¬ range.Holds (0xFFFF * 2 ^ 32 + mapped.toNat) := by
  have hlt := mapped.toNat_lt
  have hapart : ∀ range ∈ ownReserved,
      range.first + range.size ≤ 2 ^ 32 ∨ 2 ^ 48 ≤ range.first := by
    decide
  have hcases := hapart range hrange
  rw [AddressBlock.Holds]
  omega

theorem le_of_mem_reserved {range : AddressBlock} (hrange : range ∈ Ipv4.reserved) :
    range.first + range.size ≤ 2 ^ 32 := by
  revert range
  decide

/-- The mapped forms of the reserved IPv4 addresses are what is mapped to one of them. -/
theorem exists_holds_mappedBlock_iff :
    (∃ range ∈ Ipv4.reserved.map mappedBlock, range.Holds address.toNat) ↔
      ∃ mapped, address.mapped? = some mapped ∧ mapped.isPrivate = true := by
  simp only [List.mem_map, mapped?_eq_some_iff, Ipv4.isPrivate_iff]
  constructor
  · rintro ⟨_, ⟨range, hrange, rfl⟩, hlow, hhigh⟩
    have hbound := le_of_mem_reserved hrange
    dsimp only [mappedBlock] at hlow hhigh
    have hnumber : (Ipv4.ofNat (address.toNat - 0xFFFF * 2 ^ 32)).toNat =
        address.toNat - 0xFFFF * 2 ^ 32 := Ipv4.toNat_ofNat (by omega)
    refine ⟨Ipv4.ofNat (address.toNat - 0xFFFF * 2 ^ 32), ?_, range, hrange, ?_⟩
    · omega
    · rw [AddressBlock.Holds]
      omega
  · rintro ⟨mapped, hnumber, range, hrange, hlow, hhigh⟩
    refine ⟨mappedBlock range, ⟨range, hrange, rfl⟩, ?_⟩
    rw [AddressBlock.Holds, mappedBlock]
    dsimp only
    omega

theorem isPrivate_iff (address : Ipv6) :
    address.isPrivate = true ↔ ∃ range ∈ reserved, range.Holds address.toNat := by
  simp only [reserved, List.mem_append, or_and_right, exists_or]
  rw [exists_holds_mappedBlock_iff]
  cases hmapped : address.mapped? with
  | none => simp [isPrivate_iff_of_unmapped hmapped]
  | some mapped =>
    have hnone : ¬ ∃ range ∈ ownReserved, range.Holds address.toNat := by
      rintro ⟨range, hrange, hholds⟩
      rw [mapped?_eq_some_iff.1 hmapped] at hholds
      exact not_holds_ownReserved hrange hholds
    have hknown : ¬ (address = loopback ∨ address = unspecified) := by
      rintro (rfl | rfl)
      · contradiction
      · contradiction
    rw [isPrivate, if_neg hknown, hmapped]
    simp [hnone]

end Ipv6

namespace Address

/-- Whether an address is in one of the reserved blocks. -/
def IsReserved : Address → Prop
  | ipv4 address => ∃ range ∈ Ipv4.reserved, range.Holds address.toNat
  | ipv6 address => ∃ range ∈ Ipv6.reserved, range.Holds address.toNat

/-- The proxy takes exactly the reserved addresses for private. -/
theorem isPrivate_iff (address : Address) : address.isPrivate = true ↔ address.IsReserved := by
  cases address with
  | ipv4 address => exact address.isPrivate_iff
  | ipv6 address => exact address.isPrivate_iff

end Address

end GadgetGuard
