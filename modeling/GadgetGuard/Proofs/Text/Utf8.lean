import Mathlib
import GadgetGuard.Text.Utf8
/-!
# Reading back what was written as UTF-8

A character is read exactly where its bytes stand, so the texts that can be read without a fault
are the ones that were written, and reading gives them back.
-/

namespace GadgetGuard.Text

variable {lead : UInt8} {bytes rest : Bytes} {c : Char} {text : List Char}

/-! ## Writing one character -/

theorem utf8EncodeChar_one (h : c.toNat < 0x80) :
    String.utf8EncodeChar c = [UInt8.ofNat c.toNat] :=
  if_pos (Nat.le_of_lt_succ h)

theorem utf8EncodeChar_two (hlow : 0x80 ≤ c.toNat) (hhigh : c.toNat < 0x800) :
    String.utf8EncodeChar c =
      [UInt8.ofNat (c.toNat / 64 + 0xC0), UInt8.ofNat (c.toNat % 64 + 0x80)] := by
  have hsmall : c.toNat / 64 % 32 = c.toNat / 64 := by omega
  rw [← hsmall]
  exact (if_neg (Nat.not_le_of_gt hlow)).trans (if_pos (Nat.le_of_lt_succ hhigh))

theorem utf8EncodeChar_three (hlow : 0x800 ≤ c.toNat) (hhigh : c.toNat < 0x10000) :
    String.utf8EncodeChar c =
      [UInt8.ofNat (c.toNat / 4096 + 0xE0), UInt8.ofNat (c.toNat / 64 % 64 + 0x80),
        UInt8.ofNat (c.toNat % 64 + 0x80)] := by
  have hsmall : c.toNat / 4096 % 16 = c.toNat / 4096 := by omega
  have hone : ¬ c.toNat ≤ 127 := by omega
  rw [← hsmall]
  exact (if_neg hone).trans ((if_neg (Nat.not_le_of_gt hlow)).trans
    (if_pos (Nat.le_of_lt_succ hhigh)))

theorem utf8EncodeChar_four (hlow : 0x10000 ≤ c.toNat) :
    String.utf8EncodeChar c =
      [UInt8.ofNat (c.toNat / 262144 + 0xF0), UInt8.ofNat (c.toNat / 4096 % 64 + 0x80),
        UInt8.ofNat (c.toNat / 64 % 64 + 0x80), UInt8.ofNat (c.toNat % 64 + 0x80)] := by
  have hvalid : c.toNat.isValidChar := c.valid
  have hsmall : c.toNat / 262144 % 8 = c.toNat / 262144 := by omega
  have hone : ¬ c.toNat ≤ 127 := by omega
  have htwo : ¬ c.toNat ≤ 2047 := by omega
  rw [← hsmall]
  exact (if_neg hone).trans ((if_neg htwo).trans (if_neg (Nat.not_le_of_gt hlow)))

/-- Whether a byte continues a character. -/
def IsTail (byte : UInt8) : Prop :=
  0x80 ≤ byte.toNat ∧ byte.toNat ≤ 0xBF

/-- What the bytes of a character spell is what they were written for. -/
theorem utf8EncodeChar_ofNat_two {first : UInt8} {n : Nat} (hfirst : IsTail first)
    (hn : n = (lead.toNat - 0xC0) * 64 + (first.toNat - 0x80)) (hlead : 0xC0 ≤ lead.toNat)
    (hlow : 0x80 ≤ n) (hhigh : n < 0x800) :
    String.utf8EncodeChar (Char.ofNat n) = [lead, first] := by
  have hnumber : (Char.ofNat n).toNat = n :=
    (Char.toNat_ofNat n).trans (if_pos (.inl (by omega)))
  obtain ⟨_, _⟩ := hfirst
  rw [utf8EncodeChar_two (hlow.trans_eq hnumber.symm) (hnumber.trans_lt hhigh), hnumber]
  simp only [List.cons.injEq, ← UInt8.toNat_inj, UInt8.toNat_ofNat', and_true]
  omega

theorem utf8EncodeChar_ofNat_three {first second : UInt8} {n : Nat} (hfirst : IsTail first)
    (hsecond : IsTail second)
    (hn : n = ((lead.toNat - 0xE0) * 64 + (first.toNat - 0x80)) * 64 + (second.toNat - 0x80))
    (hlead : 0xE0 ≤ lead.toNat) (hvalid : n.isValidChar) (hlow : 0x800 ≤ n)
    (hhigh : n < 0x10000) :
    String.utf8EncodeChar (Char.ofNat n) = [lead, first, second] := by
  have hnumber : (Char.ofNat n).toNat = n := (Char.toNat_ofNat n).trans (if_pos hvalid)
  obtain ⟨_, _⟩ := hfirst
  obtain ⟨_, _⟩ := hsecond
  rw [utf8EncodeChar_three (hlow.trans_eq hnumber.symm) (hnumber.trans_lt hhigh), hnumber]
  simp only [List.cons.injEq, ← UInt8.toNat_inj, UInt8.toNat_ofNat', and_true]
  omega

theorem utf8EncodeChar_ofNat_four {first second third : UInt8} {n : Nat} (hfirst : IsTail first)
    (hsecond : IsTail second) (hthird : IsTail third)
    (hn : n = (((lead.toNat - 0xF0) * 64 + (first.toNat - 0x80)) * 64 +
      (second.toNat - 0x80)) * 64 + (third.toNat - 0x80))
    (hlead : 0xF0 ≤ lead.toNat) (hlow : 0x10000 ≤ n) (hhigh : n < 0x110000) :
    String.utf8EncodeChar (Char.ofNat n) = [lead, first, second, third] := by
  have hnumber : (Char.ofNat n).toNat = n :=
    (Char.toNat_ofNat n).trans (if_pos (.inr ⟨by omega, hhigh⟩))
  obtain ⟨_, _⟩ := hfirst
  obtain ⟨_, _⟩ := hsecond
  obtain ⟨_, _⟩ := hthird
  rw [utf8EncodeChar_four (hlow.trans_eq hnumber.symm), hnumber]
  simp only [List.cons.injEq, ← UInt8.toNat_inj, UInt8.toNat_ofNat', and_true]
  omega

/-- Characters beyond ASCII are written without any ASCII byte. -/
theorem le_toNat_of_mem_utf8EncodeChar (hc : 0x80 ≤ c.toNat) :
    ∀ byte ∈ String.utf8EncodeChar c, 0x80 ≤ byte.toNat := by
  have hvalid : c.toNat.isValidChar := c.valid
  rcases Nat.lt_or_ge c.toNat 0x800 with htwo | htwo
  · rw [utf8EncodeChar_two hc htwo]
    simp only [List.forall_mem_cons, UInt8.toNat_ofNat', List.not_mem_nil, false_implies,
      implies_true, and_true]
    omega
  rcases Nat.lt_or_ge c.toNat 0x10000 with hthree | hthree
  · rw [utf8EncodeChar_three htwo hthree]
    simp only [List.forall_mem_cons, UInt8.toNat_ofNat', List.not_mem_nil, false_implies,
      implies_true, and_true]
    omega
  · rw [utf8EncodeChar_four hthree]
    simp only [List.forall_mem_cons, UInt8.toNat_ofNat', List.not_mem_nil, false_implies,
      implies_true, and_true]
    omega

/-! ## Reading one character -/

theorem continuation_zero_eq_some_iff {bits : Nat} {low high : UInt8} :
    continuation 0 low high bits bytes = (some c, rest) ↔ Char.ofNat bits = c ∧ bytes = rest := by
  rw [continuation, Prod.mk.injEq, Option.some.injEq]

theorem continuation_succ_eq_some_iff {count bits : Nat} {low high : UInt8} :
    continuation (count + 1) low high bits bytes = (some c, rest) ↔
      ∃ byte tail, bytes = byte :: tail ∧ low.toNat ≤ byte.toNat ∧ byte.toNat ≤ high.toNat ∧
        continuation count 0x80 0xBF (bits * 64 + (byte.toNat - 0x80)) tail = (some c, rest) := by
  cases bytes with
  | nil => simp [continuation]
  | cons byte tail =>
    rw [continuation]
    simp only [UInt8.le_iff_toNat_le, List.cons.injEq]
    constructor
    · intro hread
      split at hread
      next hrange => exact ⟨byte, tail, ⟨rfl, rfl⟩, hrange.1, hrange.2, hread⟩
      · simp at hread
    · rintro ⟨_, _, ⟨rfl, rfl⟩, hlow, hhigh, hread⟩
      rw [if_pos ⟨hlow, hhigh⟩]
      exact hread

/-- The shapes of the characters that are written with more than one byte. -/
theorem LeadByte.of?_eq_some_iff {shape : LeadByte} :
    LeadByte.of? lead = some shape ↔
      (shape.following = 1 ∧ 0xC2 ≤ lead.toNat ∧ lead.toNat < 0xE0 ∧ shape.low = 0x80 ∧
        shape.high = 0xBF ∧ shape.bits = lead.toNat - 0xC0) ∨
      (shape.following = 2 ∧ 0xE0 ≤ lead.toNat ∧ lead.toNat < 0xF0 ∧
        shape.low = (if lead.toNat = 0xE0 then 0xA0 else 0x80) ∧
        shape.high = (if lead.toNat = 0xED then 0x9F else 0xBF) ∧
        shape.bits = lead.toNat - 0xE0) ∨
      (shape.following = 3 ∧ 0xF0 ≤ lead.toNat ∧ lead.toNat < 0xF5 ∧
        shape.low = (if lead.toNat = 0xF0 then 0x90 else 0x80) ∧
        shape.high = (if lead.toNat = 0xF4 then 0x8F else 0xBF) ∧
        shape.bits = lead.toNat - 0xF0) := by
  obtain ⟨following, low, high, bits⟩ := shape
  unfold LeadByte.of?
  dsimp only
  grind

/-- A character is read only where its bytes stand. -/
theorem eq_append_of_firstCharacter (hread : firstCharacter lead bytes = (some c, rest)) :
    lead :: bytes = String.utf8EncodeChar c ++ rest := by
  unfold firstCharacter at hread
  split at hread
  next hascii =>
    rw [UInt8.lt_iff_toNat_lt] at hascii
    obtain ⟨hc, rfl⟩ := Prod.ext_iff.1 hread
    have hnumber : c.toNat = lead.toNat := by
      rw [← Option.some.inj hc, Char.toNat_ofNat]
      exact if_pos (.inl (Nat.lt_trans hascii (by decide)))
    rw [utf8EncodeChar_one (hnumber.trans_lt hascii), hnumber, UInt8.ofNat_toNat]
    rfl
  next =>
    split at hread
    · simp at hread
    next shape hshape =>
      obtain ⟨following, low, high, bits⟩ := shape
      rcases LeadByte.of?_eq_some_iff.1 hshape with ⟨hcount, hlead⟩ | ⟨hcount, hlead⟩ |
          ⟨hcount, hlead⟩
      all_goals
        dsimp only at hread hcount hlead
        obtain ⟨hmin, hmax, hlow, hhigh, hbits⟩ := hlead
        rw [hcount, hlow, hhigh, hbits] at hread
        simp only [continuation_succ_eq_some_iff, continuation_zero_eq_some_iff,
          apply_ite UInt8.toNat, UInt8.reduceToNat] at hread
      · obtain ⟨first, _, rfl, hlow, hhigh, rfl, rfl⟩ := hread
        have hfirst : IsTail first := by constructor <;> omega
        rw [utf8EncodeChar_ofNat_two hfirst rfl (by omega) (by omega) (by omega)]
        rfl
      · obtain ⟨first, _, rfl, hlow, hhigh, second, _, rfl, hlow', hhigh', rfl, rfl⟩ := hread
        have hmin' : 0x80 ≤ first.toNat ∧ (lead.toNat = 0xE0 → 0xA0 ≤ first.toNat) := by
          split at hlow <;> omega
        have hmax' : first.toNat ≤ 0xBF ∧ (lead.toNat = 0xED → first.toNat ≤ 0x9F) := by
          split at hhigh <;> omega
        have hfirst : IsTail first := ⟨hmin'.1, hmax'.1⟩
        have hsecond : IsTail second := by constructor <;> omega
        rw [utf8EncodeChar_ofNat_three hfirst hsecond rfl hmin (by omega) (by omega) (by omega)]
        rfl
      · obtain ⟨first, _, rfl, hlow, hhigh, second, _, rfl, hlow', hhigh', third, _, rfl, hlow'',
          hhigh'', rfl, rfl⟩ := hread
        have hmin' : 0x80 ≤ first.toNat ∧ (lead.toNat = 0xF0 → 0x90 ≤ first.toNat) := by
          split at hlow <;> omega
        have hmax' : first.toNat ≤ 0xBF ∧ (lead.toNat = 0xF4 → first.toNat ≤ 0x8F) := by
          split at hhigh <;> omega
        have hfirst : IsTail first := ⟨hmin'.1, hmax'.1⟩
        have hsecond : IsTail second := by constructor <;> omega
        have hthird : IsTail third := by constructor <;> omega
        rw [utf8EncodeChar_ofNat_four hfirst hsecond hthird rfl hmin (by omega) (by omega)]
        rfl

theorem firstCharacter_of_leadByte {shape : LeadByte} (hlead : 0x80 ≤ lead.toNat)
    (hshape : LeadByte.of? lead = some shape) :
    firstCharacter lead bytes =
      continuation shape.following shape.low shape.high shape.bits bytes := by
  have hascii : ¬ lead < 0x80 := by
    rw [UInt8.lt_iff_toNat_lt]
    exact Nat.not_lt_of_ge hlead
  rw [firstCharacter, if_neg hascii, hshape]

/-- A byte that holds the low bits of a number adds them to the higher ones. -/
theorem continuation_of_bits {count bits n : Nat} {low high : UInt8}
    (hlow : low.toNat ≤ n % 64 + 0x80) (hhigh : n % 64 + 0x80 ≤ high.toNat)
    (hbits : bits = n / 64) :
    continuation (count + 1) low high bits (UInt8.ofNat (n % 64 + 0x80) :: bytes) =
      continuation count 0x80 0xBF n bytes := by
  have hbyte : (UInt8.ofNat (n % 64 + 0x80)).toNat = n % 64 + 0x80 := by
    rw [UInt8.toNat_ofNat']
    omega
  have hrange : low ≤ UInt8.ofNat (n % 64 + 0x80) ∧ UInt8.ofNat (n % 64 + 0x80) ≤ high := by
    rw [UInt8.le_iff_toNat_le, UInt8.le_iff_toNat_le, hbyte]
    exact ⟨hlow, hhigh⟩
  have hnumber : bits * 64 + (n % 64 + 0x80 - 0x80) = n := by omega
  rw [continuation, if_pos hrange, hbyte, hnumber]

/-- Bytes after the first are read as soon as they are in the range that every character has. -/
theorem continuation_of_tail {count bits n : Nat} (hbits : bits = n / 64) :
    continuation (count + 1) 0x80 0xBF bits (UInt8.ofNat (n % 64 + 0x80) :: bytes) =
      continuation count 0x80 0xBF n bytes :=
  continuation_of_bits (Nat.le_add_left _ _)
    (Nat.add_le_add_right (Nat.le_of_lt_succ (Nat.mod_lt n (by decide))) 0x80) hbits

/-- A character is read wherever its bytes stand. -/
theorem firstCharacter_of_eq_append (hbytes : lead :: bytes = String.utf8EncodeChar c ++ rest) :
    firstCharacter lead bytes = (some c, rest) := by
  have hvalid : c.toNat.isValidChar := c.valid
  have hend : ∀ {low high}, continuation 0 low high c.toNat rest = (some c, rest) :=
    continuation_zero_eq_some_iff.2 ⟨Char.ofNat_toNat c, rfl⟩
  rcases Nat.lt_or_ge c.toNat 0x80 with hone | hone
  · rw [utf8EncodeChar_one hone] at hbytes
    obtain ⟨rfl, rfl⟩ := List.cons_eq_cons.1 hbytes
    have hnumber : (UInt8.ofNat c.toNat).toNat = c.toNat :=
      UInt8.toNat_ofNat_of_lt' (hone.trans (by decide))
    have hascii : UInt8.ofNat c.toNat < 0x80 := by
      rw [UInt8.lt_iff_toNat_lt, hnumber]
      exact hone
    rw [firstCharacter, if_pos hascii, hnumber, Char.ofNat_toNat]
  rcases Nat.lt_or_ge c.toNat 0x800 with htwo | htwo
  · rw [utf8EncodeChar_two hone htwo, List.cons_append] at hbytes
    obtain ⟨hfirst, rfl⟩ := List.cons_eq_cons.1 hbytes
    have hlead : lead.toNat = c.toNat / 64 + 0xC0 := by
      rw [hfirst, UInt8.toNat_ofNat']
      omega
    have hshape : LeadByte.of? lead = some ⟨1, 0x80, 0xBF, lead.toNat - 0xC0⟩ :=
      LeadByte.of?_eq_some_iff.2 (.inl ⟨rfl, by omega, by omega, rfl, rfl, rfl⟩)
    rw [firstCharacter_of_leadByte (by omega) hshape]
    dsimp only
    exact (continuation_of_tail (by omega)).trans hend
  rcases Nat.lt_or_ge c.toNat 0x10000 with hthree | hthree
  · rw [utf8EncodeChar_three htwo hthree, List.cons_append] at hbytes
    obtain ⟨hfirst, rfl⟩ := List.cons_eq_cons.1 hbytes
    have hlead : lead.toNat = c.toNat / 4096 + 0xE0 := by
      rw [hfirst, UInt8.toNat_ofNat']
      omega
    have hshape : LeadByte.of? lead = some ⟨2, if lead.toNat = 0xE0 then 0xA0 else 0x80,
        if lead.toNat = 0xED then 0x9F else 0xBF, lead.toNat - 0xE0⟩ :=
      LeadByte.of?_eq_some_iff.2 (.inr (.inl ⟨rfl, by omega, by omega, rfl, rfl, rfl⟩))
    rw [firstCharacter_of_leadByte (by omega) hshape]
    dsimp only
    refine (continuation_of_bits ?_ ?_ (by omega)).trans
      ((continuation_of_tail (by omega)).trans hend)
    · split <;> (simp only [UInt8.reduceToNat]; omega)
    · split <;> (simp only [UInt8.reduceToNat]; omega)
  · rw [utf8EncodeChar_four hthree, List.cons_append] at hbytes
    obtain ⟨hfirst, rfl⟩ := List.cons_eq_cons.1 hbytes
    have hlead : lead.toNat = c.toNat / 262144 + 0xF0 := by
      rw [hfirst, UInt8.toNat_ofNat']
      omega
    have hshape : LeadByte.of? lead = some ⟨3, if lead.toNat = 0xF0 then 0x90 else 0x80,
        if lead.toNat = 0xF4 then 0x8F else 0xBF, lead.toNat - 0xF0⟩ :=
      LeadByte.of?_eq_some_iff.2 (.inr (.inr ⟨rfl, by omega, by omega, rfl, rfl, rfl⟩))
    rw [firstCharacter_of_leadByte (by omega) hshape]
    dsimp only
    refine (continuation_of_bits ?_ ?_ (by omega)).trans ((continuation_of_tail (by omega)).trans
      ((continuation_of_tail (by omega)).trans hend))
    · split <;> (simp only [UInt8.reduceToNat]; omega)
    · split <;> (simp only [UInt8.reduceToNat]; omega)

/-! ## Reading a text -/

theorem scanUtf8_append (c : Char) (rest : Bytes) :
    scanUtf8 (String.utf8EncodeChar c ++ rest) = some c :: scanUtf8 rest := by
  generalize hbytes : String.utf8EncodeChar c ++ rest = bytes
  cases bytes with
  | nil =>
    rw [List.append_eq_nil_iff] at hbytes
    exact absurd hbytes.1 String.utf8EncodeChar_ne_nil
  | cons lead bytes => rw [scanUtf8, firstCharacter_of_eq_append hbytes.symm]

theorem scanUtf8_encodeUtf8 (text : List Char) : scanUtf8 (encodeUtf8 text) = text.map some := by
  induction text with
  | nil => rw [encodeUtf8, List.flatMap_nil, scanUtf8, List.map_nil]
  | cons c text ih =>
    rw [encodeUtf8, List.flatMap_cons, scanUtf8_append, List.map_cons]
    exact congrArg (some c :: ·) ih

theorem eq_encodeUtf8_of_scanUtf8 (hscan : scanUtf8 bytes = text.map some) :
    bytes = encodeUtf8 text := by
  induction text generalizing bytes with
  | nil =>
    cases bytes with
    | nil => rfl
    | cons lead bytes => simp [scanUtf8] at hscan
  | cons c text ih =>
    cases bytes with
    | nil => simp [scanUtf8] at hscan
    | cons lead bytes =>
      rw [scanUtf8, List.map_cons, List.cons.injEq] at hscan
      calc lead :: bytes
        _ = String.utf8EncodeChar c ++ (firstCharacter lead bytes).2 :=
          eq_append_of_firstCharacter (Prod.ext hscan.1 rfl)
        _ = encodeUtf8 (c :: text) := congrArg _ (ih hscan.2)

theorem decodeUtf8Lossy_encodeUtf8 (text : List Char) :
    decodeUtf8Lossy (encodeUtf8 text) = text := by
  rw [decodeUtf8Lossy, scanUtf8_encodeUtf8, List.map_map]
  exact List.map_id text

theorem mapM_id_eq_some_iff {found : List (Option Char)} :
    found.mapM id = some text ↔ found = text.map some := by
  induction found generalizing text with
  | nil => cases text <;> simp
  | cons first found ih =>
    rw [List.mapM_cons]
    cases first with
    | none => cases text <;> simp
    | some c =>
      cases hfound : found.mapM id with
      | none =>
        have hnone : ∀ rest : List Char, found ≠ rest.map some := by
          intro rest hrest
          rw [ih.2 hrest] at hfound
          contradiction
        cases text <;> simp [hnone]
      | some rest =>
        obtain rfl := ih.1 hfound
        cases text <;> simp [List.map_inj_right]

/-- A text is read without a fault exactly where its bytes stand. -/
theorem decodeUtf8?_eq_some_iff : decodeUtf8? bytes = some text ↔ bytes = encodeUtf8 text := by
  rw [decodeUtf8?, mapM_id_eq_some_iff]
  exact ⟨eq_encodeUtf8_of_scanUtf8, fun hbytes => hbytes ▸ scanUtf8_encodeUtf8 text⟩

end GadgetGuard.Text
