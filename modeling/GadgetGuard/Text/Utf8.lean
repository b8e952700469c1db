/-!
# UTF-8

Bytes are read one character at a time. Where no character starts, the longest beginning
of one is a single fault, so a reader that replaces faults writes one replacement
character for each.
-/

namespace GadgetGuard.Text

abbrev Bytes := List UInt8

/-- How many bytes follow the lead byte, the bounds of the first of them, and the bits
that the lead byte contributes. -/
structure LeadByte where
  following : Nat
  low : UInt8
  high : UInt8
  bits : Nat

def LeadByte.of? (byte : UInt8) : Option LeadByte :=
  let n := byte.toNat
  if n < 0xC2 then none
  else if n < 0xE0 then some ⟨1, 0x80, 0xBF, n - 0xC0⟩
  else if n = 0xE0 then some ⟨2, 0xA0, 0xBF, 0⟩
  else if n = 0xED then some ⟨2, 0x80, 0x9F, 0xD⟩
  else if n < 0xF0 then some ⟨2, 0x80, 0xBF, n - 0xE0⟩
  else if n = 0xF0 then some ⟨3, 0x90, 0xBF, 0⟩
  else if n < 0xF4 then some ⟨3, 0x80, 0xBF, n - 0xF0⟩
  else if n = 0xF4 then some ⟨3, 0x80, 0x8F, 4⟩
  else none

/-- Reads the bytes that follow a lead byte and returns the rest of the input; it stops
before the first byte that cannot continue the character. -/
def continuation : Nat → UInt8 → UInt8 → Nat → Bytes → Option Char × Bytes
  | 0, _, _, bits, bytes => (some (Char.ofNat bits), bytes)
  | _ + 1, _, _, _, [] => (none, [])
  | count + 1, low, high, bits, byte :: bytes =>
    if low ≤ byte ∧ byte ≤ high then
      continuation count 0x80 0xBF (bits * 64 + (byte.toNat - 0x80)) bytes
    else (none, byte :: bytes)

theorem continuation_length (count : Nat) (low high : UInt8) (bits : Nat) (bytes : Bytes) :
    (continuation count low high bits bytes).2.length ≤ bytes.length := by
  induction count generalizing low high bits bytes with
  | zero => simp [continuation]
  | succ count ih =>
    cases bytes with
    | nil => simp [continuation]
    | cons byte bytes =>
      rw [continuation]
      split
      · exact Nat.le_succ_of_le (ih _ _ _ _)
      · simp

/-- The character that starts here, or a fault, and the rest of the input. -/
def firstCharacter (lead : UInt8) (bytes : Bytes) : Option Char × Bytes :=
  if lead < 0x80 then (some (Char.ofNat lead.toNat), bytes)
  else match LeadByte.of? lead with
    | none => (none, bytes)
    | some shape => continuation shape.following shape.low shape.high shape.bits bytes

theorem firstCharacter_length (lead : UInt8) (bytes : Bytes) :
    (firstCharacter lead bytes).2.length ≤ bytes.length := by
  unfold firstCharacter
  split
  · simp
  · split
    · simp
    · exact continuation_length _ _ _ _ _

/-- The characters of a byte sequence, with `none` for each fault. -/
def scanUtf8 : Bytes → List (Option Char)
  | [] => []
  | lead :: bytes => (firstCharacter lead bytes).1 :: scanUtf8 (firstCharacter lead bytes).2
termination_by bytes => bytes.length
decreasing_by exact Nat.lt_succ_of_le (firstCharacter_length lead bytes)

/-- The text of a byte sequence without faults. -/
def decodeUtf8? (bytes : Bytes) : Option (List Char) :=
  (scanUtf8 bytes).mapM id

/-- The text of any byte sequence, with U+FFFD for each fault. -/
def decodeUtf8Lossy (bytes : Bytes) : List Char :=
  (scanUtf8 bytes).map (·.getD '\uFFFD')

def encodeUtf8 (text : List Char) : Bytes :=
  text.flatMap String.utf8EncodeChar

end GadgetGuard.Text
