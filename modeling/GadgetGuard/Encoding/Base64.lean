import GadgetGuard.Text.Utf8
/-!
# Base64

Three bytes are written as four characters of six bits each. A group that is not full is
filled up with equals signs.
-/

namespace GadgetGuard.Encoding

open GadgetGuard.Text

def base64Alphabet : List Char :=
  "ABCDEFGHIJKLMNOPQRSTUVWXYZabcdefghijklmnopqrstuvwxyz0123456789+/".toList

/-- The character of a value below sixty-four. -/
def base64Character (value : Nat) : Char :=
  base64Alphabet.getD value '='

/-- The first characters of a group of twenty-four bits. -/
def base64Group (count bits : Nat) : List Char :=
  ([18, 12, 6, 0].take count).map fun shift => base64Character ((bits >>> shift) % 64)

def base64Encode : Bytes → List Char
  | a :: b :: c :: rest =>
    base64Group 4 ((a.toNat * 256 + b.toNat) * 256 + c.toNat) ++ base64Encode rest
  | [a, b] => base64Group 3 ((a.toNat * 256 + b.toNat) * 256) ++ ['=']
  | [a] => base64Group 2 (a.toNat * 65536) ++ ['=', '=']
  | [] => []

end GadgetGuard.Encoding
