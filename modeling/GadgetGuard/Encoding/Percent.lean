import GadgetGuard.Text.Ascii
import GadgetGuard.Text.Utf8
/-!
# Percent escapes

A byte that may not stand in some part of a URL is written as `%` and two upper-case
hexadecimal digits. Characters beyond ASCII are always escaped, byte by byte.
-/

namespace GadgetGuard.Encoding

open GadgetGuard.Text

def escapeByte (byte : UInt8) : List Char :=
  ['%', upperHexDigit (byte.toNat / 16), upperHexDigit (byte.toNat % 16)]

/-- Escapes the characters for which `escaped` holds and all beyond ASCII. -/
def percentEncode (escaped : Char → Bool) (text : List Char) : List Char :=
  text.flatMap fun c =>
    if c.toNat < 0x80 && !escaped c then [c]
    else (String.utf8EncodeChar c).flatMap escapeByte

/-- Reads escapes as bytes; a `%` without two digits stands for itself. -/
def percentDecode : Bytes → Bytes
  | 0x25 :: first :: second :: rest =>
    match hexValue? (Char.ofNat first.toNat), hexValue? (Char.ofNat second.toNat) with
    | some high, some low => UInt8.ofNat (high * 16 + low) :: percentDecode rest
    | _, _ => 0x25 :: percentDecode (first :: second :: rest)
  | byte :: rest => byte :: percentDecode rest
  | [] => []
termination_by bytes => bytes.length

def isControlEscaped (c : Char) : Bool :=
  c.toNat < 0x20 || c.toNat == 0x7F

def isFragmentEscaped (c : Char) : Bool :=
  isControlEscaped c || " \"<>`".toList.contains c

def isPathEscaped (c : Char) : Bool :=
  isFragmentEscaped c || "#?\x7b\x7d".toList.contains c

def isCredentialEscaped (c : Char) : Bool :=
  isPathEscaped c || "/:;=@[\\]^|".toList.contains c

def isQueryEscaped (c : Char) : Bool :=
  isControlEscaped c || " \"#<>".toList.contains c

/-- The schemes that every browser knows also escape the apostrophe. -/
def isSpecialQueryEscaped (c : Char) : Bool :=
  isQueryEscaped c || c == '\''

end GadgetGuard.Encoding
