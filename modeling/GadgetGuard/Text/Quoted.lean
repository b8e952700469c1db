import GadgetGuard.Text.Ascii
import GadgetGuard.Text.Blank
/-!
# Quoted characters and strings

Messages and log lines show a character or a string between quotes, with escapes for what
would not be visible.
-/

namespace GadgetGuard.Text

/-- Characters that are written as a code point in braces: controls, blanks other than
the space, format characters and unassigned or private stretches. -/
def isInvisible (c : Char) : Bool :=
  let n := c.toNat
  isControl c || (isBlank c && c != ' ') || n == 0xAD || n == 0x61C || n == 0x180E ||
    (0x200B ≤ n && n ≤ 0x200F) || (0x2028 ≤ n && n ≤ 0x202E) || (0x2060 ≤ n && n ≤ 0x206F) ||
    (0xE000 ≤ n && n ≤ 0xF8FF) || n == 0xFEFF || (0xFFF0 ≤ n && n ≤ 0xFFFB) ||
    n == 0xFFFE || n == 0xFFFF || (0xE0000 ≤ n && n ≤ 0xE00FF) || 0xE01F0 ≤ n

/-- One character as it stands between the given quotes. -/
def escapeCharacter (quote : Char) (c : Char) : String :=
  if c = '\x00' then "\\0"
  else if c = '\t' then "\\t"
  else if c = '\n' then "\\n"
  else if c = '\r' then "\\r"
  else if c = quote || c = '\\' then String.ofList ['\\', c]
  else if isInvisible c then "\\u\x7b" ++ hexText c.toNat ++ "\x7d"
  else c.toString

def quotedCharacter (c : Char) : String :=
  "'" ++ escapeCharacter '\'' c ++ "'"

def quotedString (text : String) : String :=
  "\"" ++ String.join (text.toList.map (escapeCharacter '"')) ++ "\""

end GadgetGuard.Text
