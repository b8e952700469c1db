import GadgetGuard.Decimal.Shortest
import GadgetGuard.Json.Basic
import GadgetGuard.Text.Ascii
/-!
# JSON text

Values are written either without any blanks or with one item a line, indented by two blanks
for every level.
-/

namespace GadgetGuard.Json

open GadgetGuard.Text

/-- Controls are escaped, by a letter where there is one. -/
def escapeCharacter (c : Char) : List Char :=
  if c = '"' then ['\\', '"']
  else if c = '\\' then ['\\', '\\']
  else if c = '\n' then ['\\', 'n']
  else if c = '\r' then ['\\', 'r']
  else if c = '\t' then ['\\', 't']
  else if c = '\x08' then ['\\', 'b']
  else if c = '\x0c' then ['\\', 'f']
  else if c.toNat < 0x20 then
    ['\\', 'u', '0', '0', lowerHexDigit (c.toNat / 16), lowerHexDigit (c.toNat % 16)]
  else [c]

def stringText (text : String) : String :=
  String.ofList ('"' :: text.toList.flatMap escapeCharacter ++ ['"'])

/-- The text of a value that holds no others. -/
def scalarText : Json → String
  | null => "null"
  | boolean true => "true"
  | boolean false => "false"
  | integer value => s!"{value}"
  | real value => value.toString
  | string value => stringText value
  | array _ | object _ => ""

mutual

def compact : Json → String
  | array items => "[" ++ ",".intercalate (compactItems items) ++ "]"
  | object members => "\x7b" ++ ",".intercalate (compactMembers members) ++ "\x7d"
  | scalar => scalarText scalar

def compactItems : List Json → List String
  | [] => []
  | item :: items => compact item :: compactItems items

def compactMembers : List Member → List String
  | [] => []
  | (name, value) :: members => (stringText name ++ ":" ++ compact value) :: compactMembers members

end

def indentation (level : Nat) : String :=
  String.ofList (List.replicate (2 * level) ' ')

/-- Puts lines between brackets, each at the given level. -/
def block (opening closing : String) (level : Nat) (lines : List String) : String :=
  if lines.isEmpty then opening ++ closing
  else
    let lineStart := "\n" ++ indentation (level + 1)
    opening ++ lineStart ++ ("," ++ lineStart).intercalate lines ++ "\n" ++ indentation level ++
      closing

mutual

def prettyAt (level : Nat) : Json → String
  | array items => block "[" "]" level (prettyItems (level + 1) items)
  | object members => block "\x7b" "\x7d" level (prettyMembers (level + 1) members)
  | scalar => scalarText scalar

def prettyItems (level : Nat) : List Json → List String
  | [] => []
  | item :: items => prettyAt level item :: prettyItems level items

def prettyMembers (level : Nat) : List Member → List String
  | [] => []
  | (name, value) :: members =>
    (stringText name ++ ": " ++ prettyAt level value) :: prettyMembers level members

end

def pretty (value : Json) : String :=
  prettyAt 0 value

end GadgetGuard.Json
