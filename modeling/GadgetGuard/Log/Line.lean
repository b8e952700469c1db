import GadgetGuard.Http.Date
import GadgetGuard.Json.Printer
import GadgetGuard.Log.Event
import GadgetGuard.Text.Quoted
/-!
# Log lines

An event is written as plain text or as a JSON object. Plain text shows the level in a
column of its own and every value after its name.
-/

namespace GadgetGuard

open GadgetGuard.Text

namespace FieldValue

def toJson : FieldValue → Json
  | text value | quoted value => .string value
  | number value => .integer value

def plain : FieldValue → String
  | text value => value
  | quoted value => quotedString value
  | number value => Nat.repr value

end FieldValue

/-- A point in time as a log shows it, from the nanoseconds since the beginning of 1970. -/
def logTime (nanoseconds : Nat) : String :=
  let seconds : Nat := nanoseconds / 1000000000
  let date := CivilDate.ofDays (seconds / 86400 : Nat)
  let two := HttpDate.padded 2
  HttpDate.yearText date.year ++ "-" ++ two date.month ++ "-" ++ two date.day ++ "T" ++
    two (seconds / 3600 % 24) ++ ":" ++ two (seconds / 60 % 60) ++ ":" ++ two (seconds % 60) ++
    "." ++ HttpDate.padded 9 (nanoseconds % 1000000000) ++ "Z"

namespace Event

/-- Shows characters by which a terminal could be led astray as their code points. -/
def harmless (c : Char) : String :=
  let n := c.toNat
  if n = 0x07 ∨ n = 0x08 ∨ n = 0x0C ∨ n = 0x1B ∨ n = 0x7F then
    String.ofList ['\\', 'x', lowerHexDigit (n / 16), lowerHexDigit (n % 16)]
  else if 0x80 ≤ n ∧ n < 0xA0 then "\\u\x7b" ++ hexText n ++ "\x7d"
  else c.toString

/-- An event as text, after the time at which it happened. -/
def plain (event : Event) (time : String) : String :=
  let level := String.ofList (List.replicate (5 - event.level.name.length) ' ') ++
    event.level.name
  let message := String.join (event.message.toList.map harmless)
  time ++ " " ++ level ++ " " ++ event.target ++ ": " ++ message ++
    String.join (event.fields.map fun (name, value) => " " ++ name ++ "=" ++ value.plain)

/-- The members of an event as an object, but for its time. -/
def members (event : Event) : List Json.Member :=
  [("level", .string event.level.name),
    ("fields", .object (("message", .string event.message) ::
      event.fields.map fun (name, value) => (name, value.toJson))),
    ("target", .string event.target)]

def json (event : Event) (time : String) : String :=
  (Json.object (("timestamp", .string time) :: event.members)).compact

end Event

end GadgetGuard
