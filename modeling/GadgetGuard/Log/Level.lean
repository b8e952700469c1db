import GadgetGuard.Text.Ascii
import GadgetGuard.Text.Number
/-!
# Levels

How severe an event is. Levels are written by name in any letter case, or as numbers from
one for the most severe level on.
-/

namespace GadgetGuard

open GadgetGuard.Text

inductive Level
  | trace
  | debug
  | info
  | warn
  | error
  deriving DecidableEq, Repr

namespace Level

/-- How severe a level is; the more severe levels pass more filters. -/
def severity : Level → Nat
  | trace => 0
  | debug => 1
  | info => 2
  | warn => 3
  | error => 4

def name : Level → String
  | trace => "TRACE"
  | debug => "DEBUG"
  | info => "INFO"
  | warn => "WARN"
  | error => "ERROR"

/-- All levels, from the most severe one down. -/
def all : List Level :=
  [error, warn, info, debug, trace]

/-- Reads a level. -/
def ofText? (text : String) : Option Level :=
  match natural? maxNatural text.toList with
  | some 0 => none
  | some (index + 1) => all[index]?
  | none => all.find? fun level => equalIgnoringCase level.name text

end Level

end GadgetGuard
