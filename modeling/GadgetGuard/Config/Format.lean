import GadgetGuard.Decimal.Shortest
import GadgetGuard.Json.Basic
import GadgetGuard.Text.Quoted
/-!
# Typed values in a configuration

A format says how a typed value is written as JSON and which JSON is read as one. A section
is a record of fields. It is read from an object, where missing fields keep their initial
values and unknown names are ignored, or from a list of its fields in order.
-/

namespace GadgetGuard.Config

open GadgetGuard.Text

/-- Why a value does not fit. -/
inductive FormatError
  | wrongType (found : Json) (expected : String)
  | outOfRange (value : Int) (expected : String)
  | tooManyItems (count : Nat)
  | unknownChoice (name : String) (choices : List String)
  | notOneMember
  deriving DecidableEq, Repr

/-- A value as messages name it. -/
def describe : Json → String
  | .null => "null"
  | .boolean value => s!"boolean `{value}`"
  | .integer value => s!"integer `{value}`"
  | .real value => "floating point `" ++ value.toString ++ "`"
  | .string value => "string " ++ quotedString value
  | .array _ => "sequence"
  | .object _ => "map"

def FormatError.message : FormatError → String
  | wrongType found expected => "invalid type: " ++ describe found ++ ", expected " ++ expected
  | outOfRange value expected =>
    "invalid value: " ++ describe (.integer value) ++ ", expected " ++ expected
  | tooManyItems count =>
    "invalid length " ++ Nat.repr count ++ ", expected fewer elements in array"
  | unknownChoice name choices =>
    "unknown variant `" ++ name ++ "`, expected " ++
      " or ".intercalate (choices.map fun choice => "`" ++ choice ++ "`")
  | notOneMember => "invalid value: map, expected map with a single key"

structure Format (α : Type) where
  read : Json → Except FormatError α
  write : α → Json

namespace Format

def text : Format String where
  read
    | .string value => .ok value
    | found => .error (.wrongType found "a string")
  write := .string

def flag : Format Bool where
  read
    | .boolean value => .ok value
    | found => .error (.wrongType found "a boolean")
  write := .boolean

/-- Reads a whole number from zero up to a limit. -/
def readNatural (limit : Nat) (name : String) : Json → Except FormatError Nat
  | .integer value =>
    if 0 ≤ value ∧ value ≤ limit then .ok value.toNat else .error (.outOfRange value name)
  | found => .error (.wrongType found name)

def word16 : Format UInt16 where
  read value := (readNatural (UInt16.size - 1) "u16" value).map UInt16.ofNat
  write value := .integer value.toNat

def word64 : Format UInt64 where
  read value := (readNatural (UInt64.size - 1) "u64" value).map UInt64.ofNat
  write value := .integer value.toNat

def listOf {α : Type} (item : Format α) : Format (List α) where
  read
    | .array items => items.mapM item.read
    | found => .error (.wrongType found "a sequence")
  write values := .array (values.map item.write)

/-- One of several names. It may also be written as an object with that name as its only
member and no value. -/
def choice {α : Type} (choices : List (String × α)) (nameOf : α → String) : Format α where
  read value :=
    let find (name : String) : Except FormatError α :=
      match choices.lookup name with
      | some chosen => .ok chosen
      | none => .error (.unknownChoice name (choices.map (·.1)))
    match value with
    | .string name => find name
    | .object [(name, content)] => do
      let chosen ← find name
      match content with
      | .null => return chosen
      | found => throw (.wrongType found "unit")
    | .object _ => .error .notOneMember
    | found => .error (.wrongType found "string or map")
  write value := .string (nameOf value)

end Format

/-- A field of a record: its name, how a value sets it, and how it is written. -/
structure Field (ρ : Type) where
  name : String
  update : Json → ρ → Except FormatError ρ
  write : ρ → Option Json

namespace Field

variable {ρ α : Type}

def required (name : String) (format : Format α) (get : ρ → α) (set : α → ρ → ρ) : Field ρ where
  name
  update value record := do return set (← format.read value) record
  write record := some (format.write (get record))

/-- A field that is left out where it has no value. -/
def optional (name : String) (format : Format α) (get : ρ → Option α)
    (set : Option α → ρ → ρ) : Field ρ where
  name
  update
    | .null, record => .ok (set none record)
    | value, record => do return set (some (← format.read value)) record
  write record := (get record).map format.write

end Field

/-- How a record is kept in a configuration. -/
structure Record (ρ : Type) where
  name : String
  fields : List (Field ρ)
  initial : ρ

namespace Record

variable {ρ : Type}

def field? (record : Record ρ) (name : String) : Option (Field ρ) :=
  record.fields.find? (·.name == name)

/-- Sets the field of that name, if there is one. -/
def setMember (record : Record ρ) (current : ρ) (m : Json.Member) : Except FormatError ρ :=
  match record.field? m.1 with
  | some field => field.update m.2 current
  | none => .ok current

def read (record : Record ρ) : Json → Except FormatError ρ
  | .object members => members.foldlM record.setMember record.initial
  | .array items => do
    let result ← (record.fields.zip items).foldlM
      (fun current (field, item) => field.update item current) record.initial
    if items.length ≤ record.fields.length then return result
    else throw (.tooManyItems items.length)
  | found => .error (.wrongType found ("struct " ++ record.name))

def write (record : Record ρ) (value : ρ) : Json :=
  .ofMembers (record.fields.filterMap fun field =>
    (field.write value).map fun content => (field.name, content))

def format (record : Record ρ) : Format ρ where
  read := record.read
  write := record.write

end Record

end GadgetGuard.Config
