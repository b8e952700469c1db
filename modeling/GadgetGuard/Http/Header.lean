import GadgetGuard.Text.Ascii
import GadgetGuard.Text.Utf8
/-!
# Header fields

The header of a message is a list of names and values. Names are kept in lower case and may
repeat; the values of one name keep their order.
-/

namespace GadgetGuard

open GadgetGuard.Text

namespace Header

def isNameCharacter (c : Char) : Bool :=
  c.isAlphanum || "!#$%&'*+-.^_`|~".toList.contains c

/-- Reads the name of a header field, in lower case. -/
def name? (text : String) : Option String :=
  let length := text.utf8ByteSize
  if length = 0 ∨ 65535 < length then none
  else if text.toList.all isNameCharacter then some (lower text)
  else none

/-- Bytes that a value may hold: all but controls, and the tab. -/
def isValueByte (byte : UInt8) : Bool :=
  (0x20 ≤ byte && byte != 0x7F) || byte == 0x09

def value? (bytes : Bytes) : Option Bytes :=
  if bytes.all isValueByte then some bytes else none

/-- Reads the value of a header field from text. -/
def valueOfText? (text : String) : Option Bytes :=
  value? (encodeUtf8 text.toList)

/-- The text of a value that holds no byte beyond ASCII. -/
def valueText? (value : Bytes) : Option String :=
  if value.all (fun byte => (0x20 ≤ byte && byte < 0x7F) || byte == 0x09) then
    some (String.ofList (value.map fun byte => Char.ofNat byte.toNat))
  else none

/-- The value that some ASCII text spells. -/
def asciiValue (text : String) : Bytes :=
  encodeUtf8 text.toList

end Header

/-- Header fields in order, with their names in lower case. -/
structure Headers where
  fields : List (String × Bytes)
  deriving DecidableEq, Repr

namespace Headers

def empty : Headers := ⟨[]⟩

def getAll (headers : Headers) (name : String) : List Bytes :=
  (headers.fields.filter (·.1 == name)).map (·.2)

def get? (headers : Headers) (name : String) : Option Bytes :=
  headers.fields.lookup name

def contains (headers : Headers) (name : String) : Bool :=
  headers.fields.any (·.1 == name)

def append (headers : Headers) (name : String) (value : Bytes) : Headers :=
  ⟨headers.fields ++ [(name, value)]⟩

def erase (headers : Headers) (name : String) : Headers :=
  ⟨headers.fields.filter (·.1 != name)⟩

/-- Replaces all values of a name by one. -/
def insert (headers : Headers) (name : String) (value : Bytes) : Headers :=
  (headers.erase name).append name value

/-- Adds a value unless the name already has one. -/
def insertIfNew (headers : Headers) (name : String) (value : Bytes) : Headers :=
  if headers.contains name then headers else headers.append name value

/-- The text of the first value of a name, if it is ASCII. -/
def text? (headers : Headers) (name : String) : Option String :=
  (headers.get? name).bind Header.valueText?

end Headers

end GadgetGuard
