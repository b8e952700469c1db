import GadgetGuard.Encoding.Percent
import GadgetGuard.Text.Cut
/-!
# Form encoding

Query strings are lists of `name=value` joined by `&`. A blank is written as `+`, and all
but letters, digits and `*-._` is escaped. Reading accepts any text.
-/

namespace GadgetGuard.Encoding

open GadgetGuard.Text

def isFormLiteral (c : Char) : Bool :=
  c.isAlphanum || c == '*' || c == '-' || c == '.' || c == '_'

def formEncode (text : String) : String :=
  String.ofList <| text.toList.flatMap fun c =>
    if isFormLiteral c then [c]
    else if c = ' ' then ['+']
    else (String.utf8EncodeChar c).flatMap escapeByte

/-- Reads one name or value: `+` is a blank, escapes are bytes, and the bytes are UTF-8
with every fault replaced. -/
def formDecode (text : List Char) : String :=
  String.ofList <| decodeUtf8Lossy <| percentDecode <|
    encodeUtf8 (text.map fun c => if c = '+' then ' ' else c)

/-- The pairs of a query string, in order; empty parts are skipped. -/
def formPairs (query : String) : List (String × String) :=
  ((splitAt (· == '&') query.toList).filter (! ·.isEmpty)).map fun part =>
    let (name, value) := cut '=' part
    (formDecode name, formDecode (value.getD []))

end GadgetGuard.Encoding
