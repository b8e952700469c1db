import GadgetGuard.Http.Header
import GadgetGuard.Log.Event
/-!
# Security header fields

Bodies that are passed on are not trusted, so responses carry header fields that restrict
what a browser does with them. What a response says itself under these names stays.
-/

namespace GadgetGuard

open GadgetGuard.Text

structure SecurityHeaders where
  fields : List (String × Bytes)
  deriving DecidableEq, Repr

namespace SecurityHeaders

def defaultContentPolicy : String := "default-src 'none'; sandbox"

def droppedValue (name : String) : Event :=
  { level := .warn, target := "http", message := "dropping invalid security header value"
    fields := [("header", .text name)] }

/-- Adds a field; an empty value leaves it out, and so does one that cannot be written. -/
def add (headers : SecurityHeaders) (name value : String) : Traced SecurityHeaders :=
  if value.isEmpty then pure headers
  else
    match Header.valueOfText? value with
    | some bytes => pure ⟨headers.fields ++ [(name, bytes)]⟩
    | none => do
      Traced.report (droppedValue name)
      return headers

/-- The fields for a content security policy and, if given, a transport security policy. -/
def of (contentPolicy : String) (transportSecurity : Option String) : Traced SecurityHeaders := do
  let headers ← add ⟨[]⟩ "content-security-policy" contentPolicy
  let headers ← headers.add "x-content-type-options" "nosniff"
  let headers ← headers.add "x-frame-options" "DENY"
  let headers ← headers.add "referrer-policy" "no-referrer"
  match transportSecurity with
  | some value => headers.add "strict-transport-security" value
  | none => return headers

def default : SecurityHeaders :=
  (of defaultContentPolicy none).value

/-- Adds every field whose name the response does not have. -/
def apply (security : SecurityHeaders) (headers : Headers) : Headers :=
  security.fields.foldl (fun headers (name, value) => headers.insertIfNew name value) headers

end SecurityHeaders

end GadgetGuard
