import GadgetGuard.Http.Date
import GadgetGuard.Http.Header
import GadgetGuard.Link.Parameter
import GadgetGuard.Text.Number
import GadgetGuard.Url.Basic
/-!
# Requests for resources and their responses

A resource is asked for by its URL together with the directives that came with the proxy
request, and is answered with a status, header fields and a body.
-/

namespace GadgetGuard

open GadgetGuard.Text

/-- A request for a resource. -/
structure ResourceRequest where
  url : Url
  headers : Headers := Headers.empty
  /-- Image sizes by the name of their parameter, in order of the names. -/
  sizes : List (String × Int) := []
  /-- The media type as which the resource has to be served. -/
  requiredMime : Option String := none
  sanitize : Bool := false
  container : String := Parameter.defaultContainer
  gadget : Option String := none
  deriving DecidableEq, Repr

def ResourceRequest.size? (request : ResourceRequest) (name : String) : Option Int :=
  request.sizes.lookup name

structure Response where
  status : Nat
  headers : Headers := Headers.empty
  body : Bytes := []
  deriving DecidableEq, Repr

namespace Response

/-- Stands for a fetch without a response. -/
def failure : Response := { status := 500 }

def isError (response : Response) : Bool :=
  400 ≤ response.status

def contentType? (response : Response) : Option String :=
  response.headers.text? "content-type"

end Response

namespace Headers

/-- The longest span of time, in milliseconds. -/
def longestSpan : Nat := maxInteger

/-- The span of that many seconds, unless they are too many for a number with a sign or for a
span. -/
def span? (seconds : Nat) : Option Nat :=
  if seconds ≤ maxInteger ∧ seconds ≤ longestSpan / 1000 then some seconds else none

/-- The moment from which something is stale that may be kept for so many seconds: the last one
of all if the seconds cannot be added. -/
def staleAt (now : Moment) (seconds : Nat) : Moment :=
  ((span? seconds).bind now.after?).getD .latest

/-- Replaces all values of a name by a text, unless no value may hold it. -/
def insertText (headers : Headers) (name text : String) : Headers :=
  match Header.valueOfText? text with
  | some value => headers.insert name value
  | none => headers

/-- States how long a response may be kept from some moment on, in seconds. Zero forbids keeping
it. -/
def withLifetimeFrom (headers : Headers) (now : Moment) (seconds : Nat) : Headers :=
  if seconds = 0 then
    ((headers.insert "cache-control" (Header.asciiValue "no-cache")).insert
      "pragma" (Header.asciiValue "no-cache")).insert
      "expires" (Header.asciiValue "Thu, 01 Jan 1970 00:00:00 GMT")
  else
    ((headers.insertText "cache-control" ("public,max-age=" ++ Nat.repr seconds)).insertText
      "expires" (HttpDate.toString (staleAt now seconds).seconds)).erase "pragma"

/-- States how long a response may be kept, from the beginning of a second on. -/
def withLifetime (headers : Headers) (seconds : Nat) (now : Int) : Headers :=
  headers.withLifetimeFrom ⟨now, 0⟩ seconds

end Headers

end GadgetGuard
