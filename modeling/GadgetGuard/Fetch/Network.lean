import GadgetGuard.Fetch.Body
import GadgetGuard.Http.Message
import GadgetGuard.Text.Cut
/-!
# The network

What a fetch needs of the network: the addresses of a name, and the answer to a request that
is sent to an address. Some names are answered without asking anyone.
-/

namespace GadgetGuard

open GadgetGuard.Text

/-- A response as it comes in. -/
structure Incoming where
  status : Nat
  headers : Headers
  /-- The size of the body, if it is known before the body is read. -/
  declaredSize : Option Nat
  body : BodyStream
  deriving DecidableEq, Repr

/-- The network, which answers the last of the requests made so far. -/
structure Network where
  addresses : String → Except String (List Address)
  send : List ResourceRequest → Address → UInt16 → Except String Incoming

/-- A name without its final dot. -/
def withoutRootDot (name : String) : String :=
  match name.toList.reverse with
  | '.' :: reversed => String.ofList reversed.reverse
  | _ => name

/-- The addresses of the names that always stand for the machine itself. -/
def loopbackAddresses? (name : String) : Option (List Address) :=
  let name := lower (withoutRootDot name)
  if name == "localhost" || hasEnding ".localhost" name then some [.ipv4 ⟨127, 0, 0, 1⟩]
  else none

/-- A network that reaches nothing. -/
def Network.unreachable : Network where
  addresses name :=
    match loopbackAddresses? name with
    | some addresses => .ok addresses
    | none => .error "no answer"
  send _ _ _ := .error "no connection"

end GadgetGuard
