import GadgetGuard.Text.Cut
import GadgetGuard.Url.Parser
/-!
# Targets of the proxy

The proxy fetches from public hosts only. Names that stand for the machine itself or for
the services of a data centre are blocked, and so are addresses that are not public. The
same holds for the addresses that a name turns out to have.
-/

namespace GadgetGuard

open GadgetGuard.Text

inductive Address
  | ipv4 (address : Ipv4)
  | ipv6 (address : Ipv6)
  deriving DecidableEq, Repr

namespace Address

def toString : Address → String
  | ipv4 address => address.toString
  | ipv6 address => address.toString

/-- Reads an address in settings. -/
def parse? (text : String) : Option Address :=
  ((Ipv4.parse? text.toList).map ipv4).or ((Ipv6.parse? text.toList).map ipv6)

end Address

/-- Whether an address is private, local, reserved, for many receivers or for examples. -/
def Ipv4.isPrivate (address : Ipv4) : Bool :=
  let ⟨a, b, c, _⟩ := address
  a == 10 ||
    (a == 172 && 16 ≤ b && b ≤ 31) ||
    (a == 192 && b == 168) ||
    a == 127 ||
    (a == 169 && b == 254) ||
    a == 0 ||
    (a == 100 && 64 ≤ b && b ≤ 127) ||
    (a == 192 && b == 0 && c == 0) ||
    (a == 192 && b == 0 && c == 2) ||
    (a == 198 && b == 51 && c == 100) ||
    (a == 203 && b == 0 && c == 113) ||
    224 ≤ a

/-- As for IPv4 addresses; a mapped address is as private as the one it stands for. -/
def Ipv6.isPrivate (address : Ipv6) : Bool :=
  if address = loopback ∨ address = unspecified then true
  else match address.mapped? with
    | some mapped => mapped.isPrivate
    | none =>
      (address.g0 &&& 0xFE00) == 0xFC00 ||
        (address.g0 &&& 0xFFC0) == 0xFE80 ||
        (address.g0 &&& 0xFF00) == 0xFF00 ||
        (address.g0 == 0x2001 && address.g1 == 0x0DB8)

def Address.isPrivate : Address → Bool
  | ipv4 address => address.isPrivate
  | ipv6 address => address.isPrivate

inductive TargetError
  | invalidUrl (text : String)
  | schemeNotAllowed (scheme : String)
  | blocked (reason : String)
  deriving DecidableEq, Repr

def TargetError.message : TargetError → String
  | invalidUrl text => "invalid URL: " ++ text
  | schemeNotAllowed scheme => "scheme not allowed: " ++ scheme
  | blocked reason => "blocked: " ++ reason

/-- Names of the machine itself. -/
def isLocalName (name : String) : Bool :=
  name == "localhost" || name == "localhost.localdomain" || hasEnding ".localhost" name

/-- Names of the services of a data centre. -/
def isMetadataName (name : String) : Bool :=
  name == "instance-data" || name == "metadata" || name == "metadata.google.internal" ||
    hasEnding ".internal" name

/-- Which targets may be fetched. -/
structure TargetPolicy where
  /-- Skips the checks of hosts, for a proxy that serves a private network. -/
  allowPrivate : Bool := false
  deriving DecidableEq, Repr

namespace TargetPolicy

def checkAddress (address : Address) : Except TargetError Unit :=
  if address.isPrivate then
    .error (.blocked ("private IP address: " ++ address.toString))
  else .ok ()

def checkHost : Host → Except TargetError Unit
  | .domain name =>
    let name := lower name
    if isLocalName name then .error (.blocked ("localhost address: " ++ name))
    else if isMetadataName name then
      .error (.blocked ("cloud metadata endpoint: " ++ name))
    else .ok ()
  | .ipv4 address => checkAddress (.ipv4 address)
  | .ipv6 address => checkAddress (.ipv6 address)

/-- Checks the scheme and the host of a URL. -/
def checkUrl (policy : TargetPolicy) (url : Url) : Except TargetError Unit :=
  if ! ["http", "https"].contains url.scheme then .error (.schemeNotAllowed url.scheme)
  else
    match url.host? with
    | none => .error (.invalidUrl "no host in URL")
    | some host => if policy.allowPrivate then .ok () else checkHost host

/-- Reads a URL and checks it. -/
def check (policy : TargetPolicy) (text : String) : Except TargetError Url :=
  match Url.parse text with
  | .error cause => .error (.invalidUrl (text ++ ": " ++ cause.message))
  | .ok url => do
    policy.checkUrl url
    return url

/-- Checks an address that a name was found to have. -/
def checkResolved (policy : TargetPolicy) (address : Address) (name : String) :
    Except TargetError Unit :=
  if policy.allowPrivate || !address.isPrivate then .ok ()
  else .error (.blocked ("DNS " ++ name ++ " resolved to private IP: " ++ address.toString))

end TargetPolicy

end GadgetGuard
