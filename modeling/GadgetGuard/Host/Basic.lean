import GadgetGuard.Encoding.Percent
import GadgetGuard.Host.Domain
import GadgetGuard.Host.Ipv6
/-!
# Hosts

The host of a URL is a domain name or an address. In the schemes that every browser knows
a name is folded to the form in which it is looked up, and a name that ends in a number is
an IPv4 address; in all others the name is kept as written.
-/

namespace GadgetGuard

open GadgetGuard.Text GadgetGuard.Encoding

inductive Host
  | domain (name : String)
  | ipv4 (address : Ipv4)
  | ipv6 (address : Ipv6)
  deriving DecidableEq, Repr

inductive UrlError
  | emptyHost
  | invalidDomain
  | invalidPort
  | invalidIpv4
  | invalidIpv6
  | invalidHostCharacter
  | relativeWithoutBase
  | relativeToOpaque
  deriving DecidableEq, Repr

def UrlError.message : UrlError → String
  | emptyHost => "empty host"
  | invalidDomain => "invalid international domain name"
  | invalidPort => "invalid port number"
  | invalidIpv4 => "invalid IPv4 address"
  | invalidIpv6 => "invalid IPv6 address"
  | invalidHostCharacter => "invalid domain character"
  | relativeWithoutBase => "relative URL without a base"
  | relativeToOpaque => "relative URL with a cannot-be-a-base base"

namespace Host

def toString : Host → String
  | domain name => name
  | ipv4 address => address.toString
  | ipv6 address => "[" ++ address.toHostString ++ "]"

/-- Reads an IPv6 address in brackets. -/
def ofBracketed (text : List Char) : Except UrlError Host :=
  match text.reverse with
  | ']' :: reversed =>
    match Ipv6.ofHost? reversed.reverse with
    | some address => .ok (.ipv6 address)
    | none => .error .invalidIpv6
  | _ => .error .invalidIpv6

/-- A folded name, or the address it spells. -/
def ofDomain (name : List Char) : Except UrlError Host :=
  if name.isEmpty then .error .emptyHost
  else if Ipv4.isIntended name then
    match Ipv4.ofHost? name with
    | some address => .ok (.ipv4 address)
    | none => .error .invalidIpv4
  else .ok (.domain (String.ofList name))

/-- Reads the host of a URL with a scheme that every browser knows. -/
def parse (text : List Char) : Except UrlError Host :=
  match text with
  | '[' :: rest => ofBracketed rest
  | _ =>
    match Domain.toAscii? (percentDecode (encodeUtf8 text)) with
    | some name => ofDomain name
    | none => .error .invalidDomain

def isForbidden (c : Char) : Bool :=
  "\x00\t\n\r #/:<>?@[\\]^|".toList.contains c

/-- Reads the host of any other URL. -/
def parseVerbatim (text : List Char) : Except UrlError Host :=
  match text with
  | '[' :: rest => ofBracketed rest
  | _ =>
    if text.any isForbidden then .error .invalidHostCharacter
    else .ok (.domain (String.ofList (percentEncode isControlEscaped text)))

end Host

end GadgetGuard
