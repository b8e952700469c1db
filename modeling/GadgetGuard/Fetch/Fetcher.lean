import GadgetGuard.Fetch.Network
import GadgetGuard.Proxy.Handler
/-!
# Fetching resources

A fetch checks the URL, looks up its host, checks every address that the host turns out to
have, and connects to the first one of them. Redirects are not followed, and the body may
not be larger than a limit.
-/

namespace GadgetGuard

/-- How long a fetch may be allowed to take, in milliseconds. -/
def maxTimeout : Nat := 300000

structure Fetcher where
  /-- How many bytes a body may have. -/
  sizeLimit : Nat := 50 * 1024 * 1024
  /-- How long a fetch may take, in milliseconds. -/
  timeout : Nat := 30000
  targets : TargetPolicy := {}
  deriving DecidableEq, Repr

namespace Fetcher

def withTimeout (fetcher : Fetcher) (milliseconds : Nat) : Fetcher :=
  { fetcher with timeout := min milliseconds maxTimeout }

/-- Where a request is sent. -/
structure Destination where
  address : Address
  port : UInt16
  deriving DecidableEq, Repr

def resolvedEvent (name : String) (address : Address) : Event :=
  { level := .debug, target := "proxy", message := "DNS resolved and validated"
    fields := [("host", .text name), ("resolved_ip", .text address.toString)] }

/-- Checks the length of a URL and its host. -/
def check (fetcher : Fetcher) (url : Url) : Except FetchError Unit :=
  let size := url.toString.utf8ByteSize
  if maxUrlLength < size then .error (.urlTooLong size)
  else (fetcher.targets.checkUrl url).mapError .blocked

/-- The first of the addresses of a name, if all of them may be fetched from. -/
def choose (fetcher : Fetcher) (name : String) (addresses : Except String (List Address)) :
    Except FetchError Address :=
  match addresses with
  | .error reason => .error (.unresolved (name ++ ": " ++ reason))
  | .ok addresses => do
    addresses.forM fun address =>
      (fetcher.targets.checkResolved address name).mapError .blocked
    match addresses with
    | first :: _ => return first
    | [] => throw (.unresolved ("no addresses returned for " ++ name))

/-- The address of a host. `addresses` tells the addresses of a name. -/
def addressOf (fetcher : Fetcher) (addresses : String → Except String (List Address))
    (host : Host) : Traced (Except FetchError Address) :=
  match host with
  | .ipv4 address => pure (.ok (.ipv4 address))
  | .ipv6 address => pure (.ok (.ipv6 address))
  | .domain name =>
    match fetcher.choose name (addresses name) with
    | .error cause => pure (.error cause)
    | .ok address => do
      Traced.report (resolvedEvent name address)
      return .ok address

/-- Where the request for a URL is sent, if it is sent at all. -/
def destination (fetcher : Fetcher) (addresses : String → Except String (List Address))
    (url : Url) : Traced (Except FetchError Destination) :=
  match fetcher.check url with
  | .error cause => pure (.error cause)
  | .ok () =>
    match url.host? with
    | none => pure (.error (.blocked (.invalidUrl "URL has no host")))
    | some host => do
      match ← fetcher.addressOf addresses host with
      | .error cause => return .error cause
      | .ok address => return .ok ⟨address, (url.effectivePort?).getD 80⟩

/-- Reads a response as it comes in. -/
def receive (fetcher : Fetcher) (incoming : Incoming) : Except FetchError Response := do
  if let some size := incoming.declaredSize then
    if fetcher.sizeLimit < size then throw (.bodyTooLarge size fetcher.sizeLimit)
  let body ← incoming.body.read fetcher.sizeLimit
  return { status := incoming.status, headers := incoming.headers, body }

/-- Fetches what the last of some requests asks for. -/
def fetch (fetcher : Fetcher) (network : Network) (earlier : List ResourceRequest)
    (request : ResourceRequest) : Traced (Except FetchError Response) := do
  match ← fetcher.destination network.addresses request.url with
  | .error cause => return .error cause
  | .ok destination =>
    match network.send (earlier ++ [request]) destination.address destination.port with
    | .error reason => return .error (.requestFailed reason)
    | .ok incoming => return fetcher.receive incoming

def failedEvent (url : Url) (cause : FetchError) : Event :=
  let (level, message) := match cause with
    | .blocked _ => (Level.warn, "fetch blocked")
    | _ => (Level.debug, "fetch failed")
  { level, target := "proxy", message
    fields := [("url", .text url.toString), ("error", .text cause.message)] }

/-- Fetches what a request asks for; a failure stands for a response. -/
def respond (fetcher : Fetcher) (network : Network) (earlier : List ResourceRequest)
    (request : ResourceRequest) : Traced Response := do
  match ← fetcher.fetch network earlier request with
  | .ok response => return response
  | .error cause => do
    Traced.report (failedEvent request.url cause)
    return Response.failure

/-- The pipeline that fetches from a network. -/
def pipeline (fetcher : Fetcher) (network : Network) : Pipeline := fun requests =>
  match requests.getLast? with
  | some request => fetcher.respond network requests.dropLast request
  | none => pure Response.failure

end Fetcher

end GadgetGuard
