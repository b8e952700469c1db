import GadgetGuard.Config.Basic
import GadgetGuard.Fetch.Fetcher
import GadgetGuard.Gadget.Content
import GadgetGuard.Server.Site
/-!
# Starting from a configuration

The parts of the program are put together as the configuration says.
-/

namespace GadgetGuard

open GadgetGuard.Text

namespace Config

def links (config : Config) : Link.Settings :=
  { proxyBase := config.sanitizer.proxyBase
    fingerprint := config.sanitizer.fingerprint
    expires := config.sanitizer.expires.map (·.toNat) }

def contentGuard (config : Config) : ContentGuard :=
  { policy := Policy.of config.sanitizer.tags config.sanitizer.attributes
    styles := Style.conservative
    links := config.links }

def targets (config : Config) : TargetPolicy :=
  { allowPrivate := config.proxy.allowPrivate }

def ignoredName (name : String) : Event :=
  { level := .warn, target := "config", message := "ignoring invalid forwarded header name"
    fields := [("header", .text name)] }

/-- The names that can name a header field. -/
def headerNames : List String → Traced (List String)
  | [] => pure []
  | name :: names =>
    match Header.name? name with
    | some valid => do return valid :: (← headerNames names)
    | none => do
      Traced.report (ignoredName name)
      headerNames names

def proxySettings (config : Config) : Traced ProxySettings := do
  let forwarded ← headerNames config.proxy.forwarded
  return { longLifetime := config.proxy.longLifetime.toNat
           usualLifetime := config.proxy.usualLifetime.toNat
           disallowed := config.proxy.disallowed.map lower
           forwarded
           targets := config.targets
           version := config.proxy.version }

def fetcher (config : Config) : Fetcher :=
  { sizeLimit := config.proxy.sizeLimit.toNat, targets := config.targets : Fetcher }.withTimeout
    config.proxy.timeout.toNat

def lockedDomain (config : Config) : LockedDomain :=
  ⟨config.proxy.lockedDomain.enabled, config.proxy.lockedDomain.suffix⟩

def proxyHandler (config : Config) (network : Network) : Traced ProxyHandler := do
  let settings ← config.proxySettings
  return { settings
           lockedDomain := config.lockedDomain
           responseGuard := some (.sanitizing Style.conservative config.links)
           pipeline := config.fetcher.pipeline network }

def site (config : Config) (network : Network) (startTime : Int) : Traced Site := do
  let handler ← config.proxyHandler network
  let security := if config.server.securityHeaders then some SecurityHeaders.default else none
  return { handler, security, startTime }

end Config

/-- An address and a port on which a server listens. -/
structure Endpoint where
  address : Address
  port : UInt16
  deriving DecidableEq, Repr

def Endpoint.toString (endpoint : Endpoint) : String :=
  let host := match endpoint.address with
    | .ipv4 address => address.toString
    | .ipv6 address => "[" ++ address.toString ++ "]"
  host ++ ":" ++ Nat.repr endpoint.port.toNat

def Endpoint.url (endpoint : Endpoint) : String :=
  "http://" ++ endpoint.toString

inductive StartupError
  | invalidAddress (text : String)
  | noListener (detail : String)
  deriving DecidableEq, Repr

def StartupError.message : StartupError → String
  | invalidAddress text => "invalid bind address " ++ text
  | noListener detail => "failed to bind listener: " ++ detail

/-- A site and where it is served. -/
structure Server where
  endpoint : Endpoint
  site : Site
  /-- How the site fetches resources. -/
  fetcher : Fetcher

namespace Server

def ofConfig (config : Config) (network : Network) (startTime : Int) :
    Traced (Except StartupError Server) :=
  match Address.parse? config.server.bind with
  | none => pure (.error (.invalidAddress config.server.bind))
  | some address => do
    let site ← config.site network startTime
    return .ok { endpoint := ⟨address, config.server.port⟩, site, fetcher := config.fetcher }

end Server

end GadgetGuard
