import GadgetGuard.Config.Format
import GadgetGuard.Gadget.Policy
import GadgetGuard.Proxy.Handler
/-!
# Configurations

The settings of the program, in four sections. Everything has a default.
-/

namespace GadgetGuard

namespace Config

structure Server where
  bind : String := "127.0.0.1"
  port : UInt16 := 8089
  /-- Whether responses carry the fields that keep a browser from showing them. -/
  securityHeaders : Bool := true
  deriving DecidableEq, Repr

structure Domain where
  enabled : Bool := false
  suffix : String := "-a.example.com"
  deriving DecidableEq, Repr

structure Proxy where
  /-- Lifetime of a resource of the current version, in seconds. -/
  longLifetime : UInt64 := 365 * 24 * 60 * 60
  usualLifetime : UInt64 := 60 * 60
  /-- How long a fetch may take, in milliseconds. -/
  timeout : UInt64 := 30000
  /-- How many bytes a fetched body may have. -/
  sizeLimit : UInt64 := 50 * 1024 * 1024
  lockedDomain : Domain := {}
  allowPrivate : Bool := false
  disallowed : List String := ({} : ProxySettings).disallowed
  forwarded : List String := ({} : ProxySettings).forwarded
  version : Option String := none
  deriving DecidableEq, Repr

structure Sanitizing where
  tags : List String := Policy.defaultTags
  attributes : List String := Policy.defaultAttributes
  proxyBase : String := "/gadgets/proxy"
  fingerprint : String := "0"
  /-- How long a proxied resource may be kept, in seconds. -/
  expires : Option UInt64 := none
  deriving DecidableEq, Repr

inductive LogFormat
  | plaintext
  | json
  deriving DecidableEq, Repr

structure Logging where
  level : String := "info"
  format : LogFormat := .plaintext
  deriving DecidableEq, Repr

end Config

structure Config where
  server : Config.Server := {}
  proxy : Config.Proxy := {}
  sanitizer : Config.Sanitizing := {}
  logging : Config.Logging := {}
  deriving DecidableEq, Repr

namespace Config

open Config.Field in
def Server.record : Record Server where
  name := "ServerSection"
  initial := {}
  fields :=
    [required "bind" .text (·.bind) fun value server => { server with bind := value },
      required "port" .word16 (·.port) fun value server => { server with port := value },
      required "securityHeaders" .flag (·.securityHeaders) fun value server =>
        { server with securityHeaders := value }]

open Config.Field in
def Domain.record : Record Domain where
  name := "LockedDomainSection"
  initial := {}
  fields :=
    [required "enabled" .flag (·.enabled) fun value domain => { domain with enabled := value },
      required "suffix" .text (·.suffix) fun value domain => { domain with suffix := value }]

open Config.Field in
def Proxy.record : Record Proxy where
  name := "ProxySection"
  initial := {}
  fields :=
    [required "longLivedRefreshSecs" .word64 (·.longLifetime) fun value proxy =>
        { proxy with longLifetime := value },
      required "defaultRefreshSecs" .word64 (·.usualLifetime) fun value proxy =>
        { proxy with usualLifetime := value },
      required "timeoutMs" .word64 (·.timeout) fun value proxy =>
        { proxy with timeout := value },
      required "maxResponseBytes" .word64 (·.sizeLimit) fun value proxy =>
        { proxy with sizeLimit := value },
      required "lockedDomain" Domain.record.format (·.lockedDomain) fun value proxy =>
        { proxy with lockedDomain := value },
      required "allowPrivateNetworks" .flag (·.allowPrivate) fun value proxy =>
        { proxy with allowPrivate := value },
      required "disallowedResponseHeaders" (.listOf .text) (·.disallowed) fun value proxy =>
        { proxy with disallowed := value },
      required "forwardedRequestHeaders" (.listOf .text) (·.forwarded) fun value proxy =>
        { proxy with forwarded := value },
      optional "versionFingerprint" .text (·.version) fun value proxy =>
        { proxy with version := value }]

open Config.Field in
def Sanitizing.record : Record Sanitizing where
  name := "SanitizerSection"
  initial := {}
  fields :=
    [required "allowedTags" (.listOf .text) (·.tags) fun value sanitizing =>
        { sanitizing with tags := value },
      required "allowedAttributes" (.listOf .text) (·.attributes) fun value sanitizing =>
        { sanitizing with attributes := value },
      required "proxyBase" .text (·.proxyBase) fun value sanitizing =>
        { sanitizing with proxyBase := value },
      required "fingerprint" .text (·.fingerprint) fun value sanitizing =>
        { sanitizing with fingerprint := value },
      optional "expires" .word64 (·.expires) fun value sanitizing =>
        { sanitizing with expires := value }]

def LogFormat.name : LogFormat → String
  | plaintext => "plaintext"
  | json => "json"

def LogFormat.choice : Format LogFormat :=
  .choice [("plaintext", .plaintext), ("json", .json)] LogFormat.name

open Config.Field in
def Logging.record : Record Logging where
  name := "LoggingSection"
  initial := {}
  fields :=
    [required "level" .text (·.level) fun value logging => { logging with level := value },
      required "format" LogFormat.choice (·.format) fun value logging =>
        { logging with format := value }]

open Config.Field in
def record : Record Config where
  name := "AppConfig"
  initial := {}
  fields :=
    [required "server" Server.record.format (·.server) fun value config =>
        { config with server := value },
      required "proxy" Proxy.record.format (·.proxy) fun value config =>
        { config with proxy := value },
      required "sanitizer" Sanitizing.record.format (·.sanitizer) fun value config =>
        { config with sanitizer := value },
      required "logging" Logging.record.format (·.logging) fun value config =>
        { config with logging := value }]

def toJson (config : Config) : Json :=
  record.write config

end Config

end GadgetGuard
