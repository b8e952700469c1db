import GadgetGuard.Encoding.Form
import GadgetGuard.Link.Parameter
import GadgetGuard.Log.Event
import GadgetGuard.Url.UriReference
/-!
# Proxied links

Every resource that sanitized content refers to is fetched through the proxy endpoint. A
proxied link names the resource in a query of the endpoint, together with the gadget that
refers to it. A sanitizing link also asks for a sanitized body of one media type, and takes
the place of links that cannot be read.
-/

namespace GadgetGuard

open GadgetGuard.Encoding

/-- Where a link leads that was found in a resource with the given URL. -/
abbrev LinkRouter := String → Url → Traced String

namespace Link

/-- Stands for a link that cannot be read. -/
def placeholder : String := "about:blank"

def stylesheetMime : String := "text/css"

def imageMime : String := "image/*"

/-- What all proxied links of one deployment share. -/
structure Settings where
  /-- Path or URL of the proxy endpoint. -/
  proxyBase : String := "/gadgets/proxy"
  fingerprint : String := "0"
  /-- How long a proxied resource may be kept, in seconds. -/
  expires : Option Nat := none
  deriving DecidableEq, Repr

/-- The gadget that links are written for. -/
structure Origin where
  gadget : Url
  container : String
  settings : Settings
  deriving DecidableEq, Repr

/-- The directives of a proxied link, in the order in which they are written. -/
def Origin.directives (origin : Origin) (resource : Url) : List (String × String) :=
  [(Parameter.container, origin.container),
    (Parameter.gadget, origin.gadget.toString),
    (Parameter.fingerprint, origin.settings.fingerprint)] ++
  (origin.settings.expires.map fun seconds => (Parameter.refresh, Nat.repr seconds)).toList ++
  [(Parameter.url, resource.toString)]

def directiveText (directive : String × String) : String :=
  directive.1 ++ "=" ++ formEncode directive.2

/-- The proxied form of a resource. -/
def Origin.proxied (origin : Origin) (resource : Url) : String :=
  let base := origin.settings.proxyBase
  let separator := if base.toList.contains '?' then "&" else "?"
  base ++ separator ++ "&".intercalate ((origin.directives resource).map directiveText)

/-- Routes a link through the proxy; a link that cannot be read is kept. -/
def proxying (origin : Origin) : LinkRouter := fun link context =>
  match context.join link with
  | .ok resource => pure (origin.proxied resource)
  | .error _ => pure link

/-- The resource that a link names, if the link is well formed. -/
def resource (link : String) (context : Url) : Except UriError Url := do
  (← UriReference.parse link).resolve context

/-- The proxied form of a resource that has to be sanitized as the given media type. -/
def Origin.sanitized (origin : Origin) (mime : String) (resource : Url) : String :=
  origin.proxied resource ++ "&" ++ Parameter.sanitize ++ "=1&" ++ Parameter.requiredMime ++
    "=" ++ mime

def unreadable (cause : UriError) : Event :=
  { level := .debug, target := "sanitizer", message := "unparseable link replaced"
    fields := [("error", .text cause.message)] }

/-- Routes a link through the proxy for sanitizing; a link that is not well formed is
replaced. -/
def sanitizing (origin : Origin) (mime : String) : LinkRouter := fun link context =>
  match resource link context with
  | .ok resource => pure (origin.sanitized mime resource)
  | .error cause => do
    Traced.report (unreadable cause)
    return placeholder

def forStylesheets (origin : Origin) : LinkRouter :=
  sanitizing origin stylesheetMime

def forImages (origin : Origin) : LinkRouter :=
  sanitizing origin imageMime

end Link

end GadgetGuard
