import GadgetGuard.Http.RequestTarget
import GadgetGuard.Http.SecurityHeaders
import GadgetGuard.Json.Printer
import GadgetGuard.Proxy.Handler
import GadgetGuard.Version
/-!
# The site

The site has two resources, the proxy endpoint and a probe that tells that it is alive. Both
are there for reading only. Every answer states its length and carries the security fields.
-/

namespace GadgetGuard

open GadgetGuard.Text

/-- A request as a client sends it. -/
structure SiteRequest where
  method : String
  target : RequestTarget
  headers : Headers
  deriving DecidableEq, Repr

/-- A request with the method and the target that its first line spells. -/
def SiteRequest.of? (method target : String) (headers : Headers) : Option SiteRequest :=
  if RequestTarget.isMethod method then
    (RequestTarget.parse? target).map fun target => { method, target, headers }
  else none

structure Site where
  handler : ProxyHandler
  security : Option SecurityHeaders
  /-- When the site was started, in seconds since the beginning of 1970. -/
  startTime : Int

/-- The answer to a request and the requests for resources that were made for it. -/
structure SiteAnswer where
  response : Response
  requests : List ResourceRequest

namespace Site

def proxyPath : String := "/gadgets/proxy"

def healthPath : String := "/health"

def jsonResponse (status : Nat) (value : Json) : Response :=
  { status
    headers := ⟨[("content-type", Header.asciiValue "application/json")]⟩
    body := encodeUtf8 value.compact.toList }

def isStatus (status : Nat) : Bool :=
  100 ≤ status && status ≤ 999

def health (site : Site) (now : Int) : Response :=
  jsonResponse 200 (.object [("status", .string "ok"),
    ("uptimeSeconds", .integer (now - site.startTime)), ("version", .string programVersion)])

def refusedEvent (status : Nat) (cause : ProxyError) : Event :=
  let (level, message) :=
    if 500 ≤ status ∧ status < 600 then (Level.warn, "proxy request failed")
    else (Level.debug, "proxy request rejected")
  { level, target := "http", message
    fields := [("status", .number status), ("error", .text cause.message)] }

/-- The answer to a proxy request that failed. -/
def refusal (cause : ProxyError) : Traced Response := do
  let status := if isStatus cause.status then cause.status else 500
  Traced.report (refusedEvent status cause)
  return jsonResponse status (.object [("error", .string cause.message), ("ok", .boolean false)])

/-- The answer to a proxy request. A status that cannot be written is a failure of the
gateway. -/
def proxy (site : Site) (earlier : List ResourceRequest) (now : Int) (request : SiteRequest) :
    Traced SiteAnswer := do
  let answer ← site.handler.fetch earlier now
    (ProxyRequest.of request.headers request.target.query)
  match answer.result with
  | .ok response =>
    let status := if isStatus response.status then response.status else 502
    return ⟨{ response with status }, answer.requests⟩
  | .error cause => return ⟨← refusal cause, answer.requests⟩

/-- The answer of the resource that a request names. -/
def route (site : Site) (earlier : List ResourceRequest) (now : Int) (request : SiteRequest) :
    Traced SiteAnswer :=
  let path := request.target.path
  if path != proxyPath && path != healthPath then pure ⟨{ status := 404 }, []⟩
  else if ! ["GET", "HEAD"].contains request.method then
    pure ⟨{ status := 405, headers := ⟨[("allow", Header.asciiValue "GET,HEAD")]⟩ }, []⟩
  else if path == proxyPath then site.proxy earlier now request
  else pure ⟨site.health now, []⟩

/-- States the length of a body, which is left out in the answer to `HEAD`. -/
def framed (method : String) (response : Response) : Response :=
  { response with
    headers := response.headers.insertIfNew "content-length"
      (Header.asciiValue (Nat.repr response.body.length))
    body := if method == "HEAD" then [] else response.body }

/-- Answers a request at a point in time, after the pipeline was asked for the `earlier`
requests. -/
def answer (site : Site) (earlier : List ResourceRequest) (now : Int) (request : SiteRequest) :
    Traced SiteAnswer := do
  let routed ← site.route earlier now request
  let response := framed request.method routed.response
  let headers := match site.security with
    | some security => security.apply response.headers
    | none => response.headers
  return ⟨{ response with headers }, routed.requests⟩

/-- Answers requests in order, after the pipeline was asked for the `earlier` requests. What
is no request has no answer. -/
def answerAll (site : Site) (now : Int) (earlier : List ResourceRequest) :
    List (Option SiteRequest) → Traced (List (Option Response) × List ResourceRequest)
  | [] => pure ([], earlier)
  | none :: requests => do
    let (responses, made) ← site.answerAll now earlier requests
    return (none :: responses, made)
  | some request :: requests => do
    let answer ← site.answer earlier now request
    let (responses, made) ← site.answerAll now (earlier ++ answer.requests) requests
    return (some answer.response :: responses, made)

end Site

end GadgetGuard
