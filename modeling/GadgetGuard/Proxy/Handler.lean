import GadgetGuard.Proxy.Directive
import GadgetGuard.Proxy.LockedDomain
import GadgetGuard.Proxy.ResponseGuard
import GadgetGuard.Proxy.Target
import GadgetGuard.Text.Cut
/-!
# The proxy handler

A proxy request is answered with the resource it names, fetched through a pipeline. If the
first fetch fails, a second one for the fallback of the request takes its place. The answer
carries header fields of the resource that do not get in the way, the lifetime that was
asked for, the required media type, and fields that keep a browser from showing it.
-/

namespace GadgetGuard

open GadgetGuard.Text

/-- A request to the proxy endpoint. -/
structure ProxyRequest where
  headers : Headers
  query : Query
  deriving DecidableEq, Repr

namespace ProxyRequest

def of (headers : Headers) (query : Option String) : ProxyRequest :=
  ⟨headers, match query with
    | some text => Query.parse text
    | none => ⟨[]⟩⟩

def host? (request : ProxyRequest) : Option String :=
  request.headers.text? "host"

end ProxyRequest

/-- Answers the last of the requests made so far. -/
abbrev Pipeline := List ResourceRequest → Traced Response

structure ProxySettings where
  /-- Lifetime of a resource of the current version, in seconds. -/
  longLifetime : Nat := 365 * 24 * 60 * 60
  usualLifetime : Nat := 60 * 60
  /-- Header fields of responses that are not passed on, in lower case. -/
  disallowed : List String :=
    ["set-cookie", "content-length", "content-encoding", "etag", "last-modified",
      "accept-ranges", "vary", "expires", "date", "pragma", "cache-control",
      "transfer-encoding", "connection", "keep-alive", "trailer", "upgrade",
      "www-authenticate"]
  /-- Header fields of requests that are passed on, in lower case. -/
  forwarded : List String := ["accept", "accept-language", "user-agent"]
  targets : TargetPolicy := {}
  /-- The deployed version, if versions are used. -/
  version : Option String := none
  deriving DecidableEq, Repr

structure ProxyHandler where
  settings : ProxySettings
  lockedDomain : LockedDomain
  responseGuard : Option ResponseGuard
  pipeline : Pipeline

/-- The answer to a proxy request and the requests that were made for it. -/
structure ProxyAnswer where
  result : Except ProxyError Response
  requests : List ResourceRequest

namespace ProxyHandler

def wrongDomain (url host : String) : Event :=
  { level := .info, target := "proxy", message := "embed request made to wrong domain"
    fields := [("url", .text url), ("host", .text host)] }

def blockedTarget (url : Url) (reason : String) : Event :=
  { level := .warn, target := "proxy", message := "blocked proxy target"
    fields := [("url", .text url.toString), ("reason", .text reason)] }

def droppedSize (name value : String) : Event :=
  { level := .debug, target := "proxy", message := "dropping non-integer param"
    fields := [("param", .quoted name), ("value", .quoted value)] }

def fallingBack (url : Url) (status : Nat) (fallback : Url) : Event :=
  { level := .debug, target := "proxy", message := "primary fetch failed, trying fallback"
    fields := [("url", .text url.toString), ("status", .number status),
      ("fallback", .text fallback.toString)] }

/-- Only public web resources may be fetched. -/
def checkTarget (targets : TargetPolicy) (url : Url) : Traced (Except ProxyError Unit) :=
  if ! ["http", "https"].contains url.scheme then
    pure (.error (.invalidParameter ("invalid request url scheme in url: " ++ url.toString)))
  else if url.host?.isNone then
    pure (.error (.invalidParameter ("missing domain name for request: " ++ url.toString)))
  else
    match targets.checkUrl url with
    | .ok () => pure (.ok ())
    | .error (.blocked reason) => do
      Traced.report (blockedTarget url reason)
      return .error (.forbidden reason)
    | .error cause => pure (.error (.invalidParameter cause.message))

/-- An image size of a query, if it is an integer. -/
def imageSize (query : Query) (name : String) : Traced (List (String × Int)) :=
  match query.get? name with
  | none => pure []
  | some value =>
    match integer? (trimBlanks value.toList) with
    | some size => pure [(name, size)]
    | none => do
      Traced.report (droppedSize name value)
      return []

def imageSizes (query : Query) : List String → Traced (List (String × Int))
  | [] => pure []
  | name :: names => do
    let size ← imageSize query name
    let sizes ← imageSizes query names
    return size ++ sizes

/-- The header fields of a request that are passed on. -/
def forwardedHeaders (forwarded : List String) (headers : Headers) : Headers :=
  ⟨forwarded.flatMap fun name => (headers.getAll name).map fun value => (name, value)⟩

/-- The request for a resource on behalf of a proxy request, if it may be made. -/
def resourceRequest (settings : ProxySettings) (request : ProxyRequest)
    (directives : Directives) (url : Url) : Traced (Except ProxyError ResourceRequest) := do
  match ← checkTarget settings.targets url with
  | .error cause => return .error cause
  | .ok () =>
    let sizes ← imageSizes request.query Parameter.imageSizes
    return .ok
      { url
        headers := forwardedHeaders settings.forwarded request.headers
        sizes
        requiredMime := request.query.get? Parameter.requiredMime
        sanitize := request.query.get? Parameter.sanitize == some "1"
        container := directives.container
        gadget := directives.gadget }

/-- Header fields that state a lifetime are never taken from the resource. -/
def isLifetimeField (name : String) : Bool :=
  name == "cache-control" || name == "expires" || name == "pragma"

/-- Adds the header fields of a response that are passed on. -/
def projectHeaders (settings : ProxySettings) (response headers : Headers) : Headers :=
  ⟨headers.fields ++ response.fields.filter fun field =>
    !isLifetimeField field.1 && !settings.disallowed.contains field.1⟩

/-- The media type that has to replace the one of the response. A whole family such as
`image/*` replaces only types outside of it, by its bare name. -/
def requiredType? (required : String) (responseType : String) : Option String :=
  match (required.toList.reverse : List Char) with
  | '*' :: '/' :: reversed =>
    let family := String.ofList reversed.reverse
    if responseType.isEmpty then some required
    else if hasBeginning (lower family) (lower responseType) then none
    else some family
  | _ => some required

/-- Gives the answer the media type that the request requires. -/
def withRequiredType (required : Option String) (response : Response) (headers : Headers) :
    Except ProxyError Headers :=
  match required.filter (! ·.isEmpty) with
  | none => .ok headers
  | some required =>
    match requiredType? required (response.contentType?.getD "") with
    | none => .ok headers
    | some mime =>
      match Header.valueOfText? mime with
      | some value => .ok (headers.insert "content-type" value)
      | none =>
        .error (.invalidParameter ("invalid " ++ Parameter.requiredMime ++ " parameter"))

/-- A failure of the resource's server is a failure of the gateway. -/
def outwardStatus (status : Nat) : Nat :=
  if status = 500 then 502 else status

/-- The answer that a fetched and sanitized response becomes. -/
def present (settings : ProxySettings) (request : ResourceRequest) (lifetime : Nat) (now : Int)
    (response : Response) : Except ProxyError Response := do
  let headers := projectHeaders settings response.headers
    (Headers.empty.withLifetime lifetime now)
  let headers ← withRequiredType request.requiredMime response headers
  return { response with
    status := outwardStatus response.status
    headers := (headers.insert "content-disposition"
      (Header.asciiValue "attachment;filename=p.txt")).insert
      "x-content-type-options" (Header.asciiValue "nosniff") }

def guarded (handler : ProxyHandler) (request : ResourceRequest) (response : Response) :
    Traced (Except ProxyError Response) :=
  match handler.responseGuard with
  | none => pure (.ok response)
  | some guard => do
    match ← guard request response with
    | .ok sanitized => return .ok sanitized
    | .error (.refused detail status) => return .error (.failed detail status)
    | .error .crashed => return .error .crashed

/-- Guards a response and presents it as the answer. The guard is told of the first request
also where the response is the fallback's. -/
def conclude (handler : ProxyHandler) (first : ResourceRequest) (lifetime : Nat) (now : Int)
    (requests : List ResourceRequest) (response : Response) : Traced ProxyAnswer := do
  match ← handler.guarded first response with
  | .error cause => return ⟨.error cause, requests⟩
  | .ok sanitized => return ⟨present handler.settings first lifetime now sanitized, requests⟩

/-- Answers from the fallback of the request. -/
def fallBack (handler : ProxyHandler) (earlier : List ResourceRequest) (request : ProxyRequest)
    (directives : Directives) (first : ResourceRequest) (lifetime : Nat) (now : Int)
    (failed : Response) (fallback : String) : Traced ProxyAnswer :=
  match Url.parse fallback with
  | .error cause =>
    pure ⟨.error (.invalidParameter
      (Parameter.fallbackUrl ++ " param is invalid: " ++ cause.message)), [first]⟩
  | .ok url => do
    Traced.report (fallingBack first.url failed.status url)
    match ← resourceRequest handler.settings request directives url with
    | .error cause => return ⟨.error cause, [first]⟩
    | .ok second =>
      let response ← handler.pipeline (earlier ++ [first, second])
      handler.conclude first lifetime now [first, second] response

/-- Fetches the resource of an accepted request and answers with it. -/
def fetchAccepted (handler : ProxyHandler) (earlier : List ResourceRequest)
    (request : ProxyRequest) (directives : Directives) (first : ResourceRequest)
    (lifetime : Nat) (now : Int) : Traced ProxyAnswer := do
  let response ← handler.pipeline (earlier ++ [first])
  match if response.isError then request.query.get? Parameter.fallbackUrl else none with
  | some fallback =>
    handler.fallBack earlier request directives first lifetime now response fallback
  | none => handler.conclude first lifetime now [first] response

/-- Answers a proxy request at a point in time, after the pipeline was asked for the
`earlier` requests. A conditional request is answered as unchanged without a look at the
resource. -/
def fetch (handler : ProxyHandler) (earlier : List ResourceRequest) (now : Int)
    (request : ProxyRequest) : Traced ProxyAnswer :=
  let refuse (cause : ProxyError) : Traced ProxyAnswer := pure ⟨.error cause, []⟩
  if request.headers.contains "if-modified-since" then pure ⟨.ok { status := 304 }, []⟩
  else if !handler.lockedDomain.isSafe request.host? then do
    let url := (request.query.get? Parameter.url).getD ""
    let host := request.host?.getD ""
    Traced.report (wrongDomain url host)
    refuse (.invalidParameter
      ("embed request for url " ++ url ++ " made to wrong domain " ++ host))
  else
    match Directives.ofQuery request.query handler.settings.version with
    | .error cause => refuse cause
    | .ok directives => do
      match ← resourceRequest handler.settings request directives directives.resource with
      | .error cause => refuse cause
      | .ok first =>
        match directives.lifetime handler.settings.longLifetime
            handler.settings.usualLifetime with
        | .error cause => refuse cause
        | .ok lifetime =>
          handler.fetchAccepted earlier request directives first lifetime now

end ProxyHandler

end GadgetGuard
