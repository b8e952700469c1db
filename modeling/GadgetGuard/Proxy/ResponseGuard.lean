import GadgetGuard.Http.Message
import GadgetGuard.Proxy.Image
import GadgetGuard.Style.Sanitizer
import GadgetGuard.Text.Cut
/-!
# Sanitizing fetched resources

A resource that has to be sanitized reaches the client as a sanitized stylesheet or as a
recognised image. Anything else is emptied.
-/

namespace GadgetGuard

open GadgetGuard.Text

inductive GuardError
  | refused (detail : String) (status : Nat)
  /-- The stylesheet sanitizer gave no answer. -/
  | crashed
  deriving DecidableEq, Repr

def GuardError.message : GuardError → String
  | refused detail _ => "rewriting failed: " ++ detail
  | crashed => "rewriting failed"

/-- The status that a client sees. -/
def GuardError.status : GuardError → Nat
  | refused _ status => status
  | crashed => 500

/-- What becomes of the response to a request before it reaches the client. -/
abbrev ResponseGuard := ResourceRequest → Response → Traced (Except GuardError Response)

namespace ResponseGuard

/-- The gadget on whose behalf links are written: the one that the request names, or the
resource itself. -/
def gadgetUrl (request : ResourceRequest) : Url :=
  match request.gadget.map Url.parse with
  | some (.ok gadget) => gadget
  | _ => request.url

def linkOrigin (links : Link.Settings) (request : ResourceRequest) : Link.Origin :=
  { gadget := gadgetUrl request, container := request.container, settings := links }

/-- The sanitized text of a stylesheet. -/
def sanitizeStylesheet (styles : StyleSanitizer) (links : Link.Settings)
    (request : ResourceRequest) (body : Bytes) : Traced (Except GuardError Bytes) :=
  match decodeUtf8? body with
  | none => pure (.error (.refused "stylesheet is not valid UTF-8" 500))
  | some css => do
    match ← styles (String.ofList css) request.url
        (Link.forStylesheets (linkOrigin links request)) with
    | .clean cleaned => return .ok (encodeUtf8 cleaned.toList)
    | .rejected reason => return .error (.refused ("stylesheet rejected: " ++ reason) 500)
    | .crashed => return .error .crashed

def unknownImage (request : ResourceRequest) : Event :=
  { level := .debug, target := "proxy", message := "body is not a recognised image, dropping"
    fields := [("url", .text request.url.toString)] }

/-- Sanitizes the responses to requests that ask for it. -/
def sanitizing (styles : StyleSanitizer) (links : Link.Settings) : ResponseGuard :=
  fun request response =>
    let mime := lower (request.requiredMime.getD "")
    if !request.sanitize then pure (.ok response)
    else if hasBeginning "text/css" mime then do
      match ← sanitizeStylesheet styles links request response.body with
      | .ok body => return .ok { response with body }
      | .error cause => return .error cause
    else if hasBeginning "image/" mime then
      if (imageType? response.body).isSome then pure (.ok response)
      else do
        Traced.report (unknownImage request)
        return .ok { response with body := [] }
    else pure (.ok { response with body := [] })

/-- Refuses every response. -/
def refusing (detail : String) (status : Nat) : ResponseGuard := fun _ _ =>
  pure (.error (.refused detail status))

end ResponseGuard

end GadgetGuard
