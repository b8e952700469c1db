import GadgetGuard.Encoding.Form
import GadgetGuard.Link.Parameter
import GadgetGuard.Text.Number
import GadgetGuard.Url.Parser
/-!
# Directives of a proxy request

The query of a proxy request names the resource and says how to treat it. Of several values
under one name the first counts.
-/

namespace GadgetGuard

open GadgetGuard.Text GadgetGuard.Encoding

/-- Why a proxy request is refused. -/
inductive ProxyError
  | invalidParameter (detail : String)
  | forbidden (detail : String)
  | failed (detail : String) (status : Nat)
  /-- The guard of the response gave no answer. -/
  | crashed
  deriving DecidableEq, Repr

namespace ProxyError

def message : ProxyError → String
  | invalidParameter detail => "invalid parameter: " ++ detail
  | forbidden detail => "forbidden: " ++ detail
  | failed detail _ => "internal error: " ++ detail
  | crashed => "internal error"

def status : ProxyError → Nat
  | invalidParameter _ => 400
  | forbidden _ => 403
  | failed _ status => status
  | crashed => 500

end ProxyError

/-- The parameters of a query, in order. -/
structure Query where
  parameters : List (String × String)
  deriving DecidableEq, Repr

namespace Query

def parse (text : String) : Query :=
  ⟨formPairs text⟩

def get? (query : Query) (name : String) : Option String :=
  query.parameters.lookup name

/-- A parameter that is there and not empty. -/
def nonEmpty? (query : Query) (name : String) : Option String :=
  (query.get? name).filter (! ·.isEmpty)

end Query

/-- How the version that a request names compares to the deployed one. -/
inductive VersionStatus
  | unversioned
  | current
  | stale
  deriving DecidableEq, Repr

/-- What a proxy request asks for. -/
structure Directives where
  resource : Url
  container : String
  gadget : Option String
  refresh : Option String
  version : VersionStatus
  deriving DecidableEq, Repr

namespace Directives

/-- Without a deployed version every version is current. -/
def versionStatus (deployed requested : Option String) : VersionStatus :=
  match requested, deployed with
  | none, _ => .unversioned
  | some requested, some deployed => if deployed = requested then .current else .stale
  | some _, none => .current

/-- Reads a query. `deployed` is the version that is deployed, if versions are used. -/
def ofQuery (query : Query) (deployed : Option String) : Except ProxyError Directives :=
  match query.nonEmpty? Parameter.url with
  | none => .error (.invalidParameter "no url parameter in request")
  | some text =>
    match Url.parse text with
    | .error cause => .error (.invalidParameter ("invalid url parameter: " ++ cause.message))
    | .ok resource =>
      .ok
        { resource
          container := (query.nonEmpty? Parameter.container).getD Parameter.defaultContainer
          gadget := query.get? Parameter.gadget
          refresh := query.get? Parameter.refresh
          version := versionStatus deployed (query.nonEmpty? Parameter.version) }

/-- How many seconds the response may be kept. What the request asks for counts; otherwise
a current version may be kept for long and a stale one not at all. -/
def lifetime (directives : Directives) (long usual : Nat) : Except ProxyError Nat :=
  match directives.refresh with
  | some refresh =>
    match natural? maxNatural (trimBlanks refresh.toList) with
    | some seconds => .ok seconds
    | none => .error (.invalidParameter ("invalid refresh parameter: " ++ refresh))
  | none =>
    match directives.version with
    | .current => .ok long
    | .stale => .ok 0
    | .unversioned => .ok usual

end Directives

end GadgetGuard
