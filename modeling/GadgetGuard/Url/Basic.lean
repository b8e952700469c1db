import GadgetGuard.Host.Basic
/-!
# URLs

The parts of a URL and its written form. Every part is kept in the escaped form in which
it is written, so writing a URL only puts its parts together.
-/

namespace GadgetGuard

open GadgetGuard.Text

/-- What stands between `//` and the path. An empty password is no password, and a port
that the scheme implies is no port. -/
structure Authority where
  username : String
  password : Option String
  host : Option Host
  port : Option UInt16
  deriving DecidableEq, Repr

/-- A path is either a list of segments, each written after a slash, or, in URLs such as
`data:`, a text of its own. -/
inductive Path
  | segments (list : List String)
  | verbatim (text : String)
  deriving DecidableEq, Repr

structure Url where
  scheme : String
  authority : Option Authority
  path : Path
  query : Option String
  fragment : Option String
  deriving DecidableEq, Repr

/-- Some schemes have rules of their own for hosts, slashes and queries. -/
inductive SchemeKind
  | web
  | file
  | other
  deriving DecidableEq, Repr

def SchemeKind.of (scheme : String) : SchemeKind :=
  if scheme == "file" then .file
  else if ["http", "https", "ws", "wss", "ftp"].contains scheme then .web
  else .other

/-- Schemes that every browser knows. -/
def SchemeKind.isSpecial (kind : SchemeKind) : Bool :=
  kind != .other

/-- The port that a scheme implies. -/
def defaultPort? (scheme : String) : Option UInt16 :=
  match scheme with
  | "http" | "ws" => some 80
  | "https" | "wss" => some 443
  | "ftp" => some 21
  | _ => none

def Authority.hasCredentials (authority : Authority) : Bool :=
  !authority.username.isEmpty || authority.password.isSome

def Authority.toString (authority : Authority) : String :=
  let password := match authority.password with
    | some password => ":" ++ password
    | none => ""
  let credentials :=
    if authority.hasCredentials then authority.username ++ password ++ "@" else ""
  let host := match authority.host with
    | some host => host.toString
    | none => ""
  let port := match authority.port with
    | some port => ":" ++ Nat.repr port.toNat
    | none => ""
  credentials ++ host ++ port

def Path.toString : Path → String
  | segments list => String.join (list.map ("/" ++ ·))
  | verbatim text => text

namespace Url

/-- Without `//` a path that starts with an empty segment would be read as a host, so it
is written after `/.`. -/
def pathText (url : Url) : String :=
  match url.authority, url.path with
  | none, .segments ("" :: segment :: segments) =>
    "/." ++ (Path.segments ("" :: segment :: segments)).toString
  | _, path => path.toString

def toString (url : Url) : String :=
  let authority := match url.authority with
    | some authority => "//" ++ authority.toString
    | none => ""
  let query := match url.query with
    | some query => "?" ++ query
    | none => ""
  let fragment := match url.fragment with
    | some fragment => "#" ++ fragment
    | none => ""
  url.scheme ++ ":" ++ authority ++ url.pathText ++ query ++ fragment

instance : ToString Url where
  toString := Url.toString

def host? (url : Url) : Option Host :=
  url.authority.bind (·.host)

/-- Whether relative references can be resolved against the URL. -/
def isHierarchical (url : Url) : Bool :=
  match url.path with
  | .segments [] => url.authority.isSome
  | .segments _ => true
  | .verbatim _ => false

/-- The port that a connection uses. -/
def effectivePort? (url : Url) : Option UInt16 :=
  (url.authority.bind (·.port)).or (defaultPort? url.scheme)

def segments (url : Url) : List String :=
  match url.path with
  | .segments list => list
  | .verbatim _ => []

end Url

end GadgetGuard
