import GadgetGuard.Http.Header
import GadgetGuard.Text.Cut
/-!
# Request lines

A request names a method and a target. The target is a path with an optional query, an
absolute URL, a host alone, or an asterisk.
-/

namespace GadgetGuard

open GadgetGuard.Text

/-- The parts of a request target by which requests are routed. -/
structure RequestTarget where
  path : String
  query : Option String
  deriving DecidableEq, Repr

namespace RequestTarget

def isMethod (method : String) : Bool :=
  !method.isEmpty && method.toList.all Header.isNameCharacter

def isPathCharacter (c : Char) : Bool :=
  let n := c.toNat
  n == 0x21 || n == 0x22 || (0x24 ≤ n && n ≤ 0x3B) || n == 0x3D || (0x40 ≤ n && n ≤ 0x5F) ||
    0x61 ≤ n

def isQueryCharacter (c : Char) : Bool :=
  let n := c.toNat
  n == 0x21 || (0x24 ≤ n && n ≤ 0x3B) || n == 0x3D || 0x3F ≤ n

/-- Reads a path with its query; a fragment is dropped. -/
def ofPath? (text : List Char) : Option RequestTarget :=
  let (text, _) := cut '#' text
  let (path, query) := cut '?' text
  if path.all isPathCharacter && (query.getD []).all isQueryCharacter then
    some { path := if path.isEmpty then "/" else String.ofList path
           query := query.map String.ofList }
  else none

def isHostCharacter (c : Char) : Bool :=
  c.isAlphanum || "!$&'()*+,-.:;=@[]_~%".toList.contains c

def endsHost (c : Char) : Bool :=
  c == '/' || c == '?' || c == '#'

/-- What was seen of a host so far. Credentials before an at sign and an address in brackets
may hold more colons and escapes than the rest. -/
structure HostScan where
  colons : Nat := 0
  hasEscape : Bool := false
  isOpened : Bool := false
  isClosed : Bool := false
  afterAt : Bool := false

def HostScan.next? (scan : HostScan) (c : Char) : Option HostScan :=
  let scan' := { scan with afterAt := false }
  if !isHostCharacter c then none
  else if c = ':' then
    if 8 ≤ scan.colons then none else some { scan' with colons := scan.colons + 1 }
  else if c = '[' then
    if scan.hasEscape || scan.isOpened then none else some { scan' with isOpened := true }
  else if c = ']' then
    if !scan.isOpened || scan.isClosed then none
    else some { scan' with isClosed := true, colons := 0, hasEscape := false }
  else if c = '@' then some { scan with colons := 0, hasEscape := false, afterAt := true }
  else if c = '%' then some { scan' with hasEscape := true }
  else some scan'

def isHost (text : List Char) : Bool :=
  match text.foldlM HostScan.next? {} with
  | some scan =>
    scan.isOpened == scan.isClosed && scan.colons ≤ 1 && !scan.afterAt && !scan.hasEscape
  | none => false

/-- The longest scheme of an absolute URL. -/
def maxSchemeLength : Nat := 64

def isSchemeCharacter (c : Char) : Bool :=
  c.isAlphanum || c == '+' || c == '-' || c == '.'

/-- What follows the scheme of an absolute URL, or the whole text and no scheme. -/
def afterScheme? (text : List Char) : Option (Bool × List Char) :=
  let (scheme, rest) := text.span isSchemeCharacter
  match rest with
  | ':' :: '/' :: '/' :: rest =>
    if scheme.length ≤ maxSchemeLength then some (true, rest) else none
  | _ => some (false, text)

def parse? (text : String) : Option RequestTarget :=
  if text.isEmpty || 65534 < text.utf8ByteSize then none
  else if text == "*" then some { path := "*", query := none }
  else if text.toList.head? == some '/' then ofPath? text.toList
  else do
    let (hasScheme, rest) ← afterScheme? text.toList
    let (host, rest) := rest.span (! endsHost ·)
    if !isHost host || host.isEmpty then none
    else if hasScheme then ofPath? rest
    else if rest.isEmpty then some { path := "", query := none }
    else none

end RequestTarget

end GadgetGuard
