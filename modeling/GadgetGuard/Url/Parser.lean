import GadgetGuard.Text.Cut
import GadgetGuard.Url.Basic
/-!
# Reading URLs

Any text is read as a URL, if need be against a base. Blanks around it and line breaks
inside it are dropped, backslashes count as slashes in the schemes that every browser
knows, dots in the path are resolved, and every part is escaped as it has to be written.
-/

namespace GadgetGuard

open GadgetGuard.Text GadgetGuard.Encoding

namespace Url

def isBreak (c : Char) : Bool :=
  c == '\t' || c == '\n' || c == '\r'

def isTrimmed (c : Char) : Bool :=
  c.toNat ≤ 0x20

/-- Drops blanks and controls at both ends, and tabs and line breaks everywhere. -/
def clean (text : List Char) : List Char :=
  (((text.dropWhile isTrimmed).reverse.dropWhile isTrimmed).reverse).filter (! isBreak ·)

def isSchemeCharacter (c : Char) : Bool :=
  c.isAlphanum || c == '+' || c == '-' || c == '.'

/-- The scheme, folded, and what follows its colon. -/
def scheme? (text : List Char) : Option (String × List Char) :=
  match text with
  | [] => none
  | first :: _ =>
    if first.isAlpha then
      match text.span isSchemeCharacter with
      | (scheme, ':' :: rest) => some (String.ofList (scheme.map Char.toLower), rest)
      | _ => none
    else none

/-- A reference cut at its first `#` and, before that, at its first `?`. -/
structure Reference where
  body : List Char
  query : Option (List Char)
  fragment : Option (List Char)

def Reference.of (text : List Char) : Reference :=
  let (beforeFragment, fragment) := cut '#' text
  let (body, query) := cut '?' beforeFragment
  ⟨body, query, fragment⟩

def encodeQuery (kind : SchemeKind) (query : List Char) : String :=
  String.ofList <|
    percentEncode (if kind.isSpecial then isSpecialQueryEscaped else isQueryEscaped) query

def encodeFragment (fragment : List Char) : String :=
  String.ofList (percentEncode isFragmentEscaped fragment)

/-- Puts the query and the fragment of a reference behind a path. -/
def Reference.complete (reference : Reference) (scheme : String)
    (authority : Option Authority) (path : Path) : Url :=
  { scheme, authority, path
    query := reference.query.map (encodeQuery (SchemeKind.of scheme))
    fragment := reference.fragment.map encodeFragment }

def isSlash (kind : SchemeKind) (c : Char) : Bool :=
  c == '/' || (kind.isSpecial && c == '\\')

/-- Dots may be written as escapes. -/
def unescapeDots : List Char → List Char
  | '%' :: '2' :: 'e' :: rest => '.' :: unescapeDots rest
  | '%' :: '2' :: 'E' :: rest => '.' :: unescapeDots rest
  | c :: rest => c :: unescapeDots rest
  | [] => []

def isSingleDot (segment : List Char) : Bool :=
  unescapeDots segment == ['.']

def isDoubleDot (segment : List Char) : Bool :=
  unescapeDots segment == ['.', '.']

def encodeSegment (segment : List Char) : String :=
  String.ofList (percentEncode isPathEscaped segment)

/-- A letter and a colon or a bar names a drive. -/
def driveLetter? (segment : List Char) : Option Char :=
  match segment with
  | [letter, mark] => if letter.isAlpha && (mark == ':' || mark == '|') then some letter else none
  | _ => none

def isDriveSegment (segment : String) : Bool :=
  (driveLetter? segment.toList).isSome

/-- Leaves a directory. The root is not left, nor is what is named like a drive. -/
def leave (directories : List String) : List String :=
  if directories.getLast?.any isDriveSegment then directories else directories.dropLast

/-- Enters a segment below the given directories. -/
def enter (kind : SchemeKind) (directories : List String) (segment : List Char) : List String :=
  if isDoubleDot segment then leave directories
  else if isSingleDot segment then directories
  else
    match kind, directories, driveLetter? segment with
    | .file, [], some letter => [String.ofList [letter, ':']]
    | _, _, _ => directories ++ [encodeSegment segment]

/-- Follows the segments of a path. A path that ends in dots names a directory. -/
def follow (kind : SchemeKind) : List String → List (List Char) → List String
  | directories, [] => directories
  | directories, [segment] =>
    if isDoubleDot segment || isSingleDot segment then enter kind directories segment ++ [""]
    else enter kind directories segment
  | directories, segment :: segments => follow kind (enter kind directories segment) segments

/-- The segments that a path text names from the given directories on. In file URLs empty
segments at the start are dropped. -/
def pathFrom (kind : SchemeKind) (directories : List String) (text : List Char) : List String :=
  let segments := follow kind directories (splitAt (isSlash kind) text)
  if kind = .file then
    match segments.dropWhile (·.isEmpty) with
    | [] => [""]
    | kept => kept
  else segments

/-- The path after an authority. Only in schemes that not every browser knows it may be
missing. -/
def rootedPath (kind : SchemeKind) (text : List Char) : List String :=
  match text with
  | [] => if kind.isSpecial then [""] else []
  | c :: rest => pathFrom kind [] (if isSlash kind c then rest else text)

/-- Reads a user name and a password, separated by the first colon. -/
def readCredentials (text : List Char) : String × Option String :=
  let (username, password) := cut ':' text
  let encode (part : List Char) := String.ofList (percentEncode isCredentialEscaped part)
  match password with
  | none | some [] => (encode username, none)
  | some password => (encode username, some (encode password))

/-- The host ends at the first colon outside brackets. -/
def cutPort (inBrackets : Bool) : List Char → List Char × Option (List Char)
  | [] => ([], none)
  | c :: text =>
    if c = ':' ∧ !inBrackets then ([], some text)
    else
      let inside := if c = '[' then true else if c = ']' then false else inBrackets
      let (host, port) := cutPort inside text
      (c :: host, port)

/-- Reads a port. What follows it is nothing, or a path that starts with a backslash. -/
def readPort (scheme : String) (text : List Char) :
    Except UrlError (Option UInt16 × List Char) :=
  let (digits, rest) := text.span Char.isDigit
  let value := digits.foldl (fun value c => value * 10 + (c.toNat - 48)) 0
  let accepted := match rest with
    | [] | '\\' :: _ => true
    | _ => false
  if 65535 < value || !accepted then .error .invalidPort
  else
    let port := UInt16.ofNat value
    .ok (if digits.isEmpty || defaultPort? scheme == some port then none else some port, rest)

/-- Reads a host and a port, and returns what follows them. -/
def readHostAndPort (scheme : String) (text : List Char) :
    Except UrlError (Option Host × Option UInt16 × List Char) := do
  let kind := SchemeKind.of scheme
  let (hostText, portText) := cutPort false text
  if kind.isSpecial && hostText.isEmpty then throw .emptyHost
  let host ← if kind.isSpecial then Host.parse hostText else Host.parseVerbatim hostText
  match portText with
  | none => return (if hostText.isEmpty then none else some host, none, [])
  | some portText =>
    if hostText.isEmpty then throw .emptyHost
    let (port, rest) ← readPort scheme portText
    return (some host, port, rest)

/-- Reads what follows `//`, except in file URLs. -/
def withAuthority (scheme : String) (reference : Reference) (body : List Char) :
    Except UrlError Url := do
  let kind := SchemeKind.of scheme
  let (authority, pathText) := body.span (! isSlash kind ·)
  let (credentials, hostText) := (cutLast '@' authority).getD ([], authority)
  let isAtHostEnd := authority.getLast? == some '@' && credentials.isEmpty
  if isAtHostEnd && (!pathText.isEmpty || reference.query.isSome || reference.fragment.isSome) then
    throw .emptyHost
  let (username, password) := readCredentials credentials
  let (host, port, rest) ← readHostAndPort scheme hostText
  let result : Authority := { username, password, host, port }
  if host.isNone && result.hasCredentials then throw .emptyHost
  return reference.complete scheme (some result)
    (.segments (rootedPath kind (rest ++ pathText)))

/-- Resolves a reference against a URL with a path of segments. -/
def resolveIn (base : Url) (reference : Reference) : Except UrlError Url :=
  let kind := SchemeKind.of base.scheme
  match reference.body with
  | [] =>
    .ok { base with
      query := match reference.query with
        | some query => some (encodeQuery kind query)
        | none => base.query
      fragment := reference.fragment.map encodeFragment }
  | first :: rest =>
    if first = '/' ∨ first = '\\' then
      let isAnySlash (c : Char) := c == '/' || c == '\\'
      match first, rest with
      | '/', '/' :: body => withAuthority base.scheme reference body
      | _, _ =>
        if (rest.head?.map isAnySlash).getD false then
          withAuthority base.scheme reference (rest.dropWhile isAnySlash)
        else
          .ok (reference.complete base.scheme base.authority (.segments (pathFrom kind [] rest)))
    else
      .ok (reference.complete base.scheme base.authority
        (.segments (pathFrom kind base.segments.dropLast reference.body)))

def fileAuthority (host : Option Host) : Option Authority :=
  some { username := "", password := none, host, port := none }

def startsWithDrive (body : List Char) : Bool :=
  match body with
  | letter :: mark :: rest =>
    (driveLetter? [letter, mark]).isSome && (rest.head?.map (isSlash .file)).getD true
  | _ => false

/-- The path after `file://`. A drive letter takes the place of the host. -/
def filePath (host : Option Host) (text : List Char) : Option Host × List String :=
  let rooted := match text with
    | c :: rest => if isSlash .file c then rest else text
    | [] => []
  (if startsWithDrive rooted then none else host, rootedPath .file text)

/-- Reads what follows `file:`, against a file URL if there is one. -/
def readFile (base : Option Url) (reference : Reference) : Except UrlError Url := do
  let body := reference.body
  match body.map (isSlash .file) with
  | true :: true :: _ =>
    let (hostText, pathText) := (body.drop 2).span (! isSlash .file ·)
    if (driveLetter? hostText).isSome then
      return reference.complete "file" (fileAuthority none)
        (.segments (pathFrom .file [] (body.drop 2)))
    else
      let host ← if hostText.isEmpty then pure none else do
        let host ← Host.parse hostText
        pure (if host = .domain "localhost" then none else some host)
      let (host, path) := filePath host pathText
      return reference.complete "file" (fileAuthority host) (.segments path)
  | true :: _ =>
    let text := body.drop 1
    let drive := (base.map segments).getD [] |>.head?.filter isDriveSegment
    if startsWithDrive text then
      return reference.complete "file" (fileAuthority none) (.segments (pathFrom .file [] text))
    else
      let host := if drive.isSome then none else base.bind host?
      return reference.complete "file" (fileAuthority host)
        (.segments (pathFrom .file drive.toList text))
  | _ =>
    match base with
    | some base =>
      if body.isEmpty then resolveIn base reference
      else if startsWithDrive body then
        return reference.complete "file" (fileAuthority none) (.segments (pathFrom .file [] body))
      else
        return reference.complete "file" base.authority
          (.segments (pathFrom .file (leave base.segments) body))
    | none =>
      return reference.complete "file" (fileAuthority none) (.segments (pathFrom .file [] body))

/-- Reads what follows the colon of a scheme. A scheme without slashes that is the base's
own is read as if it were not there. -/
def readAfterScheme (base : Option Url) (scheme : String) (text : List Char) :
    Except UrlError Url :=
  let reference := Reference.of text
  match SchemeKind.of scheme with
  | .file => readFile (base.filter (·.scheme == "file")) reference
  | .web =>
    let slashes := (reference.body.takeWhile (isSlash .web)).length
    match base.filter (fun base => base.scheme == scheme && slashes < 2) with
    | some base => resolveIn base reference
    | none => withAuthority scheme reference (reference.body.drop slashes)
  | .other =>
    match reference.body with
    | '/' :: '/' :: body => withAuthority scheme reference body
    | '/' :: body => .ok (reference.complete scheme none (.segments (pathFrom .other [] body)))
    | body =>
      .ok (reference.complete scheme none
        (.verbatim (String.ofList (percentEncode isControlEscaped body))))

/-- Reads a reference without a scheme. -/
def readRelative (base : Url) (text : List Char) : Except UrlError Url :=
  let reference := Reference.of text
  let isFragmentOnly := reference.body.isEmpty && reference.query.isNone &&
    reference.fragment.isSome
  if isFragmentOnly then .ok { base with fragment := reference.fragment.map encodeFragment }
  else if !base.isHierarchical then .error .relativeToOpaque
  else if base.scheme == "file" then readFile (some base) reference
  else resolveIn base reference

def read (base : Option Url) (text : String) : Except UrlError Url :=
  let cleaned := clean text.toList
  match scheme? cleaned, base with
  | some (scheme, rest), _ => readAfterScheme base scheme rest
  | none, some base => readRelative base cleaned
  | none, none => .error .relativeWithoutBase

/-- Reads an absolute URL. -/
def parse (text : String) : Except UrlError Url :=
  read none text

/-- Reads a reference as it is found in a resource with this URL. -/
def join (base : Url) (text : String) : Except UrlError Url :=
  read (some base) text

end Url

end GadgetGuard
