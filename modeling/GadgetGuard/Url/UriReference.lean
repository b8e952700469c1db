import GadgetGuard.Text.Cut
import GadgetGuard.Text.Quoted
import GadgetGuard.Url.Parser
/-!
# URI references in content

Reading URLs is lenient: blanks in a path are escaped and odd characters are kept. Links
found in content are held to the stricter grammar of URI references first, so that text
which is no link at all is not turned into one.
-/

namespace GadgetGuard

open GadgetGuard.Text

inductive UriError
  | illegalCharacter (c : Char)
  | badEscape
  | badScheme
  | unreadable (cause : UrlError)
  deriving DecidableEq, Repr

def UriError.message : UriError → String
  | illegalCharacter c => "illegal character " ++ quotedCharacter c ++ " in URI"
  | badEscape => "malformed percent-escape in URI"
  | badScheme => "malformed scheme in URI"
  | unreadable cause => "unparseable URI: " ++ cause.message

/-- A link as written, and its scheme in lower case if it names one. -/
structure UriReference where
  raw : String
  scheme : Option String
  deriving DecidableEq, Repr

namespace UriReference

/-- Characters that a URI reference holds only as escapes. -/
def isIllegal (c : Char) : Bool :=
  isBlank c || isControl c || "\"<>\\^`\x7b|\x7d".toList.contains c

def isEscape (first second : Char) : Bool :=
  isHexDigit first && isHexDigit second

/-- The first fault of a text, read from its start: an illegal character, or a `%` that
starts no escape. -/
def firstFault : List Char → Option UriError
  | [] => none
  | c :: rest =>
    if isIllegal c then some (.illegalCharacter c)
    else if c = '%' then
      match rest with
      | first :: second :: _ => if isEscape first second then firstFault rest else some .badEscape
      | _ => some .badEscape
    else firstFault rest

def isSchemeEnd (c : Char) : Bool :=
  c == '/' || c == '?' || c == '#'

/-- The scheme stands before a colon that comes before any slash, query and fragment. -/
def schemeOf (raw : List Char) : Except UriError (Option String) :=
  match cut ':' (raw.takeWhile (! isSchemeEnd ·)) with
  | (_, none) => .ok none
  | (scheme, some _) =>
    match scheme with
    | [] => .error .badScheme
    | first :: rest =>
      if first.isAlpha && rest.all Url.isSchemeCharacter then
        .ok (some (String.ofList (scheme.map Char.toLower)))
      else .error .badScheme

/-- A reference without a scheme is tried against a base that can take any path. -/
def trialBase : Url :=
  { scheme := "http"
    authority := some
      { username := "", password := none, host := some (.domain "validation.invalid")
        port := none }
    path := .segments [""]
    query := none
    fragment := none }

def parse (raw : String) : Except UriError UriReference := do
  if let some fault := firstFault raw.toList then throw fault
  let scheme ← schemeOf raw.toList
  let base := if scheme.isSome then none else some trialBase
  match Url.read base raw with
  | .ok _ => return { raw, scheme }
  | .error cause => throw (.unreadable cause)

/-- The URL that the link names in a resource with the URL `base`. -/
def resolve (reference : UriReference) (base : Url) : Except UriError Url :=
  match base.join reference.raw with
  | .ok url => .ok url
  | .error cause => .error (.unreadable cause)

end UriReference

end GadgetGuard
