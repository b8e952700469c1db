import GadgetGuard.Link.Router
import GadgetGuard.Style.Comment
import GadgetGuard.Style.Hook
import GadgetGuard.Style.Reference
/-!
# Stylesheet sanitizers

A stylesheet sanitizer takes the text of a stylesheet, the URL it was found at and the
router for its links. The conservative one does not follow the grammar of stylesheets: it
removes what is known to be dangerous and routes every reference.
-/

namespace GadgetGuard

namespace Style

/-- What a sanitizer makes of a stylesheet. -/
inductive Outcome
  | clean (css : String)
  | rejected (reason : String)
  /-- The sanitizer gave up without an answer. -/
  | crashed
  deriving DecidableEq, Repr

end Style

abbrev StyleSanitizer := String → Url → LinkRouter → Traced Style.Outcome

namespace Style

/-- A stylesheet without markup, comments, imports and script hooks. -/
def removeDangers (css : List Char) : List Char :=
  removeHooked (removeImports (removeComments (css.filter (· != '<'))))

/-- A quote would end the link early, so it is written as an escape. -/
def escapeQuotes (link : String) : String :=
  String.ofList (link.toList.flatMap fun c => if c = '"' then "%22".toList else [c])

def referenceText (link : String) : String :=
  "url(\"" ++ escapeQuotes link ++ "\")"

def Piece.routed (links : LinkRouter) (context : Url) : Piece → Traced String
  | plain c => pure c.toString
  | reference link => do
    let routed ← links (String.ofList link) context
    return referenceText routed

/-- The pieces of a stylesheet as they are written, with every link routed. -/
def routePieces (links : LinkRouter) (context : Url) : List Piece → Traced (List String)
  | [] => pure []
  | piece :: later => do
    let first ← piece.routed links context
    let rest ← routePieces links context later
    return first :: rest

/-- Removes dangers and routes every reference. -/
def sanitizeConservatively (css : String) (context : Url) (links : LinkRouter) :
    Traced String := do
  let written ← routePieces links context (pieces (removeDangers css.toList))
  return String.join written

def conservative : StyleSanitizer := fun css context links => do
  let cleaned ← sanitizeConservatively css context links
  return .clean cleaned

end Style

end GadgetGuard
