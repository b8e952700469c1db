import GadgetGuard.Document.Edit
import GadgetGuard.Document.Html
import GadgetGuard.Gadget.Policy
import GadgetGuard.Style.Sanitizer
/-!
# The sanitizing walk

The walk visits a document from a node downward and takes out what the policy does not
allow. Text stays, comments go, trusted elements are passed over, styles are sanitized and
links are checked and routed. It stops at the first fault and keeps what it has done.
-/

namespace GadgetGuard

open GadgetGuard.Text

/-- The deepest level that is visited; the start of the walk is at level zero. -/
def maxDepth : Nat := 256

inductive StyleError
  | document (cause : DocumentError)
  | rejected (reason : String)
  deriving DecidableEq, Repr

def StyleError.message : StyleError → String
  | document cause => "style element is not usable: " ++ cause.message
  | rejected reason => "stylesheet rejected: " ++ reason

inductive SanitizeError
  | noDocument
  | unknownNode (id : NodeId)
  | depthExceeded (limit : Nat)
  | document (cause : DocumentError)
  | style (cause : StyleError)
  deriving DecidableEq, Repr

def SanitizeError.message : SanitizeError → String
  | noDocument => "content has no parsed document"
  | unknownNode id => "node " ++ id.toString ++ " does not belong to this document"
  | depthExceeded limit => "tree deeper than " ++ Nat.repr limit ++ " levels"
  | document cause => cause.message
  | style cause => "style sanitization failed: " ++ cause.message

/-- Why a walk stops before its end. -/
inductive Stop
  | failed (cause : SanitizeError)
  /-- The stylesheet sanitizer gave no answer. -/
  | crashed
  /-- The text of a style that is below itself has no end. -/
  | endless
  deriving DecidableEq, Repr

/-- The document as the walk leaves it, and why it stopped, if it did. -/
structure Progress where
  document : Document
  stop : Option Stop
  deriving Repr

def Progress.ofEdit (document : Document) (edit : Except DocumentError Document) : Progress :=
  match edit with
  | .ok changed => ⟨changed, none⟩
  | .error cause => ⟨document, some (.failed (.document cause))⟩

/-- What the walk works with. -/
structure Sanitizer where
  policy : Policy
  styles : StyleSanitizer
  styleLinks : LinkRouter
  imageLinks : LinkRouter
  context : Url

/-- Replaces the content of a style element by its sanitized text. -/
def sanitizeStyle (styles : StyleSanitizer) (context : Url) (links : LinkRouter)
    (document : Document) (id : NodeId) : Traced Progress :=
  match document.text? id with
  | none => pure ⟨document, some .endless⟩
  | some css => do
    match ← styles css context links with
    | .clean cleaned =>
      match document.setText id cleaned with
      | .ok changed => return ⟨changed, none⟩
      | .error cause => return ⟨document, some (.failed (.style (.document cause)))⟩
    | .rejected reason => return ⟨document, some (.failed (.style (.rejected reason)))⟩
    | .crashed => return ⟨document, some .crashed⟩

namespace Sanitizer

def unreadableLink (name : String) (cause : UriError) : Event :=
  { level := .debug, target := "sanitizer", message := "dropping unparseable URI attribute"
    fields := [("attribute", .text name), ("error", .text cause.message)] }

def removedElement (tag : String) : Event :=
  { level := .trace, target := "sanitizer", message := "removing element"
    fields := [("tag", .text tag)] }

/-- What becomes of one attribute. -/
inductive Verdict
  | keep
  | drop
  | replace (value : String)
  deriving DecidableEq, Repr

def judge (sanitizer : Sanitizer) (tag : String) (a : Attribute) : Traced Verdict :=
  let policy := sanitizer.policy
  if !policy.allowsAttribute a.name then pure .drop
  else if !policy.isLinkAttribute a.name then pure .keep
  else
    match UriReference.parse a.value with
    | .error cause => do
      Traced.report (unreadableLink a.name cause)
      return .drop
    | .ok reference =>
      if !Policy.allowsScheme reference.scheme then pure .drop
      else if policy.isProxied tag a.name then do
        let routed ← sanitizer.imageLinks reference.raw sanitizer.context
        return .replace routed
      else pure .keep

/-- Carries a verdict out on every attribute of that name. -/
def carryOut (document : Document) (id : NodeId) (name : String) :
    Verdict → Except DocumentError Document
  | .keep => .ok document
  | .drop => (document.removeAttribute id name).map (·.1)
  | .replace value => document.setAttribute id name value

/-- Judges attributes one after the other and carries out each verdict. -/
def filterAttributes (sanitizer : Sanitizer) (tag : String) (id : NodeId) :
    List Attribute → Document → Traced Progress
  | [], document => pure ⟨document, none⟩
  | a :: later, document => do
    let verdict ← sanitizer.judge tag a
    match carryOut document id a.name verdict with
    | .ok changed => filterAttributes sanitizer tag id later changed
    | .error cause => return ⟨document, some (.failed (.document cause))⟩

/-- Does one thing after another until one stops. -/
def afterwards (progress : Progress) (next : Document → Traced Progress) : Traced Progress :=
  match progress.stop with
  | none => next progress.document
  | some _ => pure progress

/-- Visits nodes one after the other. -/
def visitEach (visit : Document → NodeId → Traced Progress) :
    List NodeId → Document → Traced Progress
  | [], document => pure ⟨document, none⟩
  | id :: later, document => do
    let progress ← visit document id
    afterwards progress (visitEach visit later)

/-- Visits a node and what is below it. `levels` counts the levels that may still be
entered. The children are those that the node has when the visit comes to them. -/
def visit (sanitizer : Sanitizer) : Nat → Document → NodeId → Traced Progress
  | 0, document, _ => pure ⟨document, some (.failed (.depthExceeded maxDepth))⟩
  | levels + 1, document, id =>
    let visitChildren (document : Document) :=
      visitEach (sanitizer.visit levels) (document.children id) document
    match document.data? id with
    | none => pure ⟨document, some (.failed (.unknownNode id))⟩
    | some (.text _) | some (.cdata _) | some (.entity _) => pure ⟨document, none⟩
    | some .document => visitChildren document
    | some (.comment _) | some (.other _) => pure (Progress.ofEdit document (document.remove id))
    | some (.element name _) =>
      let tag := lower name
      match document.trust id with
      | .all => pure ⟨document, none⟩
      | .self => visitChildren document
      | .none =>
        if !sanitizer.policy.allowsTag tag then do
          Traced.report (removedElement tag)
          return Progress.ofEdit document (document.remove id)
        else do
          let styled ← if tag = "style" then
              sanitizeStyle sanitizer.styles sanitizer.context sanitizer.styleLinks document id
            else pure ⟨document, none⟩
          let filtered ← afterwards styled fun document =>
            sanitizer.filterAttributes tag id (document.attributes id) document
          afterwards filtered visitChildren

/-- Sanitizes a node and everything below it. -/
def sanitize (sanitizer : Sanitizer) (document : Document) (id : NodeId) : Traced Progress :=
  sanitizer.visit (maxDepth + 1) document id

end Sanitizer

end GadgetGuard
