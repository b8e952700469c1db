import GadgetGuard.Gadget.Walk
/-!
# Gadget content

The content of a gadget is a parsed document or a text. Sanitizing it either runs to its
end or leaves nothing: whatever goes wrong, the content is emptied.
-/

namespace GadgetGuard

/-- Content, and how often it was changed. The count has no bound here; as a number of 64 bits
it is the same for fewer than `2 ^ 64` changes. -/
structure Content where
  text : String
  document : Option Document
  revision : Nat
  deriving Repr

namespace Content

def ofDocument (document : Document) : Content :=
  { text := "", document := some document, revision := 0 }

def ofText (text : String) : Content :=
  { text, document := none, revision := 0 }

/-- Records that the document was changed in place. -/
def touched (content : Content) : Content :=
  { content with revision := content.revision + 1 }

/-- Replaces everything by a text. -/
def replaced (content : Content) (text : String) : Content :=
  { text, document := none, revision := content.revision + 1 }

/-- The content as it is delivered. -/
def html? (content : Content) : Option String :=
  match content.document with
  | some document => document.html?
  | none => some content.text

end Content

/-- A gadget and the request to show it. -/
structure Gadget where
  specification : Url
  container : String
  /-- Parameters of the request; the last one of a name counts. -/
  parameters : List (String × String)
  deriving Repr

namespace Gadget

def parameter? (gadget : Gadget) (name : String) : Option String :=
  gadget.parameters.reverse.lookup name

/-- Whether sanitized content is asked for. -/
def wantsSanitizing (gadget : Gadget) : Bool :=
  gadget.parameter? "sanitize" == some "1"

end Gadget

/-- How the content of gadgets is sanitized. -/
structure ContentGuard where
  policy : Policy
  styles : StyleSanitizer
  links : Link.Settings

namespace ContentGuard

/-- The sanitizer for one gadget: its links are written on its behalf. -/
def sanitizer (guard : ContentGuard) (gadget : Gadget) : Sanitizer :=
  let origin : Link.Origin :=
    { gadget := gadget.specification, container := gadget.container, settings := guard.links }
  { policy := guard.policy
    styles := guard.styles
    styleLinks := Link.forStylesheets origin
    imageLinks := Link.forImages origin
    context := gadget.specification }

def failure (gadget : Gadget) (cause : SanitizeError) : Event :=
  { level := .warn, target := "sanitizer", message := "sanitization failed, emptying output"
    fields := [("gadget", .text gadget.specification.toString), ("error", .text cause.message)] }

def crash (gadget : Gadget) : Event :=
  { level := .warn, target := "sanitizer", message := "sanitizer panicked, emptying output"
    fields := [("gadget", .text gadget.specification.toString)] }

/-- Sanitizes the document of some content. -/
def sanitize (guard : ContentGuard) (gadget : Gadget) (content : Content) :
    Traced (Content × Option Stop) :=
  match content.document with
  | none => pure (content, some (.failed .noDocument))
  | some document => do
    let progress ← (guard.sanitizer gadget).sanitize document Document.root
    return ({ content with document := some progress.document }, progress.stop)

/-- Sanitizes content if the gadget's request asks for it, and empties it if that fails. A
walk without end has no result. -/
def apply (guard : ContentGuard) (gadget : Gadget) (content : Content) :
    Traced (Option Content) :=
  if !gadget.wantsSanitizing then pure (some content)
  else do
    match ← guard.sanitize gadget content with
    | (sanitized, none) => return some sanitized.touched
    | (_, some (.failed cause)) => do
      Traced.report (failure gadget cause)
      return some (content.replaced "")
    | (_, some .crashed) => do
      Traced.report (crash gadget)
      return some (content.replaced "")
    | (_, some .endless) => return none

end ContentGuard

end GadgetGuard
