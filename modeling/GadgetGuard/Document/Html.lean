import GadgetGuard.Document.Basic
/-!
# Documents as text

A document is written as HTML, with every character that could be taken for markup
replaced. The text of a node is what its text nodes hold, one after the other. Neither ends
for a node that is below itself, so both are missing there.
-/

namespace GadgetGuard

open GadgetGuard.Text

namespace Document

/-- Elements written without a closing tag when they have no children. -/
def voidElements : List String :=
  ["area", "base", "br", "col", "embed", "hr", "img", "input", "link", "meta", "param",
    "source", "track", "wbr"]

/-- Elements whose text is written as it is. -/
def rawTextElements : List String :=
  ["script", "style"]

def escapeTextCharacter : Char → List Char
  | '&' => "&amp;".toList
  | '<' => "&lt;".toList
  | '>' => "&gt;".toList
  | c => [c]

def escapeValueCharacter : Char → List Char
  | '"' => "&quot;".toList
  | c => escapeTextCharacter c

def escapeText (content : String) : String :=
  String.ofList (content.toList.flatMap escapeTextCharacter)

def escapeValue (value : String) : String :=
  String.ofList (value.toList.flatMap escapeValueCharacter)

/-- Whether a reference of this name may be written: a name of letters and digits, or a
number after `#`. -/
def isEntityName (name : List Char) : Bool :=
  match name with
  | '#' :: 'x' :: digits | '#' :: 'X' :: digits => !digits.isEmpty && digits.all isHexDigit
  | '#' :: digits => !digits.isEmpty && digits.all Char.isDigit
  | first :: rest => first.isAlpha && rest.all Char.isAlphanum
  | [] => false

def entityHtml (name : String) : String :=
  if isEntityName name.toList then "&" ++ name ++ ";"
  else "&amp;" ++ escapeText name ++ ";"

def attributeHtml (a : Attribute) : String :=
  " " ++ a.name ++ "=\"" ++ escapeValue a.value ++ "\""

def openingTag (name : String) (attributes : List Attribute) : String :=
  "<" ++ name ++ String.join (attributes.map attributeHtml) ++ ">"

def closingTag (name : String) : String :=
  "</" ++ name ++ ">"

/-- Puts the texts of several nodes together, if all have one. -/
def joined (texts : List (Option String)) : Option String :=
  (texts.mapM id).map String.join

/-- Writes a node and what is below it, to the given depth. -/
def htmlWithin (document : Document) : Nat → Bool → NodeId → Option String
  | 0, _, _ => none
  | depth + 1, isRawText, id =>
    match document.data? id with
    | none => some ""
    | some .document => joined ((document.children id).map (htmlWithin document depth false))
    | some (.element name attributes) =>
      let children := document.children id
      if voidElements.contains (lower name) && children.isEmpty then
        some (openingTag name attributes)
      else
        let isRaw := rawTextElements.contains (lower name)
        (joined (children.map (htmlWithin document depth isRaw))).map fun inner =>
          openingTag name attributes ++ inner ++ closingTag name
    | some (.text content) | some (.cdata content) =>
      some (if isRawText then content else escapeText content)
    | some (.entity name) => some (entityHtml name)
    | some (.comment content) => some ("<!--" ++ content ++ "-->")
    | some (.other markup) => some markup

/-- The HTML of a node and everything below it. -/
def nodeHtml? (document : Document) (id : NodeId) : Option String :=
  document.htmlWithin (document.nodes.size + 1) false id

def html? (document : Document) : Option String :=
  document.nodeHtml? root

/-- The text of a node, to the given depth. -/
def textWithin (document : Document) : Nat → NodeId → Option String
  | 0, _ => none
  | depth + 1, id =>
    match document.data? id with
    | some (.text content) | some (.cdata content) => some content
    | _ => joined ((document.children id).map (textWithin document depth))

def text? (document : Document) (id : NodeId) : Option String :=
  document.textWithin (document.nodes.size + 1) id

end Document

end GadgetGuard
