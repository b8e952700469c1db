import GadgetGuard.Text.Ascii
/-!
# Sanitizing policies

What may stay in sanitized content: the names of elements and attributes, and which
attributes hold links and which of them have to go through the proxy. Names are compared
without regard to case.
-/

namespace GadgetGuard

open GadgetGuard.Text

structure Policy where
  tags : List String
  attributes : List String
  linkAttributes : List String
  /-- Pairs of an element and an attribute whose links always go through the proxy. -/
  proxied : List (String × String)
  deriving DecidableEq, Repr

namespace Policy

def defaultTags : List String :=
  ["a", "abbr", "acronym", "area", "b", "bdo", "big", "blockquote", "body", "br", "caption",
    "center", "cite", "code", "col", "colgroup", "dd", "del", "dfn", "div", "dl", "dt", "em",
    "font", "h1", "h2", "h3", "h4", "h5", "h6", "head", "hr", "html", "i", "img", "ins",
    "legend", "li", "map", "ol", "p", "pre", "q", "s", "samp", "small", "span", "strike",
    "strong", "style", "sub", "sup", "table", "tbody", "td", "tfoot", "th", "thead", "tr",
    "tt", "u", "ul"]

def defaultAttributes : List String :=
  ["abbr", "align", "alt", "axis", "bgcolor", "border", "cellpadding", "cellspacing", "char",
    "charoff", "cite", "class", "clear", "color", "cols", "colspan", "compact", "coords",
    "datetime", "dir", "face", "headers", "height", "href", "hreflang", "hspace", "id",
    "ismap", "lang", "longdesc", "name", "nohref", "noshade", "nowrap", "rel", "rev",
    "rowspan", "rules", "scope", "shape", "size", "span", "src", "start", "summary",
    "tabindex", "target", "title", "type", "valign", "value", "vspace", "width"]

/-- A policy for the given names, under which images go through the proxy. -/
def of (tags attributes : List String) : Policy :=
  { tags := tags.map lower
    attributes := attributes.map lower
    linkAttributes := ["href", "src"]
    proxied := [("img", "src")] }

def default : Policy :=
  of defaultTags defaultAttributes

/-- Sends the links of one more attribute through the proxy. -/
def withProxied (policy : Policy) (tag attributeName : String) : Policy :=
  { policy with proxied := policy.proxied ++ [(lower tag, lower attributeName)] }

def allowsTag (policy : Policy) (tag : String) : Bool :=
  policy.tags.contains (lower tag)

def allowsAttribute (policy : Policy) (name : String) : Bool :=
  policy.attributes.contains (lower name)

def isLinkAttribute (policy : Policy) (name : String) : Bool :=
  policy.linkAttributes.contains (lower name)

def isProxied (policy : Policy) (tag attributeName : String) : Bool :=
  policy.proxied.contains (lower tag, lower attributeName)

/-- A link without a scheme is relative and always allowed. -/
def allowsScheme (scheme : Option String) : Bool :=
  match scheme with
  | none => true
  | some scheme => ["http", "https"].any (equalIgnoringCase scheme)

end Policy

end GadgetGuard
