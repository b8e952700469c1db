import GadgetGuard.Style.Keyword
import GadgetGuard.Text.Blank
/-!
# Script hooks of stylesheets

Some browsers run script from a stylesheet: through `expression(...)`, the properties
`behavior` and `-moz-binding`, and `javascript:` links. A backslash could spell any of
them. A stretch between separators that holds such a hook is dropped whole.
-/

namespace GadgetGuard.Style

open GadgetGuard.Text

def isSeparator (c : Char) : Bool :=
  c == ';' || c == '\x7b' || c == '\x7d'

def startsWithExpression (text : List Char) : Bool :=
  match afterKeyword? "expression".toList text with
  | some rest => (rest.dropWhile isBlank).head? == some '('
  | none => false

def startsWithHook (text : List Char) : Bool :=
  text.head? == some '\\' || startsWithKeyword "behavior" text ||
    startsWithKeyword "-moz-binding" text || startsWithKeyword "javascript:" text ||
    startsWithExpression text

def hasHook : List Char → Bool
  | [] => false
  | c :: rest => startsWithHook (c :: rest) || hasHook rest

/-- Drops every stretch that holds a hook, and the semicolon that ends it. -/
def removeHooked (text : List Char) : List Char :=
  let stretch := text.takeWhile (! isSeparator ·)
  let kept := if hasHook stretch then [] else stretch
  match _hrest : text.dropWhile (! isSeparator ·) with
  | [] => kept
  | separator :: rest =>
    if hasHook stretch && separator == ';' then removeHooked rest
    else kept ++ separator :: removeHooked rest
termination_by text.length
decreasing_by
  all_goals
    have := (List.dropWhile_sublist (! isSeparator ·) (l := text)).length_le
    rw [_hrest, List.length_cons] at this
    omega

end GadgetGuard.Style
