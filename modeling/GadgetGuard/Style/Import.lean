import GadgetGuard.Style.Keyword
import GadgetGuard.Text.Cut
/-!
# Imports of stylesheets

An import runs from `@import` to the next semicolon, or to the end.
-/

namespace GadgetGuard.Style

open GadgetGuard.Text

/-- What follows the next semicolon, or nothing. -/
def afterSemicolon (text : List Char) : List Char :=
  (text.dropWhile (· != ';')).drop 1

def removeImports : List Char → List Char
  | [] => []
  | c :: rest =>
    match _himport : afterKeyword? "@import".toList (c :: rest) with
    | some body => removeImports (afterSemicolon body)
    | none => c :: removeImports rest
termination_by text => text.length
decreasing_by
  · have hkeyword := afterKeyword?_length _himport
    have hdrop := length_dropWhile_le (· != ';') body
    have hlength : "@import".toList.length = 7 := rfl
    simp only [afterSemicolon, List.length_drop, List.length_cons] at *
    omega
  · simp

end GadgetGuard.Style
