import GadgetGuard.Text.BlockComment
/-!
# Comments of stylesheets

A comment runs from `/*` to the next `*/`. What is never closed is no comment.
-/

namespace GadgetGuard.Style

open GadgetGuard.Text

def removeComments : List Char → List Char
  | [] => []
  | '/' :: '*' :: body =>
    match _hclose : afterComment? body with
    | some rest => removeComments rest
    | none => '/' :: removeComments ('*' :: body)
  | c :: rest => c :: removeComments rest
termination_by text => text.length
decreasing_by
  · have := afterComment?_length _hclose
    simp only [List.length_cons]
    omega
  · simp
  · simp

end GadgetGuard.Style
