/-!
# Comments between `/*` and `*/`

A comment ends at the first `*/` after its beginning.
-/

namespace GadgetGuard.Text

/-- What follows the next `*/`, if there is one. -/
def afterComment? : List Char → Option (List Char)
  | '*' :: '/' :: rest => some rest
  | _ :: rest => afterComment? rest
  | [] => none

theorem afterComment?_length {text rest : List Char} (h : afterComment? text = some rest) :
    rest.length < text.length := by
  fun_induction afterComment? text with
  | case1 rest' =>
    obtain rfl := Option.some.inj h
    simp only [List.length_cons]
    omega
  | case2 c rest' _ ih => exact Nat.lt_succ_of_lt (ih h)
  | case3 => exact absurd h (by simp)

end GadgetGuard.Text
