/-!
# Keywords of stylesheets

Keywords are recognised in any case. Case folding covers all of Unicode, and of the
characters beyond ASCII two fold to ASCII letters: the long s and the Kelvin sign.
-/

namespace GadgetGuard.Style

def foldLetter (c : Char) : Char :=
  if c = '\u017F' then 's' else if c = '\u212A' then 'k' else c.toLower

/-- What follows a keyword, given in lower case, if the text starts with it. -/
def afterKeyword? : List Char → List Char → Option (List Char)
  | [], text => some text
  | _ :: _, [] => none
  | k :: keyword, c :: text => if foldLetter c = k then afterKeyword? keyword text else none

def startsWithKeyword (keyword : String) (text : List Char) : Bool :=
  (afterKeyword? keyword.toList text).isSome

theorem afterKeyword?_length {keyword text rest : List Char}
    (h : afterKeyword? keyword text = some rest) :
    rest.length + keyword.length = text.length := by
  induction keyword generalizing text with
  | nil => simp_all [afterKeyword?]
  | cons k keyword ih =>
    cases text with
    | nil => simp [afterKeyword?] at h
    | cons c text =>
      rw [afterKeyword?] at h
      split at h
      · have := ih h
        simp only [List.length_cons]
        omega
      · simp at h

end GadgetGuard.Style
