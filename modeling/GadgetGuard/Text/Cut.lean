/-!
# Cutting texts

Texts are cut at a character, and checked for a beginning or an end.
-/

namespace GadgetGuard.Text

theorem length_dropWhile_le (p : Char → Bool) (text : List Char) :
    (text.dropWhile p).length ≤ text.length :=
  (List.dropWhile_sublist p).length_le

/-- Splits at every separator; the parts are one more than the separators. -/
def splitAt (isSeparator : Char → Bool) : List Char → List (List Char)
  | [] => [[]]
  | c :: rest =>
    if isSeparator c then [] :: splitAt isSeparator rest
    else match splitAt isSeparator rest with
      | [] => [[c]]
      | part :: parts => (c :: part) :: parts

/-- The text before the first occurrence of `c` and the text after it, if it occurs. -/
def cut (c : Char) (text : List Char) : List Char × Option (List Char) :=
  match text.span (· != c) with
  | (before, []) => (before, none)
  | (before, _ :: after) => (before, some after)

/-- The text before the last occurrence of `c` and the text after it, if it occurs. -/
def cutLast (c : Char) (text : List Char) : Option (List Char × List Char) :=
  match text.reverse.span (· != c) with
  | (_, []) => none
  | (after, _ :: before) => some (before.reverse, after.reverse)

/-- What follows a given beginning, if the text has it. -/
def stripStart? : List Char → List Char → Option (List Char)
  | [], text => some text
  | _ :: _, [] => none
  | b :: beginning, c :: text => if b = c then stripStart? beginning text else none

def hasEnding (ending text : String) : Bool :=
  ending.toList.isSuffixOf text.toList

def hasBeginning (beginning text : String) : Bool :=
  beginning.toList.isPrefixOf text.toList

end GadgetGuard.Text
