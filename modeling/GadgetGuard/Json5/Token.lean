import GadgetGuard.Json5.Number
import GadgetGuard.Json5.Text
import GadgetGuard.Text.BlockComment
import GadgetGuard.Text.Cut
/-!
# Tokens of JSON5

A text is cut into punctuation, numbers, strings and names. Spaces and comments stand
between tokens and are dropped.
-/

namespace GadgetGuard.Json5

open GadgetGuard.Text

inductive Token
  | mark (c : Char)
  | number (value : Json)
  | text (content : String)
  /-- A name, and whether it is written without escapes. -/
  | name (content : String) (isPlain : Bool)
  deriving DecidableEq, Repr

def isMark (c : Char) : Bool :=
  "\x7b\x7d[],:".toList.contains c

def startsNumber (c : Char) : Bool :=
  c.isDigit || c == '+' || c == '-' || c == '.'

/-- Characters that can only continue a number that stands before them. -/
def isNumberCharacter (c : Char) : Bool :=
  startsNumber c || c.isAlpha

/-- Drops spaces and comments. A comment without an end is no comment. -/
def skipSpace : List Char → List Char
  | '/' :: '/' :: rest => skipSpace (rest.dropWhile (! isLineEnd ·))
  | '/' :: '*' :: rest =>
    match _h : afterComment? rest with
    | some after => skipSpace after
    | none => '/' :: '*' :: rest
  | c :: rest => if isSpace c then skipSpace rest else c :: rest
  | [] => []
termination_by text => text.length
decreasing_by
  · have := length_dropWhile_le (! isLineEnd ·) rest
    simp
    omega
  · have := afterComment?_length _h
    simp
    omega
  · simp

theorem skipSpace_length (text : List Char) : (skipSpace text).length ≤ text.length := by
  fun_induction skipSpace text with
  | case1 rest ih =>
    have := length_dropWhile_le (! isLineEnd ·) rest
    simp
    omega
  | case2 rest after h ih =>
    have := afterComment?_length h
    simp
    omega
  | case4 c rest _ _ _ ih => simp; omega
  | case3 | case5 | case6 => simp

/-- The text of a name or string. -/
def textOf? (parts : List Part) : Option String :=
  (characters? parts).map String.ofList

/-- Reads the token that starts with a character, and returns what follows. -/
def firstToken? (c : Char) (rest : List Char) : Option (Token × List Char) :=
  if isMark c then some (.mark c, rest)
  else if c = '"' || c = '\'' then do
    let (parts, after) ← readString? c rest
    return (.text (← textOf? parts), after)
  else if startsNumber c then do
    let value ← number? (c :: rest.takeWhile isNumberCharacter)
    return (.number value, rest.dropWhile isNumberCharacter)
  else
    match readName startsName (c :: rest) with
    | ([], _) => none
    | (parts, after) => do
      let isPlain := parts.all fun part => part matches .character _
      return (.name (← textOf? parts) isPlain, after)

theorem firstToken?_length {c : Char} {rest after : List Char} {token : Token}
    (h : firstToken? c rest = some (token, after)) : after.length ≤ rest.length := by
  unfold firstToken? at h
  split at h
  · simp_all
  · split at h
    · simp only [Option.bind_eq_bind, Option.bind_eq_some_iff, Option.pure_def,
        Option.some.injEq, Prod.exists, Prod.mk.injEq] at h
      obtain ⟨parts, after', hstring, _, _, _, rfl⟩ := h
      exact Nat.le_of_lt (readString?_length hstring)
    · split at h
      · simp only [Option.bind_eq_bind, Option.bind_eq_some_iff, Option.pure_def,
          Option.some.injEq, Prod.mk.injEq] at h
        obtain ⟨_, _, _, rfl⟩ := h
        exact length_dropWhile_le _ _
      · split at h
        · simp at h
        next parts after' hne heq =>
          simp only [Option.bind_eq_bind, Option.bind_eq_some_iff, Option.pure_def,
            Option.some.injEq, Prod.mk.injEq] at h
          obtain ⟨_, _, _, rfl⟩ := h
          have hlength : (readName startsName (c :: rest)).2.length < (c :: rest).length :=
            readName_length_of_ne_nil (by simpa [heq] using hne)
          simpa [heq] using Nat.le_of_lt_succ hlength

/-- The tokens of a text, if it consists of tokens. -/
def tokens? (text : List Char) : Option (List Token) :=
  match _hskip : skipSpace text with
  | [] => some []
  | c :: rest =>
    match _hfirst : firstToken? c rest with
    | none => none
    | some (token, after) => (tokens? after).map (token :: ·)
termination_by text.length
decreasing_by
  have hskip := skipSpace_length text
  have hfirst := firstToken?_length _hfirst
  rw [_hskip] at hskip
  simp at hskip
  omega

end GadgetGuard.Json5
