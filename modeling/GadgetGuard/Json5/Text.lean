import GadgetGuard.Text.Ascii
import GadgetGuard.Unicode.Letter
/-!
# Strings and names in JSON5

A string stands between quotes of either kind and a name stands alone. Both may hold escapes
of UTF-16 units, of which two that form a pair give one character.
-/

namespace GadgetGuard.Json5

open GadgetGuard.Text GadgetGuard.Unicode

/-- What a string or a name is read into before units are paired. -/
inductive Part
  | character (c : Char)
  | unit (value : Nat)
  deriving DecidableEq, Repr

def isLineEnd (c : Char) : Bool :=
  c == '\n' || c == '\r' || c == '\u2028' || c == '\u2029'

/-- Characters between tokens. -/
def isSpace (c : Char) : Bool :=
  let n := c.toNat
  isLineEnd c || n == 0x09 || n == 0x0B || n == 0x0C || n == 0x20 || n == 0xA0 || n == 0x1680 ||
    (0x2000 ≤ n && n ≤ 0x200A) || n == 0x202F || n == 0x205F || n == 0x3000 || n == 0xFEFF

def isLeadingUnit (unit : Nat) : Bool :=
  0xD800 ≤ unit && unit < 0xDC00

def isTrailingUnit (unit : Nat) : Bool :=
  0xDC00 ≤ unit && unit < 0xE000

/-- Joins the units of each pair. A unit of a pair that stands alone is refused. -/
def characters? : List Part → Option (List Char)
  | [] => some []
  | .character c :: parts => (characters? parts).map (c :: ·)
  | .unit leading :: .unit trailing :: parts =>
    if isLeadingUnit leading then
      if isTrailingUnit trailing then
        (characters? parts).map
          (Char.ofNat (0x10000 + (leading - 0xD800) * 0x400 + (trailing - 0xDC00)) :: ·)
      else none
    else if isTrailingUnit leading then none
    else (characters? (.unit trailing :: parts)).map (Char.ofNat leading :: ·)
  | .unit value :: parts =>
    if isLeadingUnit value || isTrailingUnit value then none
    else (characters? parts).map (Char.ofNat value :: ·)

/-- What a backslash before a character stands for. -/
def escape? (c : Char) : Option Char :=
  if c = 'b' then some '\x08'
  else if c = 'f' then some '\x0c'
  else if c = 'n' then some '\n'
  else if c = 'r' then some '\r'
  else if c = 't' then some '\t'
  else if c = 'v' then some '\x0b'
  else if c = '0' then some '\x00'
  else if c.isDigit || c = 'x' || c = 'u' then none
  else some c

/-- Reads a string up to its closing quote, and returns what follows. -/
def readString? (quote : Char) : List Char → Option (List Part × List Char)
  | [] => none
  | '\\' :: '\r' :: '\n' :: rest => readString? quote rest
  | '\\' :: 'x' :: a :: b :: rest => do
    let value ← numberOfDigits? 16 [a, b]
    let (parts, after) ← readString? quote rest
    return (.character (Char.ofNat value) :: parts, after)
  | '\\' :: 'u' :: a :: b :: c :: d :: rest => do
    let value ← numberOfDigits? 16 [a, b, c, d]
    let (parts, after) ← readString? quote rest
    return (.unit value :: parts, after)
  | '\\' :: c :: rest =>
    if isLineEnd c then readString? quote rest
    else do
      let escaped ← escape? c
      let (parts, after) ← readString? quote rest
      return (.character escaped :: parts, after)
  | c :: rest =>
    if c = quote then some ([], rest)
    else if c = '\\' || isLineEnd c then none
    else do
      let (parts, after) ← readString? quote rest
      return (.character c :: parts, after)

theorem readString?_length {quote : Char} {text after : List Char} {parts : List Part}
    (h : readString? quote text = some (parts, after)) : after.length < text.length := by
  fun_induction readString? quote text generalizing parts with
  | case1 => simp at h
  | case2 rest ih => have := ih h; simp; omega
  | case3 a b rest ih | case4 a b c d rest ih =>
    simp only [Option.bind_eq_bind, Option.bind_eq_some_iff, Option.pure_def, Option.some.injEq,
      Prod.exists, Prod.mk.injEq] at h
    obtain ⟨_, _, parts', after', hrest, _, rfl⟩ := h
    have := ih hrest
    simp
    omega
  | case5 c rest _ _ _ _ ih => have := ih h; simp; omega
  | case6 c rest _ _ _ _ ih =>
    simp only [Option.bind_eq_bind, Option.bind_eq_some_iff, Option.pure_def, Option.some.injEq,
      Prod.exists, Prod.mk.injEq] at h
    obtain ⟨_, _, parts', after', hrest, _, rfl⟩ := h
    have := ih hrest
    simp
    omega
  | case7 => simp_all
  | case8 => simp at h
  | case9 c rest _ _ _ _ _ _ ih =>
    simp only [Option.bind_eq_bind, Option.bind_eq_some_iff, Option.pure_def, Option.some.injEq,
      Prod.exists, Prod.mk.injEq] at h
    obtain ⟨parts', after', hrest, _, rfl⟩ := h
    have := ih hrest
    simp
    omega

def startsName (c : Char) : Bool :=
  isLetter c || c == '$' || c == '_'

def continues (c : Char) : Bool :=
  startsName c || continuesName c || c == '\u200C' || c == '\u200D'

/-- Reads the rest of a name, and returns what follows it. An escape may stand for any
character. -/
def readName (isAllowed : Char → Bool) : List Char → List Part × List Char
  | '\\' :: 'u' :: a :: b :: c :: d :: rest =>
    match numberOfDigits? 16 [a, b, c, d] with
    | some value =>
      let (parts, after) := readName continues rest
      (.unit value :: parts, after)
    | none => ([], '\\' :: 'u' :: a :: b :: c :: d :: rest)
  | c :: rest =>
    if isAllowed c then
      let (parts, after) := readName continues rest
      (.character c :: parts, after)
    else ([], c :: rest)
  | [] => ([], [])

theorem readName_length (isAllowed : Char → Bool) (text : List Char) :
    (readName isAllowed text).2.length ≤ text.length := by
  fun_induction readName isAllowed text <;> simp_all <;> omega

theorem readName_length_of_ne_nil {isAllowed : Char → Bool} {text : List Char}
    (h : (readName isAllowed text).1 ≠ []) :
    (readName isAllowed text).2.length < text.length := by
  have hlength := readName_length continues
  fun_induction readName isAllowed text with
  | case1 isAllowed a b c d rest value _ _ after heq =>
    have := hlength rest
    rw [heq] at this
    simp at this ⊢
    omega
  | case3 isAllowed c rest _ _ _ after heq =>
    have := hlength rest
    rw [heq] at this
    simpa using Nat.lt_succ_of_le this
  | case2 | case4 | case5 => simp at h

end GadgetGuard.Json5
