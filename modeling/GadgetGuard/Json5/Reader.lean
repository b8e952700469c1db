import GadgetGuard.Json5.Token
/-!
# Reading JSON5

A text is one value. Lists and objects may end in a comma, and of several members of one
name the last counts.
-/

namespace GadgetGuard.Json5

open GadgetGuard.Text

/-- A part of the tokens that is left after some were read. -/
abbrev Rest (tokens : List Token) := { rest : List Token // rest.length < tokens.length }

def Rest.within {shorter tokens : List Token} (rest : Rest shorter)
    (h : shorter.length ≤ tokens.length) : Rest tokens :=
  ⟨rest.1, Nat.lt_of_lt_of_le rest.2 h⟩

theorem Rest.length_lt {tokens after : List Token} {token : Token} (rest : Rest tokens)
    (h : rest.1 = token :: after) : after.length < tokens.length := by
  have hrest := rest.2
  rw [h, List.length_cons] at hrest
  exact Nat.lt_of_succ_lt hrest

/-- The values that are written as names. -/
def namedValue? (name : String) : Option Json :=
  match name with
  | "null" => some .null
  | "true" => some (.boolean true)
  | "false" => some (.boolean false)
  | "Infinity" | "NaN" => some .null
  | _ => none

/-- The name of a member, before its colon. -/
def memberName? : Token → Option String
  | .text content => some content
  | .name content _ => some content
  | _ => none

mutual

def value? (tokens : List Token) : Option (Json × Rest tokens) :=
  match tokens with
  | .number value :: rest => some (value, ⟨rest, by simp⟩)
  | .text content :: rest => some (.string content, ⟨rest, by simp⟩)
  | .name content true :: rest =>
    (namedValue? content).map fun value => (value, ⟨rest, by simp⟩)
  | .mark '[' :: rest => do
    let (items, after) ← items? rest
    return (.array items, after.within (by simp))
  | .mark '\x7b' :: rest => do
    let (members, after) ← members? rest
    return (.ofMembers members, after.within (by simp))
  | _ => none
termination_by (tokens.length, 0)

/-- The items of a list up to its closing bracket. -/
def items? (tokens : List Token) : Option (List Json × Rest tokens) :=
  match tokens with
  | .mark ']' :: rest => some ([], ⟨rest, by simp⟩)
  | tokens => do
    let (item, rest) ← value? tokens
    match h : rest.1 with
    | .mark ']' :: after => return ([item], ⟨after, rest.length_lt h⟩)
    | .mark ',' :: more =>
      let (items, after) ← items? more
      return (item :: items, after.within (Nat.le_of_lt (rest.length_lt h)))
    | _ => none
termination_by (tokens.length, 1)
decreasing_by
  · exact Prod.Lex.right _ (by decide)
  · exact Prod.Lex.left _ _ (rest.length_lt h)

/-- The members of an object up to its closing brace. -/
def members? (tokens : List Token) : Option (List Json.Member × Rest tokens) :=
  match tokens with
  | .mark '\x7d' :: rest => some ([], ⟨rest, by simp⟩)
  | first :: .mark ':' :: tokens => do
    let name ← memberName? first
    let (value, rest) ← value? tokens
    match h : rest.1 with
    | .mark '\x7d' :: after =>
      return ([(name, value)], ⟨after, Nat.lt_add_right 2 (rest.length_lt h)⟩)
    | .mark ',' :: more =>
      let (members, after) ← members? more
      return ((name, value) :: members,
        after.within (Nat.le_of_lt (Nat.lt_add_right 2 (rest.length_lt h))))
    | _ => none
  | _ => none
termination_by (tokens.length, 1)
decreasing_by
  · exact Prod.Lex.left _ _ (by simp only [List.length_cons]; omega)
  · exact Prod.Lex.left _ _ (Nat.lt_add_right 2 (rest.length_lt h))

end

end Json5

/-- Reads a JSON5 text. -/
def Json.ofJson5? (text : List Char) : Option Json := do
  let tokens ← Json5.tokens? text
  let (value, rest) ← Json5.value? tokens
  if rest.1.isEmpty then some value else none

end GadgetGuard
