import GadgetGuard.Config.Error
/-!
# Environment variables in a configuration

In every text of a configuration `${NAME}` stands for the value of an environment variable,
with names of upper-case letters, digits and underscores. One more dollar sign in front
keeps the reference as it is. Values are not looked through again.
-/

namespace GadgetGuard

/-- The values of the environment variables that are set. -/
abbrev Environment := String → Option String

namespace Config

def startsVariable (c : Char) : Bool :=
  c.isUpper || c == '_'

def continuesVariable (c : Char) : Bool :=
  startsVariable c || c.isDigit

/-- Reads a name and the brace that closes the reference, and returns what follows. -/
def reference? (text : List Char) : Option (List Char × List Char) :=
  let name := text.takeWhile continuesVariable
  match name, text.dropWhile continuesVariable with
  | first :: _, '\x7d' :: after => if startsVariable first then some (name, after) else none
  | _, _ => none

theorem reference?_length {text name after : List Char} (h : reference? text = some (name, after)) :
    after.length < text.length := by
  simp only [reference?] at h
  have hlength := (List.dropWhile_sublist continuesVariable (l := text)).length_le
  split at h
  next heq =>
    rw [heq] at hlength
    simp only [List.length_cons] at hlength
    split at h
    · simp only [Option.some.injEq, Prod.mk.injEq] at h
      rw [← h.2]
      omega
    · simp at h
  · simp at h

/-- Replaces every reference; the first variable that is not set is the error. -/
def substitute (environment : Environment) : List Char → Except ConfigError (List Char)
  | '$' :: '$' :: '\x7b' :: rest =>
    match _h : reference? rest with
    | some (name, after) =>
      (substitute environment after).map (['$', '\x7b'] ++ name ++ '\x7d' :: ·)
    | none => (substitute environment ('$' :: '\x7b' :: rest)).map ('$' :: ·)
  | '$' :: '\x7b' :: rest =>
    match _h : reference? rest with
    | some (name, after) =>
      match environment (String.ofList name) with
      | some value => (substitute environment after).map (value.toList ++ ·)
      | none => .error (.missingVariable (String.ofList name))
    | none => (substitute environment ('\x7b' :: rest)).map ('$' :: ·)
  | c :: rest => (substitute environment rest).map (c :: ·)
  | [] => .ok []
termination_by text => text.length
decreasing_by
  all_goals
    try have := reference?_length _h
    simp only [List.length_cons]
    omega

mutual

/-- Replaces the references in every text of a value. -/
def substituteAll (environment : Environment) : Json → Except ConfigError Json
  | .string text => (substitute environment text.toList).map fun text =>
      .string (String.ofList text)
  | .array items => (substituteItems environment items).map .array
  | .object members => (substituteMembers environment members).map .object
  | scalar => .ok scalar

def substituteItems (environment : Environment) : List Json → Except ConfigError (List Json)
  | [] => .ok []
  | item :: items => do
    let item ← substituteAll environment item
    return item :: (← substituteItems environment items)

def substituteMembers (environment : Environment) :
    List Json.Member → Except ConfigError (List Json.Member)
  | [] => .ok []
  | (name, value) :: members => do
    let value ← substituteAll environment value
    return (name, value) :: (← substituteMembers environment members)

end

end Config

end GadgetGuard
