import GadgetGuard.Json.Basic
/-!
# Issues of a configuration

What looks like a mistake in a configuration but does not keep it from being used.
-/

namespace GadgetGuard.Config

structure Issue where
  path : String
  message : String
  deriving DecidableEq, Repr

def sectionNames : List String :=
  ["server", "proxy", "sanitizer", "logging"]

/-- Fields that hold numbers, with their sections. -/
def numericFields : List (String × String) :=
  [("server", "port"), ("proxy", "longLivedRefreshSecs"), ("proxy", "defaultRefreshSecs"),
    ("proxy", "timeoutMs"), ("proxy", "maxResponseBytes"), ("sanitizer", "expires")]

def unknownSection (name : String) : Issue :=
  ⟨"." ++ name, "Unknown configuration key: " ++ name⟩

def isNumberOrNull (value : Json) : Bool :=
  value.isNumber || value == .null

def fieldIssue? (root : Json) (field : String × String) : Option Issue :=
  match (root.get? field.1).bind (·.get? field.2) with
  | some value =>
    if isNumberOrNull value then none
    else some ⟨"." ++ field.1 ++ "." ++ field.2, field.2 ++ " must be a number"⟩
  | none => none

def issues (root : Json) : List Issue :=
  match root with
  | .object members =>
    ((members.map (·.1)).filter (! sectionNames.contains ·)).map unknownSection ++
      numericFields.filterMap (fieldIssue? root)
  | _ => [⟨".", "Config root must be an object"⟩]

end GadgetGuard.Config
