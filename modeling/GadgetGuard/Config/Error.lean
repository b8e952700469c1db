import GadgetGuard.Config.Format
/-!
# Errors of configurations

Why a configuration cannot be used. Most errors name the file in which they lie.
-/

namespace GadgetGuard

/-- Includes may be nested this deep below the file that is loaded. -/
def maxIncludeDepth : Nat := 10

inductive ConfigError
  | syntaxError (path : String)
  | unreadable (path : String)
  | circularInclude (path : String)
  | includeTooDeep (path : String)
  | includeNotFound (path : String)
  | invalidDirective (path : String)
  | includeNotObject (path : String)
  | missingVariable (name : String)
  | invalid (cause : Config.FormatError)
  deriving DecidableEq, Repr

def ConfigError.message : ConfigError → String
  | syntaxError path => "Failed to parse JSON5 at " ++ path ++ ": not a JSON5 value"
  | unreadable path => "Failed to read config file " ++ path ++ ": not a text file"
  | circularInclude path => "Circular include detected: " ++ path
  | includeTooDeep path =>
    "Include depth exceeded (max " ++ Nat.repr maxIncludeDepth ++ "): " ++ path
  | includeNotFound path => "Include file not found: " ++ path
  | invalidDirective path => "$include must be a string or an array of strings at " ++ path
  | includeNotObject path =>
    "Included content must be an object when merged with sibling keys at " ++ path
  | missingVariable name => "Missing environment variable: " ++ name
  | invalid cause => "Validation error at .: " ++ cause.message

end GadgetGuard
