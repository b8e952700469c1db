import GadgetGuard.Config.Defaults
import GadgetGuard.Config.Include
import GadgetGuard.Config.Variable
/-!
# Loading a configuration

The configuration is a JSON5 file. Its includes are resolved, environment variables are put
in, and defaults fill what is missing. Without a file all settings are defaults.
-/

namespace GadgetGuard.Config

def missingFile (path : String) : Event :=
  { level := .debug, target := "config", message := "no config file, using defaults"
    fields := [("path", .text path)] }

/-- What a configuration file says, without defaults. -/
def loadFile (files : FileSystem) (environment : Environment) (path : String) (entry : Entry) :
    Except ConfigError Json := do
  let resolved ← resolveRoot files path entry
  substituteAll environment resolved

/-- Loads the configuration at a path. -/
def load (files : FileSystem) (environment : Environment) (path : String) :
    Traced (Except ConfigError Json) :=
  match files path with
  | none => do
    Traced.report (missingFile path)
    return .ok (← complete (.object []))
  | some entry =>
    match loadFile files environment path entry with
    | .error cause => pure (.error cause)
    | .ok value => do return .ok (← complete value)

def pathVariable : String := "GADGET_SHIELD_CONFIG_PATH"

def directoryName : String := ".gadget-shield"

def homeDirectory (environment : Environment) : String :=
  ((environment "HOME").filter (! ·.isEmpty)).getD "."

def inDirectory (environment : Environment) (name : String) : String :=
  Path.joined (Path.joined (homeDirectory environment) directoryName) name

/-- Where the configuration is: where the environment says, or in the home directory. -/
def path (files : FileSystem) (environment : Environment) : String :=
  match environment pathVariable with
  | some path => path
  | none =>
    let preferred := inDirectory environment "config.json5"
    if (files preferred).isSome then preferred else inDirectory environment "config.json"

/-- The paths at which the configuration may be. -/
def candidates (environment : Environment) : List String :=
  match environment pathVariable with
  | some path => [path]
  | none => [inDirectory environment "config.json5", inDirectory environment "config.json"]

end GadgetGuard.Config
