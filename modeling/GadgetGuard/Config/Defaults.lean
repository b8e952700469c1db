import GadgetGuard.Config.Basic
import GadgetGuard.Config.Error
import GadgetGuard.Log.Event
/-!
# Defaults of a configuration

A configuration as loaded holds only what its files say. Its defaults are filled in so that
it shows the settings that are in effect, as far as it can be read at all.
-/

namespace GadgetGuard.Config

def ofJson (value : Json) : Except ConfigError Config :=
  (record.read value).mapError .invalid

def unreadableEvent (cause : ConfigError) : Event :=
  { level := .debug, target := "config"
    message := "deserialization failed, using all defaults: " ++ cause.message
    fields := [] }

/-- The settings of a value, or all defaults if it cannot be read. -/
def orDefault (value : Json) : Traced Config :=
  match ofJson value with
  | .ok config => pure config
  | .error cause => do
    Traced.report (unreadableEvent cause)
    return {}

/-- Fills in what a value lacks. A value that is no object is replaced. -/
def complete (value : Json) : Traced Json := do
  let root := if value.isObject then value else .object []
  let config ← orDefault root
  return root.withDefaults config.toJson

end GadgetGuard.Config
