import GadgetGuard.Config.Basic
import GadgetGuard.Config.Variable
import GadgetGuard.Log.Filter
import GadgetGuard.Log.Line
/-!
# Setting up the log

The log has one logger, which is set up once and for all. What it lets through is said by
the environment, or else by the level of the settings.
-/

namespace GadgetGuard

inductive LogOutput
  | stdout
  | stderr
  | file (path : String)
  deriving DecidableEq, Repr

structure LogSettings where
  format : Config.LogFormat := .plaintext
  output : LogOutput := .stdout
  /-- Counts where the environment says nothing. -/
  level : Level := .info
  deriving DecidableEq, Repr

namespace LogSettings

def development : LogSettings := { level := .debug }

def production : LogSettings := { format := .json }

/-- The settings that a configuration names. A level that cannot be read is the usual one. -/
def ofConfig (logging : Config.Logging) : LogSettings :=
  { format := logging.format, level := (Level.ofText? logging.level).getD .info }

end LogSettings

inductive LogError
  | noFile (detail : String)
  | unreadableFilter
  | alreadySetUp
  | otherLogger
  deriving DecidableEq, Repr

def LogError.message : LogError → String
  | noFile detail => "failed to create log file: " ++ detail
  | unreadableFilter => "failed to parse log filter: invalid filter directive"
  | alreadySetUp => "logging already initialized"
  | otherLogger =>
    "failed to initialize subscriber: a global default trace dispatcher has already been set"

structure Logger where
  filter : LogFilter
  format : Config.LogFormat
  output : LogOutput
  deriving DecidableEq, Repr

namespace Logger

/-- The variables that may hold a filter; the first one that is set counts. -/
def filterVariables : List String :=
  ["GADGET_SHIELD_LOG", "RUST_LOG"]

def filterOf (environment : Environment) (level : Level) : Except LogError LogFilter :=
  match filterVariables.findSome? environment with
  | none => .ok (.atLevel level)
  | some text =>
    match LogFilter.ofText? text with
    | some filter => .ok filter
    | none => .error .unreadableFilter

def ofSettings (environment : Environment) (settings : LogSettings) : Except LogError Logger := do
  let filter ← filterOf environment settings.level
  return { filter, format := settings.format, output := settings.output }

def line (logger : Logger) (time : String) (event : Event) : String :=
  match logger.format with
  | .plaintext => event.plain time
  | .json => event.json time

end Logger

/-- How far the log of a process is set up. -/
structure LogState where
  /-- Whether the program has tried to set it up. -/
  isTried : Bool := false
  logger : Option Logger := none
  /-- The files that were created, in order. -/
  files : List String := []
  deriving DecidableEq, Repr

namespace LogState

/-- Creates the file of a logger. `canCreate` tells which files can be created. -/
def withFile (state : LogState) (canCreate : String → Bool) (logger : Logger) :
    Except LogError LogState :=
  match logger.output with
  | .file path =>
    if canCreate path then .ok { state with files := state.files ++ [path] }
    else .error (.noFile path)
  | _ => .ok state

/-- Sets up the log for the program. Only the first attempt can succeed. -/
def setUp (state : LogState) (environment : Environment) (canCreate : String → Bool)
    (settings : LogSettings) : LogState × Except LogError Unit :=
  if state.isTried then (state, .error .alreadySetUp)
  else
    let tried := { state with isTried := true }
    match do
      let logger ← Logger.ofSettings environment settings
      return (logger, ← tried.withFile canCreate logger) with
    | .error cause => (tried, .error cause)
    | .ok (logger, created) =>
      if created.logger.isSome then (created, .error .otherLogger)
      else ({ created with logger := some logger }, .ok ())

/-- Sets up a log for tests, unless there is one already. -/
def setUpForTests (state : LogState) (environment : Environment) : LogState :=
  match state.logger, Logger.ofSettings environment .development with
  | none, .ok logger => { state with logger := some logger }
  | _, _ => state

/-- The events that are written. -/
def written (state : LogState) (events : List Event) : List Event :=
  match state.logger with
  | some logger => events.filter logger.filter.passes
  | none => []

/-- The lines that are written for events. -/
def lines (state : LogState) (time : String) (events : List Event) : List String :=
  match state.logger with
  | some logger => (state.written events).map (logger.line time)
  | none => []

end LogState

end GadgetGuard
