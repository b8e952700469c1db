import GadgetGuard.CommandLine
import GadgetGuard.Config.Issue
import GadgetGuard.Config.Load
import GadgetGuard.Log.Setup
import GadgetGuard.Server.Startup
/-!
# The program

What each command does. The commands that inspect write text and end; the one that starts a
server prepares it, and reports on its way to the end.
-/

namespace GadgetGuard

inductive ProgramError
  | config (cause : ConfigError)
  | logging (cause : LogError)
  | startup (cause : StartupError)
  deriving DecidableEq, Repr

def ProgramError.message : ProgramError → String
  | config cause => cause.message
  | logging cause => cause.message
  | startup cause => cause.message

namespace Program

/-- What a command that inspects writes, and whether it fails. -/
structure Outcome where
  stdout : String := ""
  stderr : String := ""
  failure : Option ProgramError := none
  deriving DecidableEq, Repr

def warning (issue : Config.Issue) : String :=
  "warning: " ++ issue.path ++ ": " ++ issue.message ++ "\n"

/-- Shows the configuration with its defaults. -/
def showConfig (files : FileSystem) (environment : Environment) : Traced Outcome := do
  match ← Config.load files environment (Config.path files environment) with
  | .error cause => return { failure := some (.config cause) }
  | .ok value =>
    return { stdout := value.pretty ++ "\n"
             stderr := String.join ((Config.issues value).map warning) }

def configPath (files : FileSystem) (environment : Environment) : Outcome :=
  { stdout := Config.path files environment ++ "\n" }

/-- Shows the version and the platform that the program runs on. -/
def version (platform : String) : Outcome :=
  { stdout := versionText ++ "\n  Platform: " ++ platform ++ "\n" }

/-- What a command writes by itself; starting a server writes nothing. -/
def inspect (files : FileSystem) (environment : Environment) (platform : String) :
    Command → Traced Outcome
  | .start => pure {}
  | .showConfig => showConfig files environment
  | .configPath => pure (configPath files environment)
  | .version => pure (version platform)

def reportTarget : String := "gadget_shield"

def info (target message : String) : Event :=
  { level := .info, target, message, fields := [] }

def issueEvent (issue : Config.Issue) : Event :=
  { level := .warn, target := "config"
    message := "config warning at " ++ issue.path ++ ": " ++ issue.message, fields := [] }

def privateTargets : Event :=
  { level := .warn, target := "proxy", message := "private network targets are allowed"
    fields := [] }

/-- What is reported before a server is put together. -/
def openingEvents (value : Json) (path : String) (config : Config) : List Event :=
  (Config.issues value).map issueEvent ++
    [info reportTarget (programName ++ " v" ++ programVersion),
      info "config" ("config path: " ++ path)] ++
    (if config.proxy.allowPrivate then [privateTargets] else [])

def listening (endpoint : Endpoint) : Event :=
  info "http" ("listening on " ++ endpoint.url)

/-- Why a server is stopped. -/
inductive StopReason
  | terminated
  | interrupted
  deriving DecidableEq, Repr

def StopReason.name : StopReason → String
  | terminated => "SIGTERM"
  | interrupted => "ctrl-c"

/-- What is reported when a server is stopped. -/
def closingEvents (reason : StopReason) : List Event :=
  [info reportTarget ("shutdown signal received (" ++ reason.name ++ ")"),
    info reportTarget "shut down"]

/-- A server that is about to listen, or the reason why there is none, with the log as it is
set up by then and the events on the way. -/
structure Preparation where
  log : LogState := {}
  events : List Event := []
  result : Except ProgramError Server

/-- Puts a server together from a configuration. Nothing is reported before the log is set
up. -/
def prepare (files : FileSystem) (environment : Environment) (network : Network)
    (startTime : Int) : Preparation :=
  let path := Config.path files environment
  match do
    let value ← (Config.load files environment path).value
    return (value, ← Config.ofJson value) with
  | .error cause => { result := .error (.config cause) }
  | .ok (value, config) =>
    match ({} : LogState).setUp environment (fun _ => true) (.ofConfig config.logging) with
    | (log, .error cause) => { log, result := .error (.logging cause) }
    | (log, .ok ()) =>
      let server := Server.ofConfig config network startTime
      { log, events := openingEvents value path config ++ server.events
        result := server.value.mapError .startup }

end Program

end GadgetGuard
