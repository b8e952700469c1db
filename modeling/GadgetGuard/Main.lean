import GadgetGuard.Fetch.Exchange
import GadgetGuard.Program
import Std.Async.DNS
import Std.Async.Select
import Std.Async.Signal
import Std.Async.TCP
import Std.Async.Timer
import Std.Time.DateTime
/-!
# Running the program

The outer layer: it looks at files and variables, listens, connects and writes. What it does
with them is decided elsewhere. Where a decision hangs on something that is not known yet,
it is looked up, and the decision is taken again.
-/

namespace GadgetGuard

open Std.Async GadgetGuard.Text

/-! ## Files and variables -/

/-- The files and variables that were looked at so far. -/
structure Surroundings where
  files : List (String × Option Entry) := []
  named : List (String × Option String) := []

namespace Surroundings

def fileSystem (known : Surroundings) : FileSystem :=
  fun path => (known.files.lookup path).join

def environment (known : Surroundings) : Environment :=
  fun name => (known.named.lookup name).join

def entryAt (path : String) : IO (Option Entry) := do
  try
    let name ← IO.FS.realPath path
    let content ← try
        pure (some (← IO.FS.readBinFile path).data.toList)
      catch _ => pure none
    return some { canonicalName := name.toString, content }
  catch _ => return none

def withFile (known : Surroundings) (path : String) : IO Surroundings := do
  return { known with files := (path, ← entryAt path) :: known.files }

def withVariable (known : Surroundings) (name : String) : IO Surroundings := do
  return { known with named := (name, ← IO.getEnv name) :: known.named }

/-- What is looked at in any case. -/
def first : IO Surroundings := do
  let names := ["HOME", Config.pathVariable] ++ Logger.filterVariables
  let known ← names.foldlM withVariable {}
  (Config.candidates known.environment).foldlM withFile known

/-- Looks at what an attempt misses, until it misses nothing that could be found. -/
partial def settled (known : Surroundings) (attempt : Surroundings → Option ProgramError) :
    IO Surroundings := do
  match attempt known with
  | some (.config (.includeNotFound path)) =>
    if (known.files.lookup path).isSome then return known
    else settled (← known.withFile path) attempt
  | some (.config (.missingVariable name)) =>
    if (known.named.lookup name).isSome then return known
    else settled (← known.withVariable name) attempt
  | _ => return known

end Surroundings

/-! ## The clock and the log -/

def nanosecondsNow : IO Nat := do
  return (← Std.Time.Timestamp.now).toNanosecondsSinceUnixEpoch.val.toNat

def secondsNow : IO Int := do
  return (← nanosecondsNow) / 1000000000

def LogState.write (log : LogState) (events : List Event) : IO Unit := do
  let stream ← match log.logger.map Logger.output with
    | some .stderr => IO.getStderr
    | _ => IO.getStdout
  for line in log.lines (logTime (← nanosecondsNow)) events do
    stream.putStrLn line
  stream.flush

/-! ## The network -/

def Address.ofNet : Std.Net.IPAddr → Address
  | .v4 address =>
    .ipv4 ⟨address.octets[0], address.octets[1], address.octets[2], address.octets[3]⟩
  | .v6 address =>
    let groups := address.segments
    .ipv6 ⟨groups[0], groups[1], groups[2], groups[3], groups[4], groups[5], groups[6],
      groups[7]⟩

def Address.toNet (address : Address) (port : UInt16) : Std.Net.SocketAddress :=
  match address with
  | .ipv4 a => .v4 ⟨.ofParts a.a a.b a.c a.d, port⟩
  | .ipv6 a => .v6 ⟨.ofParts a.g0 a.g1 a.g2 a.g3 a.g4 a.g5 a.g6 a.g7, port⟩

def Endpoint.ofNet : Std.Net.SocketAddress → Endpoint
  | .v4 socket => ⟨Address.ofNet (.v4 socket.addr), socket.port⟩
  | .v6 socket => ⟨Address.ofNet (.v6 socket.addr), socket.port⟩

def byteArray (bytes : Bytes) : ByteArray :=
  ⟨bytes.toArray⟩

def addressesOf (name : String) : Async (Except String (List Address)) := do
  match loopbackAddresses? name with
  | some addresses => return .ok addresses
  | none =>
    try
      let found ← DNS.getAddrInfo name ""
      return .ok (found.toList.map Address.ofNet)
    catch failure => return .error (toString failure)

/-- Receives until the other side ends the connection or enough has come. -/
partial def received (socket : TCP.Socket.Client) (isEnough : ByteArray → Bool)
    (before : ByteArray) : Async ByteArray := do
  if isEnough before then return before
  match ← socket.recv? 65536 with
  | none => return before
  | some bytes => received socket isEnough (before ++ bytes)

/-- How many bytes the head of a message may have. -/
def maxHeadSize : Nat := 65536

/-- Sends a request and receives what comes back. Connections are not encrypted. -/
def Fetcher.exchange (fetcher : Fetcher) (request : ResourceRequest)
    (destination : Fetcher.Destination) : Async (Except String Incoming) := do
  if request.url.scheme != "http" then return .error "encrypted connections are not available"
  try
    let socket ← TCP.Socket.Client.mk
    socket.connect (destination.address.toNet destination.port)
    socket.send (byteArray (Exchange.requestBytes request))
    let bytes ← received socket (fetcher.sizeLimit + maxHeadSize < ·.size) ByteArray.empty
    return match Exchange.incoming? bytes.data.toList with
      | some incoming => .ok incoming
      | none => .error "invalid response"
  catch failure => return .error (toString failure)

def Fetcher.exchangeInTime (fetcher : Fetcher) (request : ResourceRequest)
    (destination : Fetcher.Destination) : Async (Except String Incoming) :=
  Async.race (fetcher.exchange request destination) do
    sleep (.ofInt fetcher.timeout)
    return .error "timed out"

/-- Fetches what a request asks for. -/
def Fetcher.perform (fetcher : Fetcher) (request : ResourceRequest) : Async (Traced Response) := do
  let addresses ← match request.url.host? with
    | some (.domain name) => addressesOf name
    | _ => pure (.ok [])
  let incoming ← match (fetcher.destination (fun _ => addresses) request.url).value with
    | .ok destination => fetcher.exchangeInTime request destination
    | .error _ => pure (.error "")
  let network : Network := { addresses := fun _ => addresses, send := fun _ _ _ => incoming }
  return fetcher.respond network [] request

/-- Answers a request at a point in time. Its pipeline answers what was fetched so far, and
what it asks for beyond that is fetched next. -/
partial def Server.answer (server : Server) (now : Int) (request : SiteRequest)
    (fetched : List (Traced Response)) : Async (Traced Response) := do
  let pipeline : Pipeline := fun requests =>
    fetched.getD (requests.length - 1) (pure Response.failure)
  let site := { server.site with handler := { server.site.handler with pipeline } }
  let outcome := site.answer [] now request
  match outcome.value.requests[fetched.length]? with
  | some wanted =>
    server.answer now request (fetched ++ [← server.fetcher.perform wanted])
  | none => return outcome.map (·.response)

/-- Answers the one request of a connection. -/
def Server.handle (server : Server) (log : LogState) (socket : TCP.Socket.Client) :
    Async Unit := do
  try
    let bytes ← received socket
      (fun bytes => Wire.hasHead bytes.data.toList || maxHeadSize < bytes.size) ByteArray.empty
    let now ← secondsNow
    let response ← match Wire.request? bytes.data.toList with
      | none => pure { status := 400 }
      | some request =>
        let answer ← server.answer now request []
        log.write answer.events
        pure answer.value
    socket.send (byteArray (Wire.response response now))
    socket.shutdown
  catch _ => return ()

/-- Answers connections until a signal comes. -/
partial def Server.serve (server : Server) (log : LogState) (listener : TCP.Socket.Server)
    (termination interruption : Signal.Waiter) : Async Program.StopReason := do
  let next ← Selectable.one #[
    .case listener.acceptSelector fun socket => return Sum.inl socket,
    .case termination.selector fun _ => return Sum.inr Program.StopReason.terminated,
    .case interruption.selector fun _ => return Sum.inr Program.StopReason.interrupted]
  match next with
  | .inl socket =>
    background (server.handle log socket)
    server.serve log listener termination interruption
  | .inr reason => return reason

/-- Opens a listener and serves until a signal comes. -/
def Server.run (server : Server) (log : LogState) : IO (Except StartupError Unit) := do
  let opened ← try
      let listener ← TCP.Socket.Server.mk
      listener.bind (server.endpoint.address.toNet server.endpoint.port)
      listener.listen 1024
      pure (Except.ok listener)
    catch failure => pure (Except.error (StartupError.noListener (toString failure)))
  match opened with
  | .error cause => return .error cause
  | .ok listener =>
    log.write [Program.listening (.ofNet (← listener.getSockName))]
    let termination ← Signal.Waiter.mk .sigterm true
    let interruption ← Signal.Waiter.mk .sigint true
    let reason ← (server.serve log listener termination interruption).block
    log.write (Program.closingEvents reason)
    return .ok ()

/-! ## Commands -/

def platform : String := "linux (x86_64)"

def failed (cause : ProgramError) : IO UInt32 := do
  (← IO.getStderr).putStrLn ("Error: " ++ cause.message)
  return 1

def runServer : IO UInt32 := do
  let startTime ← secondsNow
  let prepare (known : Surroundings) : Program.Preparation :=
    Program.prepare known.fileSystem known.environment Network.unreachable startTime
  let known ← (← Surroundings.first).settled fun known =>
    match (prepare known).result with
    | .ok _ => none
    | .error cause => some cause
  let prepared := prepare known
  prepared.log.write prepared.events
  match prepared.result with
  | .error cause => failed cause
  | .ok server =>
    match ← server.run prepared.log with
    | .ok () => return 0
    | .error cause => failed (.startup cause)

def runInspection (command : Command) : IO UInt32 := do
  let inspect (known : Surroundings) : Program.Outcome :=
    (Program.inspect known.fileSystem known.environment platform command).value
  let known ← (← Surroundings.first).settled fun known => (inspect known).failure
  let outcome := inspect known
  (← IO.getStderr).putStr outcome.stderr
  (← IO.getStdout).putStr outcome.stdout
  match outcome.failure with
  | some cause => failed cause
  | none => return 0

end GadgetGuard

open GadgetGuard in
def main (arguments : List String) : IO UInt32 := do
  match Command.ofArguments arguments with
  | .error cause =>
    let stream ← if cause.isAnswer then IO.getStdout else IO.getStderr
    stream.putStrLn cause.message
    return cause.exitCode
  | .ok none | .ok (some .start) => runServer
  | .ok (some command) => runInspection command
