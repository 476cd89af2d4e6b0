import RunWatch.Watch.Startup
import RunWatch.Watch.Watcher
import Std.Async.DNS
import Std.Async.TCP

/-!
# The program

Starts a watch and keeps it going until the program is ended from outside.  All that happens here is
reading the environment and the state file, carrying requests over a connection, printing the log and
waiting; what is done and in which order is decided by `Watch.start` and `Watcher.quietCycle`.
-/

namespace RunWatch.Console

open Std.Async (DNS.getAddrInfo)
open Std.Async.TCP (Socket.Client)
open Std.Net (SocketAddress)
open Watch (Setup Watcher)

/-! ## Environment and log -/

/-- The variables that settings and the filter of the log come from. -/
def variableNames : List String :=
  [LogFilter.variableName, Api.Settings.urlVariable, "LOOKOUT_API_PREFIX", "LOOKOUT_API_VERSION",
    "LOOKOUT_API_TOKEN", "LOOKOUT_API_TIMEOUT", Watch.Settings.projectVariable, "POLL_INTERVAL", "PAGE_SIZE",
    "LOOKOUT_STATE_FILE"]

/-- The environment as the system shows it, byte by byte.  A system that does not is asked for the text of each
variable that is read. -/
def readEnvironment : IO Environment := do
  try return .ofBlock (← IO.FS.readBinFile "/proc/self/environ")
  catch _ =>
    let pairs ← variableNames.filterMapM fun name => return (← IO.getEnv name).map (name, ·)
    return .ofTexts fun name => (pairs.find? fun p => p.1 = name).map Prod.snd

/-- Prints an entry of the log if it is to be logged. -/
def log (setup : Setup) (e : LogEntry) : IO Unit := do
  if setup.filter.passes e then
    IO.println (e.level.label ++ " " ++ e.source.name ++ ": " ++ e.shown)
    (← IO.getStdout).flush

/-! ## Connections -/

/-- Everything that a connection still carries. -/
partial def receiveAll (connection : Socket.Client) (received : ByteArray) : IO ByteArray := do
  match ← (connection.recv? 65536).block with
  | some bytes => receiveAll connection (received ++ bytes)
  | none => return received

/-- The addresses of a host. -/
def addresses (url : Http.Url) : IO (List SocketAddress) := do
  let name := url.host.toList.filter fun c => c ≠ '[' && c ≠ ']'
  let port := UInt16.ofNat (url.port.getD (Http.Url.impliedPort url.secure))
  let found ← (DNS.getAddrInfo (String.ofList name) "").block
  return found.toList.map fun
    | .v4 addr => .v4 ⟨addr, port⟩
    | .v6 addr => .v6 ⟨addr, port⟩

/-- Carries one request to its reply. -/
def carry (o : Http.Outgoing) : IO Api.Reply := do
  let failed (causes : List String) : Api.Reply := .failure (.noConnection o.url.text causes)
  if o.url.secure then return failed [Http.Failure.plainOnly]
  try
    match ← addresses o.url with
    | [] => return failed ["dns error"]
    | address :: _ =>
      let connection ← Socket.Client.mk
      try (connection.connect address).block
      catch e => return failed ["tcp connect error", toString e]
      (connection.send o.text.toUTF8).block
      match Http.Incoming.ofBytes? (← receiveAll connection .empty) with
      | some response => return .response (.ofIncoming response)
      | none => return .failure ⟨.sending, some o.url.text, ["the response is incomplete"]⟩
  catch e => return failed ["dns error", toString e]

/-- The reply to a request. -/
def replyTo (setup : Setup) (r : Api.Request) : IO Api.Reply :=
  match r.outgoing setup.token with
  | .error failure => return .failure failure
  | .ok o => carry o

/-- Holds a dialogue to its end. -/
def converse (setup : Setup) : Api.Dialogue α → IO α
  | .answer a => return a
  | .note entry next => do
    log setup entry
    converse setup next
  | .ask request next => do converse setup (next (← replyTo setup request))

/-- Carries out an activity on a state that others share. -/
def carryOut (setup : Setup) (state : IO.Ref S) : Activity S α → IO α
  | .finished a => return a
  | .asking request next => do carryOut setup state (next (← replyTo setup request))
  | .noting entry next => do
    log setup entry
    carryOut setup state next
  | .touching change next => do
    carryOut setup state (next (← state.modifyGet fun s => (s, change s)))
  | .pausing time next => do
    IO.sleep time.toUInt32
    carryOut setup state next

/-! ## The state file -/

/-- What stands at a path.  What cannot be read counts as a directory. -/
def nodeAt (path : String) : IO Node := do
  try return .file (← IO.FS.readBinFile path)
  catch
    | .noFileOrDirectory .. => return .absent
    | _ => return .directory

/-- The directory that a path leads through. -/
def directoryOf (path : String) : String :=
  String.ofList ((path.toList.reverse.dropWhile (· ≠ '/')).reverse)

/-- Puts the file in place: written beside itself first, then renamed. -/
def replaceFile (path : String) (bytes : ByteArray) : IO Unit := do
  unless (directoryOf path).isEmpty do IO.FS.createDirAll (directoryOf path)
  IO.FS.writeBinFile (path ++ ".tmp") bytes
  IO.FS.rename (path ++ ".tmp") path

/-- Brings the state file to where it is after the start. -/
def settleFile (setup : Setup) (before : Node) (file : StateFile) : IO Unit := do
  if before.data? = file.disk.target.data? then return ()
  match file.disk.target with
  | .file bytes =>
    try replaceFile file.path bytes
    catch e => log setup (.warn .keeper ("failed to persist selection: Storage error: " ++ toString e))
  | _ => return ()

/-! ## Watching -/

/-- Begins one cycle after the other, whether or not those before have come to their end. -/
partial def watch (setup : Setup) (interval : UInt32) (state : IO.Ref Watcher) : IO Unit := do
  let _ ← IO.asTask (carryOut setup state Watcher.quietCycle)
  IO.sleep interval
  watch setup interval state

/-- The whole program, and its exit code. -/
def run : IO UInt32 := do
  let env ← readEnvironment
  let path := match Watch.startSettings env with
    | .ok s => s.stateFile
    | .error _ => Watch.Settings.standardStateFile
  let before ← nodeAt path
  let setup := Setup.ofEnvironment env
  let started ← converse setup (Watch.start env fun _ => ⟨.present, before, .absent, []⟩)
  match started.outcome with
  | .error fault =>
    IO.eprintln fault.report
    return 1
  | .ok begun =>
    settleFile setup before (started.disks.fileAt begun.settings.stateFile)
    let state ← IO.mkRef begun.watcher
    log setup (Watch.startReport (begun.settings.interval * 1000))
    watch setup (begun.settings.interval * 1000).toUInt32 state
    return 0

end RunWatch.Console

/-- Runs the program. -/
def main : IO UInt32 :=
  RunWatch.Console.run
