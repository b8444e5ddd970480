import HostAgent.Domain.Registry
import HostAgent.Fetch.Client
import HostAgent.Log.Stamp
import HostAgent.Program.Run
import Std.Time.DateTime.Timestamp

set_option autoImplicit false

/-! # The executable

The outer layer of the program: it reads the environment, the clock and files, hands them to
`Program.run`, and writes down what that tells it to. Events are stamped as they are written.

This executable can neither start other programs nor reach a network. A command to the service
manager is therefore answered as one that is not there, and a request as one for which the
network knows no way.
-/

namespace HostAgent.Main

/-- The reading of the clock. -/
def now : IO Instant := do
  let nanos := (← Std.Time.Timestamp.now).toNanosecondsSinceUnixEpoch.val
  return ⟨nanos / 1000000000, (nanos % 1000000000).toNat⟩

/-- The refusal that an error of the system stands for. -/
def faultOf : IO.Error → FileFault
  | .inappropriateType _ code _ => if code = 20 then .notDirectory else .isDirectory
  | .invalidArgument .. => .nameTooLong
  | _ => .notFound

/-- What is found at a path. -/
def contents (path : String) : IO FileContents := do
  match ← (IO.FS.readBinFile path).toBaseIO with
  | .ok bytes => return .bytes bytes.toList
  | .error e => return if faultOf e = .isDirectory then .directory else .absent

/-- What keeps a device from being opened. -/
def deviceFault (device : String) : IO (Option FileFault) := do
  match ← (IO.FS.Handle.mk device .readWrite).toBaseIO with
  | .ok _ => return none
  | .error e => return some (faultOf e)

/-- The names of a directory and of the levels above it, from the inside out. -/
def lineage (directory : String) : List String := (Path.parts directory).reverse

/-- The entries at some places seen from the directory of unit files. Links are taken for what
they lead to, and every file for one with a single name. -/
def units (directory : String) (paths : List String) : IO Folder := do
  match ← contents directory with
  | .absent => return .missing
  | .bytes _ => return .barred .notDirectory
  | .directory => pure ()
  let found ← paths.filterMapM fun path => do
    match ← contents (Path.join directory path) with
    | .absent => return none
    | .directory => return some (path, Node.directory)
    | .bytes bytes => return some (path, Node.file (Utf8.decodeLossy bytes))
  return .holding (Dict.ofList found) (Path.fileName directory) (lineage directory).tail

/-- Writes what changed at some places seen from the directory of unit files. -/
def settle (directory : String) (paths : List String) (before after : Folder) : IO Unit := do
  for path in paths do
    let found := after.entries.get? path
    if before.entries.get? path ≠ found then
      match found with
      | some (.file text) => IO.FS.writeFile (Path.join directory path) text
      | _ => IO.FS.removeFile (Path.join directory path)

/-- Writes lines to the log. -/
def writeLog (lines : List String) : IO Unit := do
  let stderr ← IO.getStderr
  for line in lines do stderr.putStrLn line

/-- Writes lines to the copy of the log. -/
def writeCopy (device? : Option String) (lines : List String) : IO Unit := do
  match device? with
  | none => return
  | some device =>
    let handle ← IO.FS.Handle.mk device .append
    for line in lines do handle.putStrLn line

/-- Writes events to the log and to its copy. -/
def report (logging : Logging) (log : Log) : IO Unit := do
  let stamp := (← now).stamp
  let stamped (line : String) : String :=
    match logging.format with
    | .text => stamp ++ line
    | .json => "\x7b\"timestamp\":" ++ Json.quote stamp ++ "," ++ line.drop 1
  writeLog ((logging.lines log).map stamped)
  writeCopy logging.device? ((logging.copyLines log).map (stamp ++ ·))

/-- Watches the metadata service until the program is stopped. -/
partial def watch (settings : Settings) (logging : Logging) (client : Client) (w : WatchState)
    (host : Host) : IO Unit := do
  let (client, result) := client.fetch fun r => .error (.networkUnreachable r.url)
  match result with
  | .error e =>
    let (w, log) := w.fetchFailed e
    report logging log
    IO.sleep (settings.backoffSecs * 1000).toUInt32
    watch settings logging client w host
  | .ok snapshot =>
    let around : Surroundings := { host, overrides := ← contents settings.overridePath }
    let done := w.fetched.cycle Registry.agent settings.overridePath around (← now) snapshot
    report logging (done.fileLog ++ done.dispatched.log.map (·.2))
    watch settings logging client done.state done.dispatched.host

/-- Runs the agent. -/
def runAgent (settings : Settings) (mode : RunMode) (logging : Logging)
    (complaints : List String) : IO Unit := do
  let setup : WatchSetup := {
    registry := Registry.agent
    overridePath := settings.overridePath
    backoff := settings.backoffSecs * 1000
    clock := fun _ => ⟨0, 0⟩ }
  writeLog complaints
  report logging [Program.settingsEvent settings mode, registrationEvent Registry.agent.names,
    Agent.startEvent, setup.startEvent]
  watch settings logging (Client.ofSettings settings) {} Host.fresh

/-- The variables that the program reads. -/
def variableNames : List String :=
  ["RUST_LOG", "VMAGENT_BACKOFF_SECS", "VMAGENT_LOG_FORMAT", "VMAGENT_LOG_LEVEL",
    "VMAGENT_LONG_POLL_TIMEOUT_SECS", "VMAGENT_METADATA_URL", "VMAGENT_OVERRIDE_PATH",
    "VMAGENT_SERIAL_PORT", "VMAGENT_SERVICE_NAME"]

/-- The program with the given arguments. -/
def run (arguments : List String) : IO UInt32 := do
  let bindings ← variableNames.filterMapM fun name => do
    return (← IO.getEnv name).map fun value => (name, value)
  let lookup (name : String) : Option String := (Dict.ofList bindings).get? name
  let fault ← match lookup "VMAGENT_SERIAL_PORT" with
    | none => pure none
    | some device => deviceFault device
  let service : Service := {
    name := (lookup "VMAGENT_SERVICE_NAME").getD ({} : Settings).serviceName
    executable := (← IO.appPath).toString }
  let bare : FileTree := {
    entries := ∅
    items := fun _ => .file []
    lineage := lineage service.unitDirectory }
  let paths := (bare.placesOn service.unitName
    ++ bare.placesOn (Folder.temporaryPath service.unitName)).map Place.text
  let before ← units service.unitDirectory paths
  let station : Station := {
    lookup
    deviceFault? := fun _ => fault
    executable := service.executable
    units := before
    replies := fun _ => .error .notFound }
  match Program.run station arguments with
  | .agent settings mode logging complaints =>
    runAgent settings mode logging complaints
    return 0
  | .ended output =>
    (← IO.getStdout).putStr output.print
    writeLog output.complaints
    match output.logging? with
    | some logging => report logging output.events
    | none => pure ()
    match output.service? with
    | some progress => settle service.unitDirectory paths before progress.folder
    | none => pure ()
    if output.code = 2 then writeLog ["Usage: vm-agent [ACTION]"]
    return output.code.toUInt32

end HostAgent.Main

def main (arguments : List String) : IO UInt32 := HostAgent.Main.run arguments
