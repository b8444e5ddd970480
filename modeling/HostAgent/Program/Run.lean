import HostAgent.Agent
import HostAgent.Log.Filter
import HostAgent.Log.Line
import HostAgent.Program.CommandLine
import HostAgent.Settings

set_option autoImplicit false

/-! # The program

The program reads its command line, its settings and its log filter, in this order, and ends
at the first of them that is wrong. Then it acts on the service or goes on to run the agent.

What the program does depends on what it finds around it, a `Station`; what can be seen of it
is its `Output`.
-/

namespace HostAgent

/-- What the program finds around it. -/
structure Station where
  lookup : String → Option String
  /-- What keeps the program from opening a device for the log. -/
  deviceFault? : String → Option FileFault
  /-- The path of the program itself. -/
  executable : String
  /-- The directory of unit files. -/
  units : Folder
  /-- What becomes of the commands to the service manager. -/
  replies : Nat → Service.Launch

/-- How events are logged. -/
structure Logging where
  filter : LogFilter
  format : LogFormat
  /-- The device that receives a copy of the log. -/
  device? : Option String
deriving DecidableEq, Repr

namespace Logging

/-- The log filter, and the complaints about it. A variable of its own goes before the level in
the settings, unless it holds anything wrong. -/
def readFilter (setting : Option String) (settings : Settings) : LogFilter × List String :=
  match setting.map LogFilter.read with
  | some (.ok filter) => (filter, [])
  | _ => LogFilter.readRight settings.logLevel

/-- How events are logged, with the complaints about it, or why nothing can be logged. The log
and its copy are set up one after another, and either brings the complaints forth. -/
def start (s : Station) (settings : Settings) : Except String (Logging × List String) :=
  let (filter, complaints) := readFilter (s.lookup "RUST_LOG") settings
  match settings.serialPort with
  | none => .ok (⟨filter, settings.logFormat, none⟩, complaints)
  | some device =>
    match s.deviceFault? device with
    | some fault => .error ("failed to open serial console " ++ device ++ ": " ++ fault.message)
    | none => .ok (⟨filter, settings.logFormat, some device⟩, complaints ++ complaints)

/-- Whether an event is logged. Its message counts among its fields. -/
def admits (l : Logging) (e : Event) : Bool :=
  l.filter.admits e.component.target ("message" :: e.fields.map (·.1)) e.level

/-- An event in the log. -/
def line (l : Logging) (e : Event) : String :=
  match l.format with
  | .text => e.textLine
  | .json => e.jsonLine

/-- The lines of events in the log. -/
def lines (l : Logging) (log : Log) : List String := (log.filter l.admits).map l.line

/-- The lines of events in the copy of the log. -/
def copyLines (l : Logging) (log : Log) : List String :=
  if l.device?.isNone then [] else (log.filter l.admits).map Event.textLine

end Logging

/-- What can be seen of the program: its exit code, what it prints, the lines it writes to the log
bare, the events it reports after them, and what it did about the service. -/
structure Output where
  code : Nat
  print : String := ""
  complaints : List String := []
  events : Log := []
  logging? : Option Logging := none
  service? : Option Service.Progress := none

namespace Output

/-- The lines of the log. -/
def lines (o : Output) : List String :=
  o.complaints ++ (o.logging?.map (Logging.lines · o.events)).getD []

/-- The lines of the copy of the log. -/
def copyLines (o : Output) : List String :=
  (o.logging?.map (Logging.copyLines · o.events)).getD []

end Output

namespace Program

/-- The line that shows the version. -/
def versionText : String := "vm-agent " ++ Agent.version ++ "\n"

/-- The reports on a failure and the causes of it. -/
def failureLog (failure : String) (causes : List String) : Log :=
  ⟨.error, .program, "vm-agent failed", [("error", .shown failure)]⟩
    :: causes.map fun cause => ⟨.error, .program, "caused by", [("cause", .shown cause)]⟩

/-- The reports on an action that failed. -/
def faultLog (action : Service.Action) (fault : Service.Fault) : Log :=
  failureLog ("service " ++ action.name ++ " failed")
    (fault.message :: (fault.cause?.map FileFault.message).toList)

/-- An action on the service. -/
def serve (s : Station) (settings : Settings) (logging : Logging) (complaints : List String)
    (action : Service.Action) : Output :=
  let service : Service := { name := settings.serviceName, executable := s.executable }
  let (progress, fault?) := service.control action s.replies s.units
  { code := if fault?.isSome then 1 else 0
    complaints
    events := progress.log ++ (fault?.map (faultLog action)).getD []
    logging? := some logging
    service? := some progress }

/-- The report on the settings before the agent runs. -/
def settingsEvent (settings : Settings) (mode : RunMode) : Event :=
  ⟨.info, .program, "Configuration loaded",
    [("metadata_url", .shown settings.metadataUrl),
      ("override_path", .shown settings.overridePath), ("mode", .shown mode.name)]⟩

/-- How the program goes: it ends with an output, or it runs the agent after it made its
complaints. -/
inductive Course
  | ended (output : Output)
  | agent (settings : Settings) (mode : RunMode) (logging : Logging) (complaints : List String)

/-- A job of the program. -/
def perform (s : Station) (job : Job) : Course :=
  match Settings.ofLookup s.lookup with
  | .error fault =>
    .ended { code := 1, complaints := ["Failed to load configuration: " ++ fault.message] }
  | .ok settings =>
    match Logging.start s settings with
    | .error failure =>
      .ended { code := 1, complaints := ["Failed to initialize logging: " ++ failure] }
    | .ok (logging, complaints) =>
      match job with
      | .run mode => .agent settings mode logging complaints
      | .control action => .ended (serve s settings logging complaints action)

/-- The program with the given arguments. -/
def run (s : Station) (arguments : List String) : Course :=
  match Invocation.read arguments with
  | .help true => .ended { code := 0, print := Invocation.longHelp }
  | .help false => .ended { code := 0, print := Invocation.shortHelp }
  | .version => .ended { code := 0, print := versionText }
  | .misused => .ended { code := 2 }
  | .job job => perform s job

end Program

end HostAgent
