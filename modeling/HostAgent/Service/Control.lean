import HostAgent.Event
import HostAgent.File.Folder
import HostAgent.Service.Command
import HostAgent.Service.Unit

set_option autoImplicit false

/-! # Control of the service

An action on the service is a list of steps: the unit file is written or removed, or the
service manager is given a command. The steps are taken in order up to the first one that
fails, and an action succeeds when all of its steps do.

What a command does is not decided here: `replies n` is what becomes of command `n` of the
action. A command that cannot be started is answered by a fault.
-/

namespace HostAgent.Service

/-- What can be done with the service. -/
inductive Action
  | install
  | start
  | stop
  | remove
deriving DecidableEq, Repr

/-- The name of an action in reports. -/
def Action.name : Action → String
  | .install => "Install"
  | .start => "Start"
  | .stop => "Stop"
  | .remove => "Remove"

/-- A step of an action. -/
inductive Step
  | writeUnit
  | removeUnit
  | command (arguments : List String)
deriving DecidableEq, Repr

/-- The steps of an action on the service of the given name. -/
def Action.steps (name : String) : Action → List Step
  | .install => [.writeUnit, .command ["daemon-reload"], .command ["enable", name]]
  | .start => [.command ["start", name]]
  | .stop => [.command ["stop", name]]
  | .remove => [.command ["disable", name], .removeUnit, .command ["daemon-reload"]]

/-- Why an action fails. -/
inductive Fault
  | write (path : String) (cause : FileFault)
  | remove (path : String) (cause : FileFault)
  | launch (line : String) (cause : FileFault)
  | command (line : String) (reply : CommandReply)
deriving DecidableEq, Repr

namespace Fault

/-- The refusal of the system that a fault comes from. -/
def cause? : Fault → Option FileFault
  | .write _ cause | .remove _ cause | .launch _ cause => some cause
  | .command _ _ => none

/-- The wording of a fault. -/
def message : Fault → String
  | .write path cause => "failed to write " ++ path ++ ": " ++ cause.message
  | .remove path cause => "failed to remove " ++ path ++ ": " ++ cause.message
  | .launch line cause => "failed to execute " ++ line ++ ": " ++ cause.message
  | .command line reply => line ++ " failed: " ++ reply.detail

end Fault

/-- What becomes of a command: a reply, unless it cannot be started. -/
abbrev Launch := Except FileFault CommandReply

/-- How far an action has come: the unit directory, the commands given with what became of
them, and the log. -/
structure Progress where
  folder : Folder
  commands : List (List String × Launch) := []
  log : Log := []

/-- What an action does up to some point, and the fault that ends it there if one does. -/
abbrev Done := Progress × Option Fault

/-- The command line of a command. -/
def commandLine (s : Service) (arguments : List String) : String :=
  s.manager ++ " " ++ " ".intercalate arguments

/-- The report that the unit file was written or removed. -/
def unitEvent (s : Service) (message : String) : Event :=
  ⟨.info, .service, message, [("unit", .shown s.unitPath)]⟩

/-- The step that writes the unit file. -/
def writeUnit (s : Service) (p : Progress) : Done :=
  match p.folder.writeAtomic s.unitDirectory s.unitName s.unitText with
  | (folder, .ok _) =>
    ({ p with folder, log := p.log ++ [s.unitEvent "Service unit written"] }, none)
  | (folder, .error cause) => ({ p with folder }, some (.write s.unitPath cause))

/-- The step that removes the unit file; one that is not there is as good as removed. -/
def removeUnit (s : Service) (p : Progress) : Done :=
  match p.folder.remove s.unitDirectory s.unitName with
  | .ok folder =>
    ({ p with folder, log := p.log ++ [s.unitEvent "Service unit removed"] }, none)
  | .error .notFound => (p, none)
  | .error cause => (p, some (.remove s.unitPath cause))

/-- What becomes of a command with the given arguments. An argument that holds a NUL cannot be
passed on. -/
def launch (arguments : List String) (reply : Launch) : Launch :=
  if arguments.any fun a => a.toList.contains '\x00' then .error .nulInArgument else reply

/-- The step that gives a command. -/
def give (s : Service) (arguments : List String) (reply : Launch) (p : Progress) : Done :=
  let result := launch arguments reply
  let p := { p with commands := p.commands ++ [(arguments, result)] }
  match result with
  | .error cause => (p, some (.launch (s.commandLine arguments) cause))
  | .ok reply =>
    if reply.succeeded then (p, none) else (p, some (.command (s.commandLine arguments) reply))

/-- A step of an action. -/
def take (s : Service) (replies : Nat → Launch) (p : Progress) : Step → Done
  | .writeUnit => s.writeUnit p
  | .removeUnit => s.removeUnit p
  | .command arguments => s.give arguments (replies p.commands.length) p

/-- Steps in order, up to the first that fails. -/
def takeAll (s : Service) (replies : Nat → Launch) (p : Progress) : List Step → Done
  | [] => (p, none)
  | step :: rest =>
    match s.take replies p step with
    | (p, none) => takeAll s replies p rest
    | (p, some fault) => (p, some fault)

/-- The report on the start of an action. -/
def startEvent (s : Service) (action : Action) : Event :=
  ⟨.info, .service, "Service control",
    [("service", .shown s.name), ("action", .shown action.name)]⟩

/-- An action on the service, from the given state of the unit directory. -/
def control (s : Service) (action : Action) (replies : Nat → Launch) (folder : Folder) : Done :=
  s.takeAll replies { folder, log := [s.startEvent action] } (action.steps s.name)

end HostAgent.Service
