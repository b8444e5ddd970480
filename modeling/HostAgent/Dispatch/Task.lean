import HostAgent.Dispatch.Outcome
import HostAgent.Domain.Basic

set_option autoImplicit false

/-! # Tasks of a cycle

Every domain of a cycle runs on a task of its own. The tasks share the host, the memory of the
status that was last logged for each domain, and the log. A task goes through three steps: it
asks whether the domain is switched off, it asks whether there is anything to apply, and it
applies the configuration. A panic in a step ends the task and leaves the others alone.

`Cycle.run` lets the tasks take their steps in the order of a schedule. Every interleaving of
the tasks is a schedule, and a step of a task that has ended does nothing.
-/

namespace HostAgent

/-- How often each call of a domain was made. -/
structure Calls where
  disabled : Nat := 0
  diff : Nat := 0
  set : Nat := 0
deriving DecidableEq, Repr

namespace Calls

/-- The sum of two counts. -/
def add (a b : Calls) : Calls := ⟨a.disabled + b.disabled, a.diff + b.diff, a.set + b.set⟩

end Calls

/-- Where a task stands. -/
inductive Stage
  /-- Nothing was called yet. -/
  | ready
  /-- The domain is not switched off. -/
  | admitted
  /-- The application has begun. -/
  | applying
  /-- The task has ended, at the given time. -/
  | ended (outcome : Outcome) (time : Nat)
deriving DecidableEq, Repr

/-- A domain on its task. -/
structure Task (H : Type) where
  number : Nat
  domain : Domain H
  stage : Stage := .ready
  calls : Calls := {}

/-- An event and the time at which it was reported. -/
abbrev Timed := Nat × Event

/-- What the tasks of a cycle share: the host, the status logged last for each domain, and the
log. -/
structure Shared (H : Type) where
  host : H
  status : Dict Bool
  log : List Timed := []

namespace Shared

variable {H : Type}

/-- Reports events. -/
def report (s : Shared H) (time : Nat) (log : Log) : Shared H :=
  { s with log := s.log ++ log.map (time, ·) }

/-- The event on a change of status. -/
def statusEvent (name : String) (disabled : Bool) : Event :=
  let status := if disabled then "disabled" else "enabled"
  ⟨.info, .dispatch, name ++ " manager status: " ++ status,
    [("domain", .word name), ("status", .word status)]⟩

/-- Takes note of a domain's status, and reports it if it is not the one logged last. -/
def observe (s : Shared H) (time : Nat) (name : String) (disabled : Bool) : Shared H :=
  let noted := { s with status := s.status.insert name disabled }
  if s.status.get? name = some disabled then noted
  else noted.report time [statusEvent name disabled]

end Shared

namespace Task

variable {H : Type}

/-- The task after its end in a panic. -/
def panic (t : Task H) (time : Nat) (message : String) : Task H :=
  { t with stage := .ended (.panicked (panicText t.number message)) time }

/-- The task after its end. -/
def finish (t : Task H) (time : Nat) (outcome : Outcome) : Task H :=
  { t with stage := .ended outcome time }

/-- The event on the start of an application. -/
def startEvent (name : String) : Event :=
  ⟨.info, .dispatch, "Applying configuration changes", [("domain", .word name)]⟩

/-- The event on a refused application. -/
def refusalEvent (name : String) (error : ApplyError) : Event :=
  ⟨.error, .dispatch, "Failed to apply configuration",
    [("domain", .word name), ("error", .shown error.message)]⟩

/-- One step of a task at the given time. -/
def step (time : Nat) (t : Task H) (s : Shared H) : Task H × Shared H :=
  match t.stage with
  | .ready =>
    let t := { t with calls := { t.calls with disabled := t.calls.disabled + 1 } }
    match t.domain.disabled with
    | .error message => (t.panic time message, s)
    | .ok true => (t.finish time .disabled, s.observe time t.domain.name true)
    | .ok false => ({ t with stage := .admitted }, s.observe time t.domain.name false)
  | .admitted =>
    let t := { t with calls := { t.calls with diff := t.calls.diff + 1 } }
    match t.domain.diff with
    | .error message => (t.panic time message, s)
    | .ok false => (t.finish time .unchanged, s)
    | .ok true =>
      ({ t with stage := .applying, calls := { t.calls with set := t.calls.set + 1 } },
        s.report time [startEvent t.domain.name])
  | .applying =>
    let attempt := t.domain.set s.host
    let s := { s with host := attempt.host }.report time attempt.log
    match attempt.ending with
    | .completed => (t.finish time .applied, s)
    | .refused error =>
      (t.finish time (.failed error.message),
        s.report time [refusalEvent t.domain.name error])
    | .panicked message => (t.panic time message, s)
  | .ended _ _ => (t, s)

/-- The outcome of a task that has ended. -/
def outcome? (t : Task H) : Option Outcome :=
  match t.stage with
  | .ended outcome _ => some outcome
  | _ => none

/-- The time at which a task ended. -/
def endTime (t : Task H) : Nat :=
  match t.stage with
  | .ended _ time => time
  | _ => 0

end Task

/-- The tasks of a cycle and what they share. -/
structure Cycle (H : Type) where
  tasks : List (Task H)
  shared : Shared H

/-- A turn of a task: the time, and the place of the task in the order of registration. -/
structure Turn where
  time : Nat
  task : Nat
deriving DecidableEq, Repr

namespace Cycle

variable {H : Type}

/-- The cycle before any step. The number of a task comes from a count of all tasks that were ever
started, so it is given for each place in the order of registration. -/
def start (domains : List (Domain H)) (host : H) (status : Dict Bool)
    (numbers : Nat → Nat := (· + 1)) : Cycle H where
  tasks := domains.mapIdx fun i domain => { number := numbers i, domain }
  shared := { host, status }

/-- One turn. -/
def step (c : Cycle H) (turn : Turn) : Cycle H :=
  match c.tasks[turn.task]? with
  | none => c
  | some t =>
    let (t, shared) := t.step turn.time c.shared
    ⟨c.tasks.set turn.task t, shared⟩

/-- The turns of a schedule, one after another. -/
def run (c : Cycle H) (schedule : List Turn) : Cycle H := schedule.foldl step c

end Cycle

end HostAgent
