import HostAgent.Dispatch.Task

set_option autoImplicit false

/-! # Dispatching a cycle

All domains of a cycle start at once and run side by side; the dispatch ends when the last of
them has ended. Tasks that need no time take their turns in the order of registration, and
tasks that wait take theirs when their waiting is over. The tasks are then waited for in the
order of registration, and that is when their panics are reported.
-/

namespace HostAgent

/-- `turn` in its place among turns in the order of time, behind those of the same time. -/
def insertTurn (turn : Turn) : List Turn → List Turn
  | [] => [turn]
  | t :: rest => if turn.time < t.time then turn :: t :: rest else t :: insertTurn turn rest

/-- The turns that take every task to its end: all questions at once, and every application
when its delay is over. -/
def schedule {H : Type} (domains : List (Domain H)) : List Turn :=
  let indexed := domains.mapIdx fun i domain => (i, domain.delay)
  let now := indexed.flatMap fun (i, delay) =>
    List.replicate (if delay = 0 then 3 else 2) ⟨0, i⟩
  let later := (indexed.filter fun entry => entry.2 ≠ 0).map fun (i, delay) => Turn.mk delay i
  now ++ later.foldl (fun turns turn => insertTurn turn turns) []

/-- A dispatch that has ended: the report, the calls of each domain, the host and the status
memory after it, the time it took, and the log by time. -/
structure Dispatched (H : Type) where
  report : Report
  calls : List Calls
  host : H
  status : Dict Bool
  elapsed : Nat
  log : List Timed

namespace Dispatched

variable {H : Type}

/-- The event on a panic. -/
def panicEvent (name text : String) : Event :=
  ⟨.error, .dispatch, "Domain task panicked", [("domain", .word name), ("error", .shown text)]⟩

/-- The panics of tasks at the times at which they are noticed by one who waits for the tasks
one after another, from time `now`, and the time at which all have ended. -/
def join (now : Nat) : List (Task H) → List Timed × Nat
  | [] => ([], now)
  | t :: rest =>
    let now := max now t.endTime
    let (log, finish) := join now rest
    match t.outcome? with
    | some (.panicked text) => ((now, panicEvent t.domain.name text) :: log, finish)
    | _ => (log, finish)

/-- `event` in its place among events in the order of time, behind those of the same time. -/
def insertEvent (event : Timed) : List Timed → List Timed
  | [] => [event]
  | e :: rest => if event.1 < e.1 then event :: e :: rest else e :: insertEvent event rest

/-- The dispatch after the turns that were taken. -/
def ofCycle (c : Cycle H) : Dispatched H :=
  let (panics, elapsed) := join 0 c.tasks
  { report := ⟨c.tasks.filterMap fun t => t.outcome?.map (t.domain.name, ·)⟩
    calls := c.tasks.map (·.calls)
    host := c.shared.host
    status := c.shared.status
    elapsed
    log := panics.foldl (fun log event => insertEvent event log) c.shared.log }

end Dispatched

/-- Runs the domains of a cycle in the given turns of their tasks, which have the given
numbers. -/
def dispatchIn {H : Type} (turns : List Turn) (domains : List (Domain H)) (host : H)
    (status : Dict Bool) (numbers : Nat → Nat := (· + 1)) : Dispatched H :=
  .ofCycle ((Cycle.start domains host status numbers).run turns)

/-- Runs the domains of a cycle to their ends. -/
def dispatch {H : Type} (domains : List (Domain H)) (host : H) (status : Dict Bool) :
    Dispatched H :=
  dispatchIn (schedule domains) domains host status

/-- The event on the registration of domains. -/
def registrationEvent (names : List String) : Event :=
  ⟨.info, .dispatch, "Registered configuration domains",
    [("domains", .shown (quotedList names))]⟩

end HostAgent
