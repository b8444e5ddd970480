import HostAgent.Watch.Run

set_option autoImplicit false

/-! # The life of the agent

The agent starts the watch loop on a task of its own, waits for the signal to stop, passes it
on to the loop and waits for the loop to end. A panic of the loop ends the agent as well, but
not in a panic.
-/

namespace HostAgent.Agent

/-- The version of the agent. -/
def version : String := "0.1.0"

/-- The report on the start of the agent. -/
def startEvent : Event := ⟨.info, .agent, "Agent started", [("version", .word version)]⟩

/-- The report on the signal. -/
def signalEvent : Event := ⟨.info, .agent, "Received stop signal", []⟩

/-- The report on the end of the agent. -/
def stopEvent (stats : WatchStats) : Event :=
  ⟨.info, .agent, "Agent stopped", [("cycles", .number stats.cycles)]⟩

/-- The report on a panic of the loop before the signal, `task` being the number of its task. -/
def unexpectedEndLog (task : Nat) (message : String) : Log :=
  let result := "Err(JoinError::Panic(Id(" ++ toString task ++ "), " ++ quoted message
    ++ ", ...))"
  [⟨.error, .agent, "Metadata watch loop exited unexpectedly", [("result", .shown result)]⟩,
    ⟨.info, .agent, "Agent stopped", []⟩]

/-- The report on a panic of the loop after the signal. -/
def panicLog (task : Nat) (message : String) : Log :=
  [⟨.error, .agent, "Metadata watch loop panicked",
      [("error", .shown (panicText task message))]⟩,
    stopEvent {}]

/-- The course of a run as the agent shows it: the signal is reported. -/
def reportSignal (trace : Trace) : Trace :=
  trace.flatMap fun
    | (time, .signal) => [(time, .signal), (time, .event signalEvent)]
    | mark => [mark]

/-- Whether the signal was given in a course. -/
def hasSignal (trace : Trace) : Bool :=
  trace.any fun
    | (_, .signal) => true
    | _ => false

/-- The run of the agent over the run of its loop. -/
def ofLoop (task : Nat) (r : Run) : Run :=
  let shown := WatchSetup.eventsAt 0 [startEvent] ++ reportSignal r.trace
  match r.ending with
  | .stopped =>
    { r with trace := shown ++ WatchSetup.eventsAt r.time [stopEvent r.stats] }
  | .pending => { r with trace := shown }
  | .panicked message =>
    let log := if hasSignal r.trace then panicLog task message else unexpectedEndLog task message
    { r with
      trace := shown ++ WatchSetup.eventsAt r.time log
      ending := .stopped
      stats := {} }

/-- The run of a loop whose signal was given before its task had its first turn. -/
def signalAhead (r : Run) : Run :=
  let isSignal : Nat × Mark → Bool
    | (_, .signal) => true
    | _ => false
  { r with trace := (0, .signal) :: r.trace.filter (!isSignal ·) }

/-- The run of the agent in the given surroundings. A signal that is there from the start is
received before the loop begins. -/
def run (s : WatchSetup) (around : Surroundings) (fetches : List Fetch) : Run :=
  let r := s.run around fetches
  ofLoop s.loopTask (if s.signalAt = some 0 then signalAhead r else r)

end HostAgent.Agent
