import HostAgent.Watch.Cycle

set_option autoImplicit false

/-! # Runs of the watch loop

The watch loop fetches snapshots, one after another. It dispatches a cycle for each one, and
after a failed fetch it pauses for the backoff. A shutdown signal interrupts a fetch and a
pause; a cycle that has begun is carried through. Between a fetch and its cycle the loop looks
whether the signal was given, and if so leaves the snapshot alone.

A run is determined by what happens around the loop: the fetches, each with what it does to
the surroundings before it ends, and the time of the signal. When a fetch or a pause ends at
the very moment of the signal, either may win; `ties` decides each such race. Time is counted
in milliseconds from the start and passes only in waits. The clock that expiry dates are held
against is another one, which may be set while the run lasts: a cycle reads it at the time at which
it begins, and its readings need not follow that count.
-/

namespace HostAgent

/-- What happens around the loop while it waits for a fetch. -/
inductive FetchStep
  | wait (duration : Nat)
  | overrides (file : FileContents)
  | failing (domain : String) (fail : Bool)

/-- How a fetch ends. -/
inductive FetchEnd
  | snapshot (s : Snapshot)
  | failure (error : FetchError)
  | hang
  | panic (message : String)

/-- A fetch: what happens before it ends, whether the signal is given just before its end, and
how it ends. -/
structure Fetch where
  steps : List FetchStep := []
  signals : Bool := false
  ending : FetchEnd

/-- What is fixed for a run. -/
structure WatchSetup where
  registry : Registry Snapshot Host
  overridePath : String
  backoff : Nat
  /-- The reading of the clock at a time of the run. -/
  clock : Nat → Instant
  /-- The turns that the tasks of the cycle of a number take, counted from zero. -/
  order : Nat → List (Domain Host) → List Turn := fun _ => schedule
  /-- The order in which the cycle of a number lists the override file. -/
  walk : Nat → Ini.Walk := fun _ => {}
  /-- The numbers of the tasks of the cycle of a number. -/
  numbers : Nat → Nat → Nat := fun _ => (· + 1)
  /-- The number of the task that the loop runs in. -/
  loopTask : Nat := 1
  /-- The time of the signal, unless a fetch gives it. -/
  signalAt : Option Nat := none
  /-- Whether race `n` is won by the fetch or pause; fetch `k` is race `2k`, its pause
  `2k + 1`. -/
  ties : Nat → Bool := fun _ => false

/-- A point in the course of a run. -/
inductive Mark
  /-- A fetch begins. -/
  | fetch (host : HostState)
  | event (event : Event)
  /-- The shutdown signal is given. -/
  | signal
  /-- A cycle has ended. -/
  | cycle (done : CycleDone)

/-- The course of a run: its points with their times. -/
abbrev Trace := List (Nat × Mark)

/-- How a run ends. -/
inductive RunEnd
  | stopped
  | panicked (message : String)
  /-- The loop waits forever. -/
  | pending
deriving DecidableEq, Repr

/-- A run: its course, its end and the time of it, and what is left. -/
structure Run where
  trace : Trace
  ending : RunEnd
  time : Nat
  stats : WatchStats
  around : Surroundings

/-- The shutdown signal: the time at which it is given, if it is, and whether the course of
the run shows it yet. -/
structure Signal where
  at? : Option Nat
  shown : Bool := false

namespace Signal

/-- Whether the signal is given by the given time. -/
def givenBy (s : Signal) (time : Nat) : Bool :=
  match s.at? with
  | none => false
  | some moment => moment ≤ time

/-- Whether the signal ends a wait before `finish`; at that very moment, `tie` decides. -/
def interrupts (s : Signal) (finish : Nat) (tie : Bool) : Bool :=
  match s.at? with
  | none => false
  | some time => time < finish || (time == finish && !tie)

/-- The moment at which a wait from `start` is interrupted. -/
def momentFrom (s : Signal) (start : Nat) : Nat := max start (s.at?.getD start)

/-- The signal given at `time` at the latest. -/
def give (s : Signal) (time : Nat) : Signal := { s with at? := some (min (s.at?.getD time) time) }

/-- The point of the signal, if the course does not show it yet. -/
def marks (s : Signal) (time : Nat) : Trace := if s.shown then [] else [(time, .signal)]

end Signal

namespace WatchSetup

/-- The course of reports made at one time. -/
def eventsAt (time : Nat) (log : Log) : Trace := log.map fun e => (time, .event e)

/-- The surroundings after a step that takes no time. -/
def actOn (around : Surroundings) : FetchStep → Surroundings
  | .wait _ => around
  | .overrides file => { around with overrides := file }
  | .failing domain fail => { around with host := around.host.setFailing domain fail }

/-- Follows the steps of a fetch from `time`: the time at which they are over or interrupted,
the surroundings then, and whether they were interrupted. -/
def follow (signal : Signal) (tie : Bool) (time : Nat) (around : Surroundings) :
    List FetchStep → Nat × Surroundings × Bool
  | [] => (time, around, false)
  | .wait duration :: rest =>
    if signal.interrupts (time + duration) tie then (signal.momentFrom time, around, true)
    else follow signal tie (time + duration) around rest
  | step :: rest => follow signal tie time (actOn around step) rest

/-- The end of a run by the signal. -/
def stop (signal : Signal) (time : Nat) (w : WatchState) (around : Surroundings) : Run where
  trace := signal.marks time ++ eventsAt time [⟨.info, .watch, "Metadata watch loop stopped",
    [("cycles", .number w.stats.cycles)]⟩]
  ending := .stopped
  time
  stats := w.stats
  around

/-- A run with points before it. -/
def before (trace : Trace) (r : Run) : Run := { r with trace := trace ++ r.trace }

/-- A point in its place among points in the order of time, before those of the same time. -/
def insertMark (mark : Nat × Mark) : Trace → Trace
  | [] => [mark]
  | m :: rest => if m.1 < mark.1 then m :: insertMark mark rest else mark :: m :: rest

/-- The course of a cycle that begins at `time`, the signal in its place if it is given while
the cycle lasts, and the signal after it. -/
def cycleCourse (signal : Signal) (time : Nat) (done : CycleDone) : Trace × Signal :=
  let events := eventsAt time done.fileLog
    ++ done.dispatched.log.map fun (t, e) => (time + t, Mark.event e)
  let finish := time + done.dispatched.elapsed
  let (course, signal) := match signal.at? with
    | some moment =>
      if !signal.shown ∧ moment ≤ finish then
        (insertMark (moment, .signal) events, { signal with shown := true })
      else (events, signal)
    | none => (events, signal)
  (course ++ [(finish, .cycle done)], signal)

/-- The run from a fetch on that begins at `time`; the fetch is number `k`. -/
def runFrom (s : WatchSetup) (k : Nat) (signal : Signal) (time : Nat) (w : WatchState)
    (around : Surroundings) : List Fetch → Run
  | [] =>
    match signal.at? with
    | some _ => stop signal (signal.momentFrom time) w around
    | none => ⟨[], .pending, time, w.stats, around⟩
  | fetch :: rest =>
    let tie := s.ties (2 * k)
    if signal.givenBy time && !tie then stop signal time w around
    else
      let begun : Trace := [(time, .fetch around.host.state)]
      let (finish, around, interrupted) := follow signal tie time around fetch.steps
      if interrupted then before begun (stop signal finish w around)
      else
        let given := fetch.signals && !signal.givenBy finish
        let (marks, signal) :=
          if given then (signal.marks finish, { signal.give finish with shown := true })
          else ([], signal)
        match fetch.ending with
        | .hang =>
          let begun := begun ++ marks
          match signal.at? with
          | some _ => before begun (stop signal (signal.momentFrom finish) w around)
          | none => ⟨begun, .pending, finish, w.stats, around⟩
        | .panic message => ⟨begun ++ marks, .panicked message, finish, w.stats, around⟩
        | .failure error =>
          let (w, log) := w.fetchFailed error
          -- the report takes no time, so whoever waits for the signal hears of it after that
          let begun := begun ++ eventsAt finish log ++ marks
          if signal.interrupts (finish + s.backoff) (s.ties (2 * k + 1)) then
            before begun (stop signal (signal.momentFrom finish) w around)
          else before begun (runFrom s (k + 1) signal (finish + s.backoff) w around rest)
        | .snapshot snapshot =>
          let w := w.fetched
          if signal.givenBy finish then
            before (begun ++ marks ++ signal.marks finish ++ eventsAt finish
              [⟨.info, .watch, "Shutdown requested, skipping dispatch", []⟩])
              (stop { signal with shown := true } finish w around)
          else
            let number := w.stats.cycles
            let done := w.cycle s.registry s.overridePath around (s.clock finish) snapshot
              (s.order number) (s.walk number) (s.numbers number)
            let (course, signal) := cycleCourse signal finish done
            before (begun ++ marks ++ course)
              (runFrom s (k + 1) signal (finish + done.dispatched.elapsed) done.state
                { around with host := done.dispatched.host } rest)

/-- The report on the start of the loop. -/
def startEvent (s : WatchSetup) : Event :=
  ⟨.info, .watch, "Starting metadata watch loop",
    [("backoff_secs", .number (s.backoff / 1000)),
      ("domains", .shown (quotedList s.registry.names))]⟩

/-- The run of a fresh loop in the given surroundings. -/
def run (s : WatchSetup) (around : Surroundings) (fetches : List Fetch) : Run :=
  before (eventsAt 0 [s.startEvent]) (s.runFrom 0 ⟨s.signalAt, false⟩ 0 {} around fetches)

end WatchSetup

namespace Run

/-- The log of a run by time. -/
def timedLog (r : Run) : List Timed :=
  r.trace.filterMap fun
    | (time, .event e) => some (time, e)
    | _ => none

end Run

end HostAgent
