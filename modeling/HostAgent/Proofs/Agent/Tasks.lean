import HostAgent.Agent
import HostAgent.Proofs.Watch.Course
import Mathlib.Logic.Relation

set_option autoImplicit false

/-! # The tasks of the agent

The agent consists of two tasks. One is the watch loop, the other one its shell: it waits for the
stop or for the end of the loop, whichever comes first. Once it has received the stop it tells the
loop so, by a flag that it sets, and waits for the loop to end.

A `System` is the two tasks at one moment, and `Step` says what may happen next. The tasks take
their turns in any order. The stop may come at any time, and where a wait of the loop is over when
the flag is set, the loop may notice either first. Time passes only while no task has anything to
do. The signal of a setup and its races have no part in this: a setup stands for its registry, its
paths and its clocks only, and a fetch gives no signal.
-/

namespace HostAgent.Agent

open WatchSetup

/-! ## The loop -/

/-- Where the task of the loop stands between two of its turns. -/
inductive Place
  /-- It has not had its first turn. -/
  | unborn
  /-- It turns to the next fetch. -/
  | turning
  /-- It waits for a fetch that has come to the given steps at `since`. -/
  | fetching (since : Nat) (steps : List FetchStep) (ending : FetchEnd)
  /-- It pauses after a failed fetch. -/
  | pausing (since : Nat)
  /-- There is nothing left to fetch. -/
  | idle
  /-- It waits for a dispatch, of whose reports some are still to come. -/
  | dispatching (finish : Nat) (unsaid : Trace) (done : CycleDone)
  | returned
  | panicked (message : String)

namespace Place

/-- Whether the loop looks at the flag where it waits. -/
def listens : Place → Bool
  | .turning | .fetching _ _ _ | .pausing _ | .idle => true
  | _ => false

/-- Whether the loop waits in a fetch or in a pause, and will not go on by itself at the time
`now`. -/
def Waits (backoff now : Nat) : Place → Prop
  | .fetching since (.wait duration :: _) _ => now < since + duration
  | .fetching _ [] .hang => True
  | .pausing since => now < since + backoff
  | _ => False

/-- Whether the loop has nothing to do before `later`. Where it listens, a flag that is set is
something to do. -/
def IdleUntil (backoff : Nat) (stopped : Bool) (later : Nat) : Place → Prop
  | .fetching since (.wait duration :: _) _ => stopped = false ∧ later ≤ since + duration
  | .fetching _ [] .hang => stopped = false
  | .pausing since => stopped = false ∧ later ≤ since + backoff
  | .idle => stopped = false
  | .dispatching finish unsaid _ => later ≤ finish ∧ ∀ mark ∈ unsaid.head?, later ≤ mark.1
  | _ => False

/-- What the shell reports on a loop that has ended before the stop. -/
def endLog? (task : Nat) : Place → Option Log
  | .returned => some [⟨.error, .agent, "Metadata watch loop exited unexpectedly",
      [("result", .shown "Ok(())")]⟩, ⟨.info, .agent, "Agent stopped", []⟩]
  | .panicked message => some (unexpectedEndLog task message)
  | _ => none

end Place

/-- The task of the loop: where it stands, what the loop knows and works on, and the fetches to
come. -/
structure LoopTask where
  place : Place
  state : WatchState
  around : Surroundings
  fetches : List Fetch

/-- The report on a snapshot that is left alone. -/
def skipEvent : Event :=
  ⟨.info, .watch, "Shutdown requested, skipping dispatch", []⟩

/-- One turn of the loop at the time `now`, with the points that it adds to the course. -/
inductive Move (s : WatchSetup) (stopped : Bool) (now : Nat) : LoopTask → Trace → LoopTask → Prop
  | starts {w : WatchState} {a : Surroundings} {fs : List Fetch} :
      Move s stopped now ⟨.unborn, w, a, fs⟩ (eventsAt now [s.startEvent]) ⟨.turning, w, a, fs⟩
  | begins {w : WatchState} {a : Surroundings} {f : Fetch} {fs : List Fetch} :
      Move s stopped now ⟨.turning, w, a, f :: fs⟩ [(now, .fetch a.host.state)]
        ⟨.fetching now f.steps f.ending, w, a, fs⟩
  | exhausts {w : WatchState} {a : Surroundings} :
      Move s stopped now ⟨.turning, w, a, []⟩ [] ⟨.idle, w, a, []⟩
  | wakes {since duration : Nat} {steps : List FetchStep} {ending : FetchEnd} {w : WatchState}
      {a : Surroundings} {fs : List Fetch} (hdue : since + duration ≤ now) :
      Move s stopped now ⟨.fetching since (.wait duration :: steps) ending, w, a, fs⟩ []
        ⟨.fetching now steps ending, w, a, fs⟩
  | acts {since : Nat} {step : FetchStep} {steps : List FetchStep} {ending : FetchEnd}
      {w : WatchState} {a : Surroundings} {fs : List Fetch} (hstep : ∀ d, step ≠ .wait d) :
      Move s stopped now ⟨.fetching since (step :: steps) ending, w, a, fs⟩ []
        ⟨.fetching since steps ending, w, actOn a step, fs⟩
  | fails {since : Nat} {error : FetchError} {w : WatchState} {a : Surroundings}
      {fs : List Fetch} :
      Move s stopped now ⟨.fetching since [] (.failure error), w, a, fs⟩
        (eventsAt now (w.fetchFailed error).2) ⟨.pausing now, (w.fetchFailed error).1, a, fs⟩
  | resumes {since : Nat} {w : WatchState} {a : Surroundings} {fs : List Fetch}
      (hdue : since + s.backoff ≤ now) :
      Move s stopped now ⟨.pausing since, w, a, fs⟩ [] ⟨.turning, w, a, fs⟩
  | panics {since : Nat} {message : String} {w : WatchState} {a : Surroundings} {fs : List Fetch} :
      Move s stopped now ⟨.fetching since [] (.panic message), w, a, fs⟩ []
        ⟨.panicked message, w, a, fs⟩
  /-- The loop looks for the flag once more before it dispatches. -/
  | skips {since : Nat} {snapshot : Snapshot} {w : WatchState} {a : Surroundings}
      {fs : List Fetch} (hstopped : stopped = true) :
      Move s stopped now ⟨.fetching since [] (.snapshot snapshot), w, a, fs⟩
        (eventsAt now [skipEvent, WatchSetup.stopEvent w.stats]) ⟨.returned, w.fetched, a, fs⟩
  | dispatches {since : Nat} {snapshot : Snapshot} {done : CycleDone} {w : WatchState}
      {a : Surroundings} {fs : List Fetch} (hstopped : stopped = false)
      (hdone : done = s.cycleOf now w.fetched a snapshot) :
      Move s stopped now ⟨.fetching since [] (.snapshot snapshot), w, a, fs⟩ []
        ⟨.dispatching (now + done.dispatched.elapsed) (cycleEvents now done) done, w.fetched, a, fs⟩
  | reports {finish : Nat} {mark : Nat × Mark} {unsaid : Trace} {done : CycleDone} {w : WatchState}
      {a : Surroundings} {fs : List Fetch} (hdue : mark.1 ≤ now ∨ finish ≤ now) :
      Move s stopped now ⟨.dispatching finish (mark :: unsaid) done, w, a, fs⟩ [mark]
        ⟨.dispatching finish unsaid done, w, a, fs⟩
  /-- The dispatch is over, and only now the loop has a new host. -/
  | joins {finish : Nat} {done : CycleDone} {w : WatchState} {a : Surroundings} {fs : List Fetch}
      (hdue : finish ≤ now) :
      Move s stopped now ⟨.dispatching finish [] done, w, a, fs⟩ [(now, .cycle done)]
        ⟨.turning, done.state, ⟨done.dispatched.host, a.overrides⟩, fs⟩
  | stops {place : Place} {w : WatchState} {a : Surroundings} {fs : List Fetch}
      (hstopped : stopped = true) (hplace : place.listens = true) :
      Move s stopped now ⟨place, w, a, fs⟩ (eventsAt now [WatchSetup.stopEvent w.stats])
        ⟨.returned, w, a, fs⟩

/-! ## The two tasks together -/

/-- Where the shell stands. When it is done it has returned the counters, after the stop or because
the loop had ended without one. -/
inductive Shell
  | waiting
  | joining
  | stopped (stats : WatchStats)
  | abandoned (stats : WatchStats)
deriving DecidableEq

/-- The tasks of the agent at one moment, and the course so far. -/
structure System where
  now : Nat
  shell : Shell
  /-- The flag by which the shell tells the loop to stop. -/
  flag : Bool
  loop : LoopTask
  course : Trace

namespace System

/-- The agent when it has reported its start and has spawned the loop. -/
def initial (around : Surroundings) (fetches : List Fetch) : System where
  now := 0
  shell := .waiting
  flag := false
  loop := ⟨.unborn, {}, around, fetches⟩
  course := eventsAt 0 [startEvent]

/-- The agent with some more points in its course. -/
def showing (c : System) (points : Trace) : System := { c with course := c.course ++ points }

/-- The agent whose shell has received the stop. -/
def received (c : System) : System :=
  { c with shell := .joining, flag := true }.showing
    [(c.now, .signal), (c.now, .event signalEvent)]

/-- Whether the agent has returned. -/
def Returned (c : System) : Prop := ∃ stats, c.shell = .stopped stats ∨ c.shell = .abandoned stats

end System

/-- What may happen next. -/
inductive Step (s : WatchSetup) : System → System → Prop
  | move {c : System} {points : Trace} {loop : LoopTask}
      (h : Move s c.flag c.now c.loop points loop) : Step s c ({ c with loop }.showing points)
  | pass {c : System} {later : Nat} (hlt : c.now < later)
      (hidle : c.loop.place.IdleUntil s.backoff c.flag later) : Step s c { c with now := later }
  | receive {c : System} (hshell : c.shell = .waiting) : Step s c c.received
  /-- The loop has ended although no stop was received. -/
  | abandon {c : System} {log : Log} (hshell : c.shell = .waiting)
      (hended : c.loop.place.endLog? s.loopTask = some log) :
      Step s c ({ c with shell := .abandoned {} }.showing (eventsAt c.now log))
  | join {c : System} (hshell : c.shell = .joining) (hplace : c.loop.place = .returned) :
      Step s c ({ c with shell := .stopped c.loop.state.stats }.showing
        (eventsAt c.now [stopEvent c.loop.state.stats]))
  | joinPanicked {c : System} {message : String} (hshell : c.shell = .joining)
      (hplace : c.loop.place = .panicked message) :
      Step s c ({ c with shell := .stopped {} }.showing
        (eventsAt c.now (panicLog s.loopTask message)))

/-- Steps one after another. -/
abbrev Steps (s : WatchSetup) : System → System → Prop := Relation.ReflTransGen (Step s)

/-- The moments of the runs of the agent over some fetches. -/
def Reachable (s : WatchSetup) (around : Surroundings) (fetches : List Fetch) (c : System) : Prop :=
  Steps s (System.initial around fetches) c

/-! ## After the stop -/

namespace System

/-- The agent after a stop that the loop has noticed while it waited. -/
def halted (c : System) : System :=
  { c.received with loop := { c.loop with place := .returned } }.showing
    (eventsAt c.now [WatchSetup.stopEvent c.loop.state.stats])

/-- The agent when it has returned after such a stop. -/
def settled (c : System) : System :=
  { c.halted with shell := .stopped c.loop.state.stats }.showing
    (eventsAt c.now [stopEvent c.loop.state.stats])

end System

section

variable {s : WatchSetup} {c c' : System}

/-- A loop that waits does nothing by itself; it can only be stopped. -/
theorem Move.of_waits {stopped : Bool} {now : Nat} {l l' : LoopTask} {points : Trace}
    (h : Move s stopped now l points l') (hwaits : l.place.Waits s.backoff now) :
    points = eventsAt now [WatchSetup.stopEvent l.state.stats]
      ∧ l' = { l with place := .returned } := by
  cases h with
  | stops => exact ⟨rfl, rfl⟩
  | wakes hdue => exact absurd hwaits (Nat.not_lt_of_le hdue)
  | resumes hdue => exact absurd hwaits (Nat.not_lt_of_le hdue)
  | @acts since step _ _ _ _ _ hstep =>
      cases step with
      | wait d => exact absurd rfl (hstep d)
      | overrides | failing => exact absurd hwaits id
  | starts | begins | exhausts | fails | panics | skips | dispatches | reports | joins =>
      exact absurd hwaits id

/-- Only where the loop listens or dispatches can time pass. -/
theorem Place.not_idleUntil_of_listens {place : Place} {backoff later : Nat}
    (h : place.listens = true) : ¬place.IdleUntil backoff true later := by
  intro hidle
  cases place with
  | fetching since steps ending =>
      cases steps with
      | nil => cases ending <;> first | exact Bool.noConfusion hidle | exact hidle
      | cons step steps => cases step <;> first | exact Bool.noConfusion hidle.1 | exact hidle
  | pausing => exact Bool.noConfusion hidle.1
  | idle => exact Bool.noConfusion hidle
  | turning => exact hidle
  | unborn | dispatching | returned | panicked => cases h

theorem Place.listens_of_waits {place : Place} {backoff now : Nat} (h : place.Waits backoff now) :
    place.listens = true := by
  cases place with
  | fetching | pausing => rfl
  | unborn | turning | idle | dispatching | returned | panicked => exact absurd h id

/-- When the loop waits as the stop is received, it is stopped next. -/
theorem Step.of_received (hwaits : c.loop.place.Waits s.backoff c.now)
    (h : Step s c.received c') : c' = c.halted := by
  cases h with
  | move h =>
      obtain ⟨rfl, rfl⟩ := h.of_waits hwaits
      rfl
  | pass _ hidle =>
      exact absurd hidle (Place.not_idleUntil_of_listens (Place.listens_of_waits hwaits))
  | receive hshell | abandon hshell => cases hshell
  | join _ hplace | joinPanicked _ hplace =>
      have hlistens := Place.listens_of_waits hwaits
      rw [show c.loop.place = _ from hplace] at hlistens
      cases hlistens

/-- Then the shell returns. -/
theorem Step.of_halted (h : Step s c.halted c') : c' = c.settled := by
  cases h with
  | move h =>
      cases h with
      | stops _ hplace => cases hplace
  | pass _ hidle => exact absurd hidle id
  | receive hshell | abandon hshell => cases hshell
  | join => rfl
  | joinPanicked _ hplace => cases hplace

/-- And that is the end. -/
theorem Step.not_of_settled : ¬Step s c.settled c' := by
  intro h
  cases h with
  | move h =>
      cases h with
      | stops _ hplace => cases hplace
  | pass _ hidle => exact hidle
  | receive hshell | abandon hshell | join hshell | joinPanicked hshell => cases hshell

/-- Where only one step is possible, a run that comes to its end takes it. -/
theorem Steps.of_only {d : System} (honly : ∀ e, Step s c e → e = d) (hc : ¬c.Returned)
    (h : Steps s c c') (hreturned : c'.Returned) : Steps s d c' := by
  cases h.cases_head with
  | inl heq => exact absurd (heq ▸ hreturned) hc
  | inr h =>
      obtain ⟨e, hfirst, h⟩ := h
      rw [honly e hfirst] at h
      exact h

/-- **A stop that comes while the loop waits has one outcome.** -/
theorem settled_of_steps (hwaits : c.loop.place.Waits s.backoff c.now)
    (h : Steps s c.received c') (hreturned : c'.Returned) : c' = c.settled := by
  have hjoining : ¬c.received.Returned ∧ ¬c.halted.Returned := by
    constructor <;> · rintro ⟨_, hshell | hshell⟩ <;> cases hshell
  have hhalted : Steps s c.halted c' :=
    h.of_only (fun _ => Step.of_received hwaits) hjoining.1 hreturned
  have hsettled : Steps s c.settled c' :=
    hhalted.of_only (fun _ => Step.of_halted) hjoining.2 hreturned
  cases hsettled.cases_head with
  | inl heq => exact heq.symm
  | inr h =>
      obtain ⟨d, hnext, -⟩ := h
      exact absurd hnext Step.not_of_settled

theorem steps_settled (hwaits : c.loop.place.Waits s.backoff c.now) :
    Steps s c.received c.settled := by
  have hstops : Step s c.received c.halted :=
    .move (.stops rfl (Place.listens_of_waits hwaits))
  exact .tail (.single hstops) (.join rfl rfl)

end

end HostAgent.Agent
