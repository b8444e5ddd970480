import HostAgent.Watch.Run

set_option autoImplicit false

/-! # Runs over scripts

A `Script` is a run of answers to the fetches of the watch loop, after which the next fetch stays
pending until the shutdown signal comes. While no signal is given the answers, and what happens
before each of them, decide what the cycles of the run are and when they begin: they are those of
`WatchSetup.replay`, which knows neither signals nor reports (`WatchSetup.run_script`).
-/

namespace HostAgent

/-- An answer to a fetch, and what happens before it comes. -/
structure Answer where
  steps : List FetchStep := []
  result : Except FetchError Snapshot

/-- The fetch with the given answer. -/
def Answer.fetch (a : Answer) : Fetch where
  steps := a.steps
  ending := match a.result with
    | .ok snapshot => .snapshot snapshot
    | .error error => .failure error

/-- Answers to fetches, and what happens before the signal in the fetch that is then pending. -/
structure Script where
  answers : List Answer
  last : List FetchStep := []

/-- The fetches of a script. -/
def Script.fetches (script : Script) : List Fetch :=
  script.answers.map Answer.fetch ++ [{ steps := script.last, signals := true, ending := .hang }]

/-- The time that a step takes. -/
def FetchStep.duration : FetchStep → Nat
  | .wait duration => duration
  | _ => 0

/-- The time that steps take one after another. -/
def FetchStep.durations : List FetchStep → Nat
  | [] => 0
  | step :: steps => step.duration + durations steps

/-- The surroundings after some steps. -/
def Surroundings.after (around : Surroundings) (steps : List FetchStep) : Surroundings :=
  steps.foldl WatchSetup.actOn around

/-- The cycles of a part of a run, and what is left of it. -/
structure Replay where
  cycles : List CycleDone
  state : WatchState
  around : Surroundings

namespace WatchSetup

/-- The next cycle of the loop, if it begins at `time`. -/
def cycleOf (s : WatchSetup) (time : Nat) (w : WatchState) (around : Surroundings)
    (snapshot : Snapshot) : CycleDone :=
  w.cycle s.registry s.overridePath around (s.clock time) snapshot (s.order w.stats.cycles)
    (s.walk w.stats.cycles) (s.numbers w.stats.cycles)

theorem dispatched_cycleOf (s : WatchSetup) (time : Nat) (w : WatchState) (around : Surroundings)
    (snapshot : Snapshot) :
    (s.cycleOf time w around snapshot).dispatched
      = dispatchIn (s.order w.stats.cycles
          (s.registry.instantiate (s.cycleOf time w around snapshot).inputs))
        (s.registry.instantiate (s.cycleOf time w around snapshot).inputs) around.host w.status
        (s.numbers w.stats.cycles) := rfl

/-- What the loop does with some answers from `time` on, reports aside. -/
def replay (s : WatchSetup) (time : Nat) (w : WatchState) (around : Surroundings) :
    List Answer → Replay
  | [] => ⟨[], w, around⟩
  | ⟨steps, .error error⟩ :: answers =>
    replay s (time + FetchStep.durations steps + s.backoff) (w.fetchFailed error).1
      (around.after steps) answers
  | ⟨steps, .ok snapshot⟩ :: answers =>
    let begun := time + FetchStep.durations steps
    let done := s.cycleOf begun w.fetched (around.after steps) snapshot
    let r := replay s (begun + done.dispatched.elapsed) done.state
      ⟨done.dispatched.host, (around.after steps).overrides⟩ answers
    { r with cycles := done :: r.cycles }

end WatchSetup

/-! ## The cycles of a run -/

/-- The cycles of a course, in their order. -/
def Trace.cycles (trace : Trace) : List CycleDone :=
  trace.filterMap fun
    | (_, .cycle done) => some done
    | _ => none

/-- The cycles of a run, in their order. -/
def Run.cycles (r : Run) : List CycleDone := Trace.cycles r.trace

@[simp] theorem Trace.cycles_append (t t' : Trace) :
    Trace.cycles (t ++ t') = Trace.cycles t ++ Trace.cycles t' := List.filterMap_append

@[simp] theorem Trace.cycles_eventsAt (time : Nat) (log : Log) :
    Trace.cycles (WatchSetup.eventsAt time log) = [] := by
  simp [Trace.cycles, WatchSetup.eventsAt, List.filterMap_map]

@[simp] theorem Trace.cycles_marks (signal : Signal) (time : Nat) :
    Trace.cycles (signal.marks time) = [] := by
  simp only [Signal.marks]
  split <;> rfl

@[simp] theorem Run.cycles_stop (signal : Signal) (time : Nat) (w : WatchState)
    (around : Surroundings) : (WatchSetup.stop signal time w around).cycles = [] := by
  show Trace.cycles (_ ++ _) = []
  rw [Trace.cycles_append, Trace.cycles_marks, Trace.cycles_eventsAt, List.nil_append]

@[simp] theorem Run.cycles_before (trace : Trace) (r : Run) :
    (WatchSetup.before trace r).cycles = Trace.cycles trace ++ r.cycles :=
  Trace.cycles_append trace r.trace

namespace WatchSetup

variable (s : WatchSetup) (k : Nat) (shown tie : Bool) (time : Nat) (w : WatchState)
  (around : Surroundings)

/-- Without a signal the steps of a fetch are all taken. -/
theorem follow_of_quiet (steps : List FetchStep) :
    follow ⟨none, shown⟩ tie time around steps
      = (time + FetchStep.durations steps, around.after steps, false) := by
  induction steps generalizing time around with
  | nil => rfl
  | cons step steps ih =>
      cases step with
      | wait duration =>
          rw [FetchStep.durations, FetchStep.duration, ← Nat.add_assoc]
          exact ih (time + duration) around
      | overrides file =>
          rw [FetchStep.durations, show FetchStep.duration (.overrides file) = 0 from rfl,
            Nat.zero_add]
          exact ih time (actOn around (.overrides file))
      | failing domain fail =>
          rw [FetchStep.durations, show FetchStep.duration (.failing domain fail) = 0 from rfl,
            Nat.zero_add]
          exact ih time (actOn around (.failing domain fail))

/-- The course of a cycle holds this cycle and no other. -/
theorem cycles_cycleCourse (done : CycleDone) :
    Trace.cycles (cycleCourse ⟨none, shown⟩ time done).1 = [done] := by
  simp only [cycleCourse, Trace.cycles_append, Trace.cycles_eventsAt]
  simp [Trace.cycles, List.filterMap_map]

/-- After a failed fetch the loop goes on with the next one. -/
theorem exists_runFrom_failure (steps : List FetchStep) (error : FetchError)
    (rest : List Fetch) :
    ∃ trace, Trace.cycles trace = []
      ∧ s.runFrom k ⟨none, shown⟩ time w around ((Answer.mk steps (.error error)).fetch :: rest)
        = before trace (s.runFrom (k + 1) ⟨none, shown⟩
          (time + FetchStep.durations steps + s.backoff) (w.fetchFailed error).1
          (around.after steps) rest) := by
  have hfollow := follow_of_quiet shown (s.ties (2 * k)) time around steps
  refine ⟨[(time, .fetch around.host.state)]
    ++ eventsAt (time + FetchStep.durations steps) (w.fetchFailed error).2 ++ [], ?_, ?_⟩
  · rw [Trace.cycles_append, Trace.cycles_append, Trace.cycles_eventsAt]
    rfl
  · simp only [runFrom, Answer.fetch, hfollow, Signal.givenBy, Signal.interrupts,
      Bool.false_and, Bool.false_eq_true, if_false]

/-- A snapshot is dispatched in the next cycle of the loop. -/
theorem exists_runFrom_snapshot (steps : List FetchStep) (snapshot : Snapshot)
    (rest : List Fetch) :
    let begun := time + FetchStep.durations steps
    let done := s.cycleOf begun w.fetched (around.after steps) snapshot
    ∃ trace, Trace.cycles trace = [done]
      ∧ s.runFrom k ⟨none, shown⟩ time w around ((Answer.mk steps (.ok snapshot)).fetch :: rest)
        = before trace (s.runFrom (k + 1) ⟨none, shown⟩ (begun + done.dispatched.elapsed)
          done.state ⟨done.dispatched.host, (around.after steps).overrides⟩ rest) := by
  intro begun done
  have hfollow := follow_of_quiet shown (s.ties (2 * k)) time around steps
  refine ⟨[(time, .fetch around.host.state)] ++ [] ++ (cycleCourse ⟨none, shown⟩ begun done).1,
    ?_, ?_⟩
  · rw [Trace.cycles_append, Trace.cycles_append, cycles_cycleCourse]
    rfl
  · simp only [runFrom, Answer.fetch, hfollow, Signal.givenBy, Bool.false_and,
      Bool.false_eq_true, if_false]
    rfl

/-- The fetch that stays pending ends the run. -/
theorem runFrom_pending (steps : List FetchStep) :
    let r := s.runFrom k ⟨none, shown⟩ time w around
      [{ steps, signals := true, ending := .hang }]
    r.cycles = [] ∧ r.stats = w.stats ∧ r.ending = .stopped ∧ r.around = around.after steps := by
  have hfollow := follow_of_quiet shown (s.ties (2 * k)) time around steps
  simp only [runFrom, hfollow, Signal.givenBy, Signal.give, Bool.false_and, Bool.not_false,
    Bool.and_true, Bool.false_eq_true, if_false, if_true]
  refine ⟨?_, rfl, rfl, rfl⟩
  rw [Run.cycles_before, Run.cycles_stop, Trace.cycles_append, Trace.cycles_marks]
  rfl

/-- From any point of a run the cycles to come are those of the replay. -/
theorem runFrom_script (answers : List Answer) (last : List FetchStep) :
    let r := s.runFrom k ⟨none, shown⟩ time w around (Script.mk answers last).fetches
    let replayed := s.replay time w around answers
    r.cycles = replayed.cycles ∧ r.stats = replayed.state.stats ∧ r.ending = .stopped
      ∧ r.around = replayed.around.after last := by
  -- the number and the time of the fetch, the loop and its surroundings change with every answer
  induction answers generalizing k time w around with
  | nil => exact s.runFrom_pending k shown time w around last
  | cons answer answers ih =>
      obtain ⟨steps, error | snapshot⟩ := answer
      · obtain ⟨trace, htrace, hrun⟩ := s.exists_runFrom_failure k shown time w around
          steps error (Script.mk answers last).fetches
        obtain ⟨hcycles, hrest⟩ := ih (k + 1) (time + FetchStep.durations steps + s.backoff)
          (w.fetchFailed error).1 (around.after steps)
        intro r replayed
        rw [show r = _ from hrun]
        refine ⟨?_, hrest⟩
        rw [Run.cycles_before, htrace, List.nil_append, hcycles]
        rfl
      · obtain ⟨trace, htrace, hrun⟩ := s.exists_runFrom_snapshot k shown time w around
          steps snapshot (Script.mk answers last).fetches
        let begun := time + FetchStep.durations steps
        let done := s.cycleOf begun w.fetched (around.after steps) snapshot
        obtain ⟨hcycles, hrest⟩ := ih (k + 1) (begun + done.dispatched.elapsed) done.state
          ⟨done.dispatched.host, (around.after steps).overrides⟩
        intro r replayed
        rw [show r = _ from hrun]
        refine ⟨?_, hrest⟩
        rw [Run.cycles_before, htrace, hcycles]
        rfl

/-- **The cycles of a run over a script are those of its replay**, if no signal is given before
the last fetch. -/
theorem run_script (hs : s.signalAt = none) (script : Script) :
    let r := s.run around script.fetches
    let replayed := s.replay 0 {} around script.answers
    r.cycles = replayed.cycles ∧ r.stats = replayed.state.stats ∧ r.ending = .stopped
      ∧ r.around = replayed.around.after script.last := by
  obtain ⟨hcycles, hrest⟩ := s.runFrom_script 0 false 0 {} around script.answers script.last
  intro r replayed
  have hr : r = before (eventsAt 0 [s.startEvent])
      (s.runFrom 0 ⟨none, false⟩ 0 {} around script.fetches) := by
    rw [← hs]
    rfl
  rw [hr]
  refine ⟨?_, hrest⟩
  rw [Run.cycles_before, Trace.cycles_eventsAt, List.nil_append]
  exact hcycles

end WatchSetup

end HostAgent
