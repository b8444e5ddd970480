import HostAgent.Proofs.Domain.Idempotence
import HostAgent.Proofs.Watch.Loop
import HostAgent.Proofs.Watch.Script

set_option autoImplicit false

/-! # Succession of snapshots

The cycles of a run are those of the snapshots that were fetched, in their order: each cycle
compares its snapshot with the one of the cycle before, whatever became of that cycle, and reads
the override file that is there when its fetch returns.

A failed fetch changes the streak and the counters of the watch loop, on which no cycle depends:
two states that are `Alike` go through the same cycles. But it also takes time. Without it a cycle
begins earlier and may read the clock before a key expires that the cycle of the script leaves out;
and as for every other run, a file whose names differ only in case may be read otherwise. Apart from
these two readings (`CycleDone.ReadsAs`) a script without its failed fetches, what they do to the
surroundings being left to the next fetch, has the same cycles as the script itself
(`succession_of_snapshots`). That the readings count is shown by `failed_fetch_noticed`.
-/

namespace HostAgent

/-! ## Deliveries -/

/-- The override file after some steps. -/
def fileAfter (file : FileContents) (steps : List FetchStep) : FileContents :=
  steps.foldl (fun file step => match step with
    | .overrides file => file
    | _ => file) file

/-- The snapshots that are fetched, each with the override file that is there when its fetch
returns. -/
def deliveries (file : FileContents) : List Answer → List (Snapshot × FileContents)
  | [] => []
  | ⟨steps, .error _⟩ :: answers => deliveries (fileAfter file steps) answers
  | ⟨steps, .ok snapshot⟩ :: answers =>
    (snapshot, fileAfter file steps) :: deliveries (fileAfter file steps) answers

theorem Surroundings.overrides_after (around : Surroundings) (steps : List FetchStep) :
    (around.after steps).overrides = fileAfter around.overrides steps := by
  induction steps generalizing around with
  | nil => rfl
  | cons step steps ih => cases step <;> exact ih _

theorem deliveries_error (around : Surroundings) (steps : List FetchStep) (error : FetchError)
    (answers : List Answer) :
    deliveries around.overrides (⟨steps, .error error⟩ :: answers)
      = deliveries (around.after steps).overrides answers := by
  rw [deliveries, Surroundings.overrides_after]

theorem deliveries_snapshot (around : Surroundings) (steps : List FetchStep)
    (snapshot : Snapshot) (answers : List Answer) :
    deliveries around.overrides (⟨steps, .ok snapshot⟩ :: answers)
      = (snapshot, (around.after steps).overrides)
        :: deliveries (around.after steps).overrides answers := by
  rw [deliveries, Surroundings.overrides_after]

theorem Surroundings.after_append (around : Surroundings) (steps steps' : List FetchStep) :
    around.after (steps ++ steps') = (around.after steps).after steps' := List.foldl_append

/-! ## States that no cycle tells apart -/

namespace WatchState

/-- Equality of all that a cycle depends on. -/
structure Alike (w w' : WatchState) : Prop where
  previous : w.previous = w'.previous
  status : w.status = w'.status
  cycles : w.stats.cycles = w'.stats.cycles

theorem Alike.refl (w : WatchState) : w.Alike w := ⟨rfl, rfl, rfl⟩

/-- A failed fetch is not seen by the cycles. -/
theorem alike_fetchFailed (w : WatchState) (error : FetchError) :
    (w.fetchFailed error).1.Alike w := by
  simp only [fetchFailed]
  split <;> exact ⟨rfl, rfl, rfl⟩

theorem Alike.symm {w w' : WatchState} (h : w.Alike w') : w'.Alike w :=
  ⟨h.previous.symm, h.status.symm, h.cycles.symm⟩

theorem Alike.trans {w w' w'' : WatchState} (h : w.Alike w') (h' : w'.Alike w'') :
    w.Alike w'' :=
  ⟨h.previous.trans h'.previous, h.status.trans h'.status, h.cycles.trans h'.cycles⟩

end WatchState

/-- What the domains of a cycle were built from, the clock aside. -/
def Inputs.sources {S : Type} (i : Inputs S) : S × S × Overrides :=
  (i.previous, i.current, i.overrides)

/-- All there is to a cycle but its reading of the clock and the loop after it: what its domains
were built from, their calls and outcomes, the host after it, and the reports. -/
def CycleDone.course (c : CycleDone) : (Snapshot × Snapshot × Overrides) × Dispatched Host × Log :=
  (c.inputs.sources, c.dispatched, c.fileLog)

/-- Two cycles read the same overrides, and their readings of the clock make no difference to the
domains. -/
structure CycleDone.ReadsAs (registry : Registry Snapshot Host) (c c' : CycleDone) : Prop where
  overrides : c.inputs.overrides = c'.inputs.overrides
  clock : registry.instantiate (c.inputs.at c'.inputs.now) = registry.instantiate c.inputs

/-- The agent only minds expiries. -/
theorem CycleDone.readsAs_agent {c c' : CycleDone}
    (hoverrides : c.inputs.overrides = c'.inputs.overrides)
    (hexpiries : c.inputs.current.NoExpiryBetween c.inputs.now c'.inputs.now) :
    c.ReadsAs Registry.agent c' :=
  ⟨hoverrides, Registry.instantiate_at hexpiries⟩

/-- Two setups have the same domains, the override file at the same path, and tasks that take the
same turns and have the same numbers. Everything that has to do with time, and what is made of the
override file, may differ. -/
structure WatchSetup.SameDispatches (s s' : WatchSetup) : Prop where
  registry : s.registry = s'.registry
  overridePath : s.overridePath = s'.overridePath
  order : s.order = s'.order
  numbers : s.numbers = s'.numbers

/-- The report on an override file does not depend on the order in which it is listed. -/
theorem Overrides.log_load (path : String) (file : FileContents) (walk walk' : Ini.Walk) :
    (load path file walk).2 = (load path file walk').2 := by
  cases file with
  | absent => rfl
  | directory => rfl
  | bytes contents =>
      simp only [load, ofFile]
      cases Utf8.decode? contents with
      | none => rfl
      | some text =>
          simp only [ofText]
          cases Ini.read text with
          | error fault => rfl
          | ok items => rfl

/-- Alike states go through the same cycle if it reads the same, and are alike after it. -/
theorem WatchState.Alike.cycleOf {w w' : WatchState} {s s' : WatchSetup} {time time' : Nat}
    {around : Surroundings} {snapshot : Snapshot} (h : w.Alike w') (hs : s.SameDispatches s')
    (hreads : (s.cycleOf time w.fetched around snapshot).ReadsAs s.registry
      (s'.cycleOf time' w'.fetched around snapshot)) :
    (s'.cycleOf time' w'.fetched around snapshot).course
        = (s.cycleOf time w.fetched around snapshot).course
      ∧ (s.cycleOf time w.fetched around snapshot).state.Alike
        (s'.cycleOf time' w'.fetched around snapshot).state := by
  let done := s.cycleOf time w.fetched around snapshot
  let done' := s'.cycleOf time' w'.fetched around snapshot
  have hinputs : done'.inputs = done.inputs.at done'.inputs.now := by
    have hprevious : done'.inputs.previous = done.inputs.previous := h.previous.symm
    have hoverrides : done'.inputs.overrides = done.inputs.overrides := hreads.overrides.symm
    calc done'.inputs
        = ⟨done'.inputs.previous, snapshot, done'.inputs.overrides, done'.inputs.now⟩ := rfl
      _ = done.inputs.at done'.inputs.now := by
        rw [hprevious, hoverrides]
        rfl
  have hdomains : s'.registry.instantiate done'.inputs = s.registry.instantiate done.inputs := by
    rw [← hs.registry, hinputs]
    exact hreads.clock
  have hdispatched : done'.dispatched = done.dispatched := by
    rw [s.dispatched_cycleOf, s'.dispatched_cycleOf, hdomains, ← hs.order, ← hs.numbers]
    show dispatchIn _ _ _ w'.status _ = dispatchIn _ _ _ w.status _
    rw [h.status, show w'.fetched.stats.cycles = w.fetched.stats.cycles from h.cycles.symm]
  have hlog : done'.fileLog = done.fileLog := by
    show (Overrides.load s'.overridePath _ _).2 = (Overrides.load s.overridePath _ _).2
    rw [hs.overridePath, Overrides.log_load]
  refine ⟨?_, rfl, congrArg (·.status) hdispatched.symm, congrArg (· + 1) h.cycles⟩
  show done'.course = done.course
  rw [CycleDone.course, CycleDone.course, hdispatched, hlog, hinputs]
  rfl

namespace WatchSetup

variable (s : WatchSetup)

/-- The cycles of a replay are those of the deliveries. -/
theorem inputs_replay (time : Nat) (w : WatchState) (around : Surroundings)
    (answers : List Answer) :
    (s.replay time w around answers).cycles.map (·.inputs.current)
        = (deliveries around.overrides answers).map (·.1)
      ∧ (s.replay time w around answers).cycles.map (·.inputs.previous)
        = (w.previous :: (deliveries around.overrides answers).map (·.1)).dropLast
      ∧ (s.replay time w around answers).cycles.map (·.inputs.overrides)
        = (deliveries around.overrides answers).mapIdx (fun k delivery =>
          (Overrides.load s.overridePath delivery.2 (s.walk (w.stats.cycles + k))).1)
      ∧ (s.replay time w around answers).state.stats.cycles
        = w.stats.cycles + (deliveries around.overrides answers).length := by
  induction answers generalizing time w around with
  | nil => exact ⟨rfl, rfl, rfl, rfl⟩
  | cons answer answers ih =>
      obtain ⟨steps, error | snapshot⟩ := answer
      · have h := ih (time + FetchStep.durations steps + s.backoff) (w.fetchFailed error).1
          (around.after steps)
        have hw := w.alike_fetchFailed error
        rw [hw.previous, hw.cycles] at h
        rw [deliveries_error]
        exact h
      · let begun := time + FetchStep.durations steps
        let done := s.cycleOf begun w.fetched (around.after steps) snapshot
        obtain ⟨hcurrent, hprevious, hoverrides, hcycles⟩ :=
          ih (begun + done.dispatched.elapsed) done.state
            ⟨done.dispatched.host, (around.after steps).overrides⟩
        have hnumbers : ∀ k, done.state.stats.cycles + k = w.stats.cycles + (k + 1) :=
          fun k => Nat.add_right_comm w.stats.cycles 1 k
        simp only [hnumbers] at hoverrides
        rw [deliveries_snapshot, List.mapIdx_cons]
        refine ⟨congrArg (snapshot :: ·) hcurrent, congrArg (w.previous :: ·) hprevious,
          congrArg (_ :: ·) hoverrides, hcycles.trans ?_⟩
        exact hnumbers _

end WatchSetup

/-! ## Scripts without failed fetches -/

/-- Whether a step changes the surroundings. -/
def FetchStep.isChange : FetchStep → Bool
  | .wait _ => false
  | _ => true

/-- A script without its failed fetches. What they change is left to the next fetch; `changes`
were left to the first one. -/
def Script.successes (changes : List FetchStep) (last : List FetchStep) : List Answer → Script
  | [] => ⟨[], changes ++ last⟩
  | ⟨steps, .error _⟩ :: answers =>
    Script.successes (changes ++ steps.filter FetchStep.isChange) last answers
  | ⟨steps, .ok snapshot⟩ :: answers =>
    let rest := Script.successes [] last answers
    { rest with answers := ⟨changes ++ steps, .ok snapshot⟩ :: rest.answers }

/-- The script without its failed fetches. -/
def Script.withoutFailures (script : Script) : Script :=
  Script.successes [] script.last script.answers

/-- The results that are left are the snapshots. -/
theorem Script.map_result_successes (changes last : List FetchStep) (answers : List Answer) :
    (Script.successes changes last answers).answers.map (·.result.toOption)
      = (answers.map (·.result.toOption)).filter Option.isSome := by
  induction answers generalizing changes with
  | nil => rfl
  | cons answer answers ih =>
      obtain ⟨steps, error | snapshot⟩ := answer
      · exact ih _
      · exact congrArg (some snapshot :: ·) (ih [])

theorem Surroundings.after_changes (around : Surroundings) (steps : List FetchStep) :
    around.after (steps.filter FetchStep.isChange) = around.after steps := by
  induction steps generalizing around with
  | nil => rfl
  | cons step steps ih =>
      cases step with
      | wait duration => exact ih around
      | overrides file => exact ih _
      | failing domain fail => exact ih _

/-- The fetches that are left deliver the same snapshots, each with the same override file. -/
theorem Script.deliveries_successes (file : FileContents) (changes last : List FetchStep)
    (answers : List Answer) :
    deliveries file (Script.successes changes last answers).answers
      = deliveries (fileAfter file changes) answers := by
  have hchanges : ∀ (file : FileContents) (steps : List FetchStep),
      fileAfter file (steps.filter FetchStep.isChange) = fileAfter file steps := by
    intro file steps
    have hafter := Surroundings.after_changes ⟨Host.fresh, file⟩ steps
    simpa only [Surroundings.overrides_after] using congrArg (·.overrides) hafter
  have happend : ∀ steps : List FetchStep,
      fileAfter file (changes ++ steps) = fileAfter (fileAfter file changes) steps :=
    fun steps => List.foldl_append
  induction answers generalizing file changes with
  | nil => rfl
  | cons answer answers ih =>
      obtain ⟨steps, error | snapshot⟩ := answer
      · rw [Script.successes, ih _ _ fun _ => List.foldl_append, deliveries, fileAfter,
          List.foldl_append]
        exact congrArg (deliveries · answers) (hchanges _ steps)
      · rw [Script.successes, deliveries, deliveries, happend, ih _ _ fun _ => List.foldl_append]
        rfl

/-- The cycles of the same number in two lists read the same. -/
def SameReadings (registry : Registry Snapshot Host) (cycles cycles' : List CycleDone) : Prop :=
  ∀ pair ∈ cycles.zip cycles', pair.1.ReadsAs registry pair.2

namespace WatchSetup

variable {s s' : WatchSetup}

/-- Leaving out the failed fetches changes no cycle and nothing that is left in the end. -/
theorem replay_successes (hs : s.SameDispatches s') {time time' : Nat} {w w' : WatchState}
    (h : w.Alike w') (around : Surroundings) (changes last : List FetchStep)
    (answers : List Answer)
    (hreads : SameReadings s.registry (s.replay time w (around.after changes) answers).cycles
      (s'.replay time' w' around (Script.successes changes last answers).answers).cycles) :
    (s'.replay time' w' around (Script.successes changes last answers).answers).cycles.map
        CycleDone.course
        = (s.replay time w (around.after changes) answers).cycles.map CycleDone.course
      ∧ (s.replay time w (around.after changes) answers).state.Alike
        (s'.replay time' w' around (Script.successes changes last answers).answers).state
      ∧ (s'.replay time' w' around (Script.successes changes last answers).answers).around.after
          (Script.successes changes last answers).last
        = (s.replay time w (around.after changes) answers).around.after last := by
  induction answers generalizing time time' w w' around changes with
  | nil => exact ⟨rfl, h, Surroundings.after_append around changes last⟩
  | cons answer answers ih =>
      obtain ⟨steps, error | snapshot⟩ := answer
      · -- the failed fetch is gone, and its changes wait for the next one
        have hchanges : around.after (changes ++ steps.filter FetchStep.isChange)
            = (around.after changes).after steps := by
          rw [Surroundings.after_append, Surroundings.after_changes]
        have hrest := @ih (time + FetchStep.durations steps + s.backoff) time'
          (w.fetchFailed error).1 w' ((w.alike_fetchFailed error).trans h) around
          (changes ++ steps.filter FetchStep.isChange)
        rw [hchanges] at hrest
        exact hrest hreads
      · -- both runs dispatch the same cycle, so the next fetch finds the same host
        let met := (around.after changes).after steps
        let begun := time + FetchStep.durations steps
        let begun' := time' + FetchStep.durations (changes ++ steps)
        let done := s.cycleOf begun w.fetched met snapshot
        let done' := s'.cycleOf begun' w'.fetched met snapshot
        let later := s.replay (begun + done.dispatched.elapsed) done.state
          ⟨done.dispatched.host, met.overrides⟩ answers
        let later' := s'.replay (begun' + done'.dispatched.elapsed) done'.state
          ⟨done'.dispatched.host, met.overrides⟩ (Script.successes [] last answers).answers
        have hrun : s.replay time w (around.after changes) (⟨steps, .ok snapshot⟩ :: answers)
            = { later with cycles := done :: later.cycles } := rfl
        have hquiet : s'.replay time' w' around
              (⟨changes ++ steps, .ok snapshot⟩ :: (Script.successes [] last answers).answers)
            = { later' with cycles := done' :: later'.cycles } := by
          rw [replay, Surroundings.after_append]
        simp only [Script.successes] at hreads ⊢
        rw [hrun, hquiet] at hreads ⊢
        obtain ⟨hcourse, halike⟩ := h.cycleOf hs (hreads (done, done') List.mem_cons_self)
        have hdispatched : done'.dispatched = done.dispatched := congrArg (·.2.1) hcourse
        have hlater : later' = s'.replay (begun' + done'.dispatched.elapsed) done'.state
            ⟨done.dispatched.host, met.overrides⟩ (Script.successes [] last answers).answers := by
          rw [← hdispatched]
        obtain ⟨hcycles, hrest⟩ := ih halike ⟨done.dispatched.host, met.overrides⟩ []
          fun pair hpair => hreads pair (List.mem_cons_of_mem _ (by rw [hlater]; exact hpair))
        rw [hlater, List.map_cons, List.map_cons, hcourse]
        exact ⟨congrArg (_ :: ·) hcycles, hrest⟩

end WatchSetup

/-- The cycles of a run that was stopped are those of the given deliveries: for the snapshots in
their order, each after the one before it, under the override file as it was. -/
structure Run.Dispatches (s : WatchSetup) (delivered : List (Snapshot × FileContents)) (r : Run) :
    Prop where
  stopped : r.ending = .stopped
  current : r.cycles.map (·.inputs.current) = delivered.map (·.1)
  previous : r.cycles.map (·.inputs.previous) = (Snapshot.empty :: delivered.map (·.1)).dropLast
  overrides : r.cycles.map (·.inputs.overrides) = delivered.mapIdx fun k delivery =>
    (Overrides.load s.overridePath delivery.2 (s.walk k)).1
  count : r.stats.cycles = delivered.length

/-- A run over a script dispatches what its fetches deliver. -/
theorem WatchSetup.dispatches_run {s : WatchSetup} (hs : s.signalAt = none)
    (around : Surroundings) (script : Script) :
    (s.run around script.fetches).Dispatches s (deliveries around.overrides script.answers) := by
  obtain ⟨hcycles, hstats, hending, -⟩ := s.run_script around hs script
  obtain ⟨hcurrent, hprevious, hoverrides, hcount⟩ := s.inputs_replay 0 {} around script.answers
  constructor
  · exact hending
  · rw [hcycles, hcurrent]
  · rw [hcycles, hprevious]
  · rw [hcycles, hoverrides]
    refine congrArg (List.mapIdx · _) ?_
    funext k delivery
    rw [show ({} : WatchState).stats.cycles + k = k from Nat.zero_add k]
  · rw [hstats, hcount, Nat.zero_add]

/-- **The cycles are those of the fetched snapshots, and failed fetches show in them by the time
they take only.** For every script and every registry the current snapshots of the cycles are the
snapshots that are fetched, the last snapshots are the same ones moved by one, whatever became of
the cycles, and the overrides are those of the file as each fetch left it.

All this holds of the script without the failed fetches as well. It may be run at another time, and
list its files in another order. If its cycles still read the same overrides as those of the script,
and no reading of the clock makes a difference to their domains, they are the same cycles, with the
same calls, outcomes and hosts, and leave the same behind. -/
theorem succession_of_snapshots (s s' : WatchSetup) (hs : s.signalAt = none)
    (hs' : s'.signalAt = none) (hsame : s.SameDispatches s') (around : Surroundings)
    (script : Script) :
    let delivered := deliveries around.overrides script.answers
    let r := s.run around script.fetches
    let quiet := s'.run around script.withoutFailures.fetches
    r.Dispatches s delivered
      ∧ quiet.Dispatches s' delivered
      ∧ script.withoutFailures.answers.map (·.result.toOption)
        = (script.answers.map (·.result.toOption)).filter Option.isSome
      ∧ (SameReadings s.registry r.cycles quiet.cycles →
        quiet.cycles.map CycleDone.course = r.cycles.map CycleDone.course
          ∧ quiet.around = r.around) := by
  intro delivered r quiet
  have hdelivered : deliveries around.overrides script.withoutFailures.answers = delivered :=
    Script.deliveries_successes around.overrides [] script.last script.answers
  refine ⟨s.dispatches_run hs around script, ?_,
    Script.map_result_successes [] script.last script.answers, fun hreads => ?_⟩
  · exact hdelivered ▸ s'.dispatches_run hs' around script.withoutFailures
  · obtain ⟨hcycles, -, -, haround⟩ := s.run_script around hs script
    obtain ⟨hcycles', -, -, haround'⟩ := s'.run_script around hs' script.withoutFailures
    rw [hcycles, hcycles'] at hreads
    obtain ⟨hcourse, -, hleft⟩ := WatchSetup.replay_successes hsame (.refl {}) around []
      script.last script.answers hreads
    constructor
    · rw [hcycles, hcycles']
      exact hcourse
    · rw [haround, haround']
      exact hleft

/-- The agent with a pause of five seconds, and a clock that starts with the run. -/
def pausingSetup : WatchSetup where
  registry := .agent
  overridePath := ""
  backoff := 5000
  clock time := ⟨time / 1000, 0⟩

/-- The agent an hour later, with other walks through its files. -/
def laterSetup : WatchSetup where
  registry := .agent
  overridePath := ""
  backoff := 5000
  clock time := ⟨3600 + time / 1000, 0⟩
  walk number := if number = 0 then capitalsLast else {}

/-- A machine with one attribute, which names its cluster. -/
def oneAttribute : Snapshot where
  machine := { attributes := Dict.ofList [("wsfc-addrs", "10.0.0.1")] }

/-- Three failed fetches around two good ones. The override file changes in the first, and
the cluster domain begins to fail in the last. -/
def flakyScript : Script where
  answers := [
    ⟨[.overrides (.bytes "[wsfc]\nport = 7".toUTF8.toList), .wait 9], .error (.dns "no such host")⟩,
    ⟨[.wait 2], .ok oneAttribute⟩,
    ⟨[], .error (.status 503 "")⟩,
    ⟨[.wait 30, .failing "cluster" true], .error (.network "timed out")⟩,
    ⟨[.overrides .absent], .ok Snapshot.empty⟩]
  last := [.wait 1]

theorem succession_in_flaky_run :
    (pausingSetup.run {} flakyScript.fetches).cycles.map (·.inputs.current)
        = [oneAttribute, Snapshot.empty]
      ∧ (pausingSetup.run {} flakyScript.fetches).cycles.map (·.inputs.previous)
        = [Snapshot.empty, oneAttribute]
      ∧ (pausingSetup.run {} flakyScript.fetches).cycles.map (·.inputs.overrides)
        = [Overrides.ofEntries [⟨"wsfc", "port", "7"⟩], Overrides.empty]
      ∧ flakyScript.withoutFailures.answers.length = 2
      ∧ (laterSetup.run {} flakyScript.withoutFailures.fetches).cycles.map CycleDone.course
        = (pausingSetup.run {} flakyScript.fetches).cycles.map CycleDone.course
      ∧ (laterSetup.run {} flakyScript.withoutFailures.fetches).stats.cycles = 2 := by
  obtain ⟨hrun, hquiet, -, hcourse⟩ :=
    succession_of_snapshots pausingSetup laterSetup rfl rfl ⟨rfl, rfl, rfl, rfl⟩ {} flakyScript
  have hreads : SameReadings pausingSetup.registry
      (pausingSetup.run {} flakyScript.fetches).cycles
      (laterSetup.run {} flakyScript.withoutFailures.fetches).cycles := by
    have hcycles : ∀ pair ∈ (pausingSetup.run {} flakyScript.fetches).cycles.zip
        (laterSetup.run {} flakyScript.withoutFailures.fetches).cycles,
          pair.1.inputs.overrides = pair.2.inputs.overrides
            ∧ pair.1.inputs.current.NoExpiryBetween pair.1.inputs.now pair.2.inputs.now := by
      decide +kernel
    exact fun pair hpair =>
      CycleDone.readsAs_agent (hcycles pair hpair).1 (hcycles pair hpair).2
  refine ⟨hrun.current, hrun.previous, hrun.overrides.trans ?_, rfl, (hcourse hreads).1,
    hquiet.count⟩
  decide +kernel

/-- A machine with an account that expires three seconds after the start. -/
def shortLivedAccount : Snapshot where
  machine := { attributes := Dict.ofList [("windows-keys",
    "\x7b\"userName\":\"ann\",\"modulus\":\"m\",\"exponent\":\"e\","
      ++ "\"expireOn\":\"1970-01-01T00:00:03Z\"\x7d")] }

/-- A failed fetch, in which an override file appears, and a good one. -/
def lateScript (file : FileContents) (snapshot : Snapshot) : Script where
  answers := [⟨[.overrides file], .error (.dns "no such host")⟩, ⟨[], .ok snapshot⟩]

/-- **A failed fetch may show in the cycle after it.** An account expires in the pause that follows
it; and even without a pause the script run again may read another one of two ports. -/
theorem failed_fetch_noticed :
    (¬∀ (s : WatchSetup) (script : Script), s.signalAt = none →
      (s.run {} script.withoutFailures.fetches).cycles.map (·.dispatched.host.state)
        = (s.run {} script.fetches).cycles.map (·.dispatched.host.state))
    ∧ ¬∀ (s : WatchSetup) (walk : Nat → Ini.Walk) (script : Script), s.signalAt = none →
      (WatchSetup.run { s with walk := walk } {} script.withoutFailures.fetches).cycles.map
          (·.dispatched.host.state)
        = (s.run {} script.fetches).cycles.map (·.dispatched.host.state) := by
  constructor
  · intro h
    have hstates := h pausingSetup (lateScript .absent shortLivedAccount) rfl
    revert hstates
    decide +kernel
  · intro h
    have hstates := h pausingSetup (fun _ => capitalsLast)
        (lateScript twoPortsFile oneAttribute) rfl
    revert hstates
    decide +kernel

end HostAgent
