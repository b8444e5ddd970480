import HostAgent.Proofs.Agent.Tasks
import HostAgent.Proofs.Watch.LateSignal

set_option autoImplicit false

/-! # The loop of the agent and the plain loop

As long as the shell waits, the task of the loop is on the way that the plain loop makes without a
signal: it has made some trips, and of the next one a part (`Stands`). Every turn keeps it on that
way (`Stands.move`), provided that the loop is never late (`Place.Timely`).

So a loop that waits when it is told to stop ends like the plain loop that is given the signal then
(`Stands.signalledAfter`). A loop that has panicked ends like the plain loop without a signal
(`Stands.run_of_panicked`), and the host is as the last completed cycle has left it
(`Stands.record_eq`).
-/

namespace HostAgent.Agent

open WatchSetup

/-! ## On the way of the plain loop -/

/-- Whether the loop is up to date: nothing was due before `now`. -/
def Place.Timely (backoff now : Nat) : Place → Prop
  | .fetching since (.wait duration :: _) _ => since ≤ now ∧ now ≤ since + duration
  | .fetching since [] .hang => since ≤ now
  | .fetching since _ _ => now = since
  | .pausing since => since ≤ now ∧ now ≤ since + backoff
  | .dispatching finish _ _ => now ≤ finish
  | _ => True

theorem Place.timely_fetching (backoff now : Nat) (steps : List FetchStep) (ending : FetchEnd) :
    (Place.fetching now steps ending).Timely backoff now := by
  cases steps with
  | nil => cases ending <;> first | exact rfl | exact Nat.le_refl now
  | cons step steps =>
      cases step with
      | wait duration => exact ⟨Nat.le_refl now, Nat.le_add_right now duration⟩
      | overrides | failing => exact rfl

section

variable {s : WatchSetup} {around : Surroundings} {fetches : List Fetch} {now later : Nat}
  {l l' : LoopTask} {points course : Trace}

/-- Time does not pass beyond what is due. -/
theorem Place.Timely.pass {place : Place} (h : place.Timely s.backoff now) (hlt : now < later)
    (hidle : place.IdleUntil s.backoff false later) : place.Timely s.backoff later := by
  cases place with
  | fetching since steps ending =>
      cases steps with
      | nil =>
          cases ending with
          | hang =>
              have hsince : since ≤ now := h
              show since ≤ later
              omega
          | snapshot | failure | panic => exact absurd hidle id
      | cons step steps =>
          cases step with
          | wait duration =>
              have hsince : since ≤ now := h.1
              exact ⟨by omega, hidle.2⟩
          | overrides | failing => exact absurd hidle id
  | pausing since =>
      have hsince : since ≤ now := h.1
      exact ⟨by omega, hidle.2⟩
  | dispatching => exact hidle.1
  | idle => exact True.intro
  | unborn | turning | returned | panicked => exact absurd hidle id

/-- What a fetch that waits has come to, it came to before. -/
theorem Place.Timely.le_of_waits {since : Nat} {steps : List FetchStep} {ending : FetchEnd}
    (h : (Place.fetching since steps ending).Timely s.backoff now)
    (hwaits : (Place.fetching since steps ending).Waits s.backoff now) : since ≤ now := by
  cases steps with
  | nil =>
      cases ending with
      | hang => exact h
      | snapshot | failure | panic => exact absurd hwaits id
  | cons step steps =>
      cases step with
      | wait duration => exact h.1
      | overrides | failing => exact absurd hwaits id

/-- A turn of the loop leaves it up to date. -/
theorem Place.Timely.move {stopped : Bool} (h : l.place.Timely s.backoff now)
    (hmove : Move s stopped now l points l') : l'.place.Timely s.backoff now := by
  cases hmove with
  | begins | wakes => exact timely_fetching s.backoff now _ _
  | @acts since step steps ending w a fs hstep =>
      have hnow : now = since := by
        cases step with
        | wait d => exact absurd rfl (hstep d)
        | overrides | failing => exact h
      subst hnow
      exact timely_fetching s.backoff now steps ending
  | fails => exact ⟨Nat.le_refl now, Nat.le_add_right now s.backoff⟩
  | dispatches => exact Nat.le_add_right now _
  | reports => exact h
  | starts | exhausts | resumes | panics | skips | joins | stops => exact True.intro

/-- The plain loop has come to the standing `p` without a signal, `rest` being the fetches left. -/
structure Came (s : WatchSetup) (around : Surroundings) (fetches passed rest : List Fetch)
    (trace : Trace) (p : Standing) : Prop where
  fetches_eq : fetches = passed ++ rest
  never : p.signal = .never
  trips : Trips s (.fresh around) passed trace p

/-- The course of the plain loop up to a standing. -/
def courseTo (s : WatchSetup) (trace : Trace) : Trace := eventsAt 0 [s.startEvent] ++ trace

/-- The task of the loop is on the way of the plain loop, with the given course. -/
inductive Stands (s : WatchSetup) (around : Surroundings) (fetches : List Fetch) :
    Nat → LoopTask → Trace → Prop
  | unborn : Stands s around fetches 0 ⟨.unborn, {}, around, fetches⟩ []
  | turning {passed rest : List Fetch} {trace : Trace} {p : Standing}
      (h : Came s around fetches passed rest trace p) :
      Stands s around fetches p.time ⟨.turning, p.state, p.around, rest⟩ (courseTo s trace)
  | exhausted {passed : List Fetch} {trace : Trace} {p : Standing} {now : Nat}
      (h : Came s around fetches passed [] trace p) :
      Stands s around fetches now ⟨.idle, p.state, p.around, []⟩ (courseTo s trace)
  | fetching {passed rest : List Fetch} {trace : Trace} {p : Standing} {fetch : Fetch}
      {taken steps : List FetchStep} {since now : Nat} {a : Surroundings} {ending : FetchEnd}
      (h : Came s around fetches passed (fetch :: rest) trace p)
      (hsteps : fetch.steps = taken ++ steps) (hend : fetch.ending = ending)
      (hsince : since = p.time + FetchStep.durations taken) (ha : a = p.around.after taken) :
      Stands s around fetches now ⟨.fetching since steps ending, p.state, a, rest⟩
        (courseTo s trace ++ p.begun)
  | pausing {passed rest : List Fetch} {trace : Trace} {p : Standing} {fetch : Fetch}
      {error : FetchError} {now : Nat} (h : Came s around fetches passed (fetch :: rest) trace p)
      (hend : fetch.ending = .failure error) :
      Stands s around fetches now
        ⟨.pausing (p.due fetch), (p.state.fetchFailed error).1, p.met fetch, rest⟩
        (courseTo s trace ++ (p.begun ++ eventsAt (p.due fetch) (p.state.fetchFailed error).2))
  | dispatching {passed rest : List Fetch} {trace said unsaid : Trace} {p : Standing}
      {fetch : Fetch} {snapshot : Snapshot} {done : CycleDone} {finish now : Nat}
      (h : Came s around fetches passed (fetch :: rest) trace p)
      (hend : fetch.ending = .snapshot snapshot) (hdone : done = p.cycleDone fetch s snapshot)
      (hfinish : finish = p.due fetch + done.dispatched.elapsed)
      (hsaid : said ++ unsaid = cycleEvents (p.due fetch) done) :
      Stands s around fetches now
        ⟨.dispatching finish unsaid done, p.state.fetched, p.met fetch, rest⟩
        (courseTo s trace ++ (p.begun ++ said))
  | panicked {passed rest : List Fetch} {trace : Trace} {p : Standing} {fetch : Fetch}
      {message : String} (h : Came s around fetches passed (fetch :: rest) trace p)
      (hend : fetch.ending = .panic message) :
      Stands s around fetches (p.due fetch) ⟨.panicked message, p.state, p.met fetch, rest⟩
        (courseTo s trace ++ p.begun)

theorem Came.signals_eq {passed rest : List Fetch} {trace : Trace} {p : Standing} {fetch : Fetch}
    (h : Came s around fetches passed (fetch :: rest) trace p)
    (hf : ∀ fetch ∈ fetches, fetch.signals = false) : fetch.signals = false := by
  refine hf fetch ?_
  rw [h.fetches_eq]
  exact List.mem_append_right passed List.mem_cons_self

/-- One more trip of the plain loop. -/
theorem Came.trip {passed rest : List Fetch} {trace trace' : Trace} {p p' : Standing}
    {fetch : Fetch} (h : Came s around fetches passed (fetch :: rest) trace p)
    (hf : ∀ fetch ∈ fetches, fetch.signals = false) (htrip : Trip s p fetch trace' p') :
    Came s around fetches (passed ++ [fetch]) rest (trace ++ trace') p' where
  fetches_eq := by rw [h.fetches_eq, List.append_assoc, List.singleton_append]
  never := htrip.signal_eq_never h.never (h.signals_eq hf)
  trips := h.trips.concat htrip

theorem Stands.pass (h : Stands s around fetches now l course)
    (hidle : l.place.IdleUntil s.backoff false later) : Stands s around fetches later l course := by
  cases h with
  | unborn | turning | panicked => exact absurd hidle id
  | exhausted h => exact .exhausted h
  | fetching h hsteps hend hsince ha => exact .fetching h hsteps hend hsince ha
  | pausing h hend => exact .pausing h hend
  | dispatching h hend hdone hfinish hsaid => exact .dispatching h hend hdone hfinish hsaid

/-- The steps of a fetch are all taken. -/
theorem due_of_taken {p : Standing} {fetch : Fetch} {taken : List FetchStep} {since : Nat}
    {a : Surroundings} (hsteps : fetch.steps = taken ++ [])
    (hsince : since = p.time + FetchStep.durations taken) (ha : a = p.around.after taken) :
    since = p.due fetch ∧ a = p.met fetch := by
  rw [List.append_nil] at hsteps
  rw [hsince, ha, Standing.due, Standing.met, Fetch.duration, hsteps]
  exact ⟨rfl, rfl⟩

/-- **A turn keeps the loop on its way.** -/
theorem Stands.move (h : Stands s around fetches now l course)
    (htimely : l.place.Timely s.backoff now) (hf : ∀ fetch ∈ fetches, fetch.signals = false)
    (hmove : Move s false now l points l') : Stands s around fetches now l' (course ++ points) := by
  cases h with
  | unborn =>
      cases hmove with
      | starts => exact .turning ⟨rfl, rfl, .none _⟩
      | stops hstopped => cases hstopped
  | turning h =>
      cases hmove with
      | begins => exact .fetching h (List.nil_append _).symm rfl rfl rfl
      | exhausts =>
          rw [List.append_nil]
          exact .exhausted h
      | stops hstopped => cases hstopped
  | exhausted h =>
      cases hmove with
      | stops hstopped => cases hstopped
  | @fetching passed rest trace p fetch taken steps since now a ending h hsteps hend hsince ha =>
      cases hmove with
      | @wakes _ duration steps _ _ _ _ hdue =>
          -- a loop that is up to date wakes at the very moment at which the wait is over
          have hnow : now = p.time + FetchStep.durations (taken ++ [.wait duration]) := by
            rw [FetchStep.durations_append, ← Nat.add_assoc, ← hsince]
            exact Nat.le_antisymm htimely.2 hdue
          rw [List.append_nil]
          have htaken : fetch.steps = taken ++ [.wait duration] ++ steps := by
            rw [List.append_assoc]
            exact hsteps
          refine .fetching h htaken hend hnow ?_
          · rw [Surroundings.after, List.foldl_append, ha]
            rfl
      | @acts _ step steps _ _ _ _ hstep =>
          -- what is no wait takes no time
          have hinstant : FetchStep.durations [step] = 0 := by
            cases step with
            | wait d => exact absurd rfl (hstep d)
            | overrides | failing => rfl
          rw [List.append_nil]
          have htaken : fetch.steps = taken ++ [step] ++ steps := by
            rw [List.append_assoc]
            exact hsteps
          refine .fetching h htaken hend ?_ ?_
          · rw [FetchStep.durations_append, hinstant, Nat.add_zero]
            exact hsince
          · rw [Surroundings.after, List.foldl_append, ha]
            rfl
      | fails =>
          have hnow : now = since := htimely
          obtain ⟨rfl, rfl⟩ := due_of_taken hsteps hsince ha
          rw [hnow, List.append_assoc]
          exact .pausing h hend
      | panics =>
          have hnow : now = since := htimely
          obtain ⟨rfl, rfl⟩ := due_of_taken hsteps hsince ha
          rw [hnow, List.append_nil]
          exact .panicked h hend
      | dispatches _ hdone =>
          -- nor has it fallen behind the reading of the clock
          have hnow : now = since := htimely
          obtain ⟨rfl, rfl⟩ := due_of_taken hsteps hsince ha
          rw [hnow] at hdone
          rw [hnow, List.append_nil]
          rw [← List.append_nil p.begun]
          exact .dispatching h hend hdone rfl (List.nil_append _)
      | skips hstopped | stops hstopped => cases hstopped
  | @pausing passed rest trace p fetch error now h hend =>
      cases hmove with
      | resumes hdue =>
          have hnow : now = p.due fetch + s.backoff := Nat.le_antisymm htimely.2 hdue
          have hcame := h.trip hf (.failed h.never (h.signals_eq hf) hend)
          rw [hnow, List.append_nil, courseTo, List.append_assoc]
          exact .turning hcame
      | stops hstopped => cases hstopped
  | @dispatching passed rest trace said unsaid p fetch snapshot done finish now h hend hdone hfinish
      hsaid =>
      cases hmove with
      | @reports _ mark unsaid =>
          rw [List.append_assoc, List.append_assoc]
          refine .dispatching h hend hdone hfinish ?_
          rw [List.append_assoc]
          exact hsaid
      | joins hdue =>
          -- everything is said, so the course is that of a whole trip
          have hnow : now = finish := Nat.le_antisymm htimely hdue
          have hcame := h.trip hf (.dispatched h.never (h.signals_eq hf) hend)
          rw [List.append_nil] at hsaid
          subst hdone hfinish hsaid
          rw [hnow, courseTo, List.append_assoc, List.append_assoc, List.append_assoc]
          exact .turning hcame
      | stops hstopped => cases hstopped
  | panicked h hend =>
      cases hmove with
      | stops hstopped => cases hstopped

/-! ## The plain loop with the signal -/

/-- The last fetch of a course that ends with its beginning. -/
theorem getLast?_fetchTimes_begun (course : Trace) (p : Standing) :
    (Trace.fetchTimes (course ++ p.begun)).getLast? = some p.time := by
  rw [Trace.fetchTimes_append, Trace.fetchTimes_begun, List.getLast?_append]
  rfl

theorem getLast?_fetchTimes_failed (course : Trace) (p : Standing) (time : Nat) (log : Log) :
    (Trace.fetchTimes (course ++ (p.begun ++ eventsAt time log))).getLast? = some p.time := by
  rw [← List.append_assoc, Trace.fetchTimes_append, Trace.fetchTimes_eventsAt, List.append_nil,
    getLast?_fetchTimes_begun]

theorem Came.quiet {passed rest : List Fetch} {trace : Trace} {p : Standing}
    (h : Came s around fetches passed rest trace p)
    (hf : ∀ fetch ∈ fetches, fetch.signals = false) : ∀ fetch ∈ passed, fetch.signals = false := by
  intro fetch hmem
  refine hf fetch ?_
  rw [h.fetches_eq]
  exact List.mem_append_left rest hmem

/-- Given the signal in the fetch it has come to, the plain loop goes on from its standing. -/
theorem Came.signalledAfter {passed rest : List Fetch} {trace trace' : Trace} {p : Standing}
    {r : Run} (h : Came s around fetches passed rest trace p)
    (hf : ∀ fetch ∈ fetches, fetch.signals = false) (hle : p.time ≤ now)
    (hrun : (s.signalled (some now)).runAt { p with signal := ⟨some now, false⟩ } rest
      = before trace' r) :
    s.SignalledAfter around fetches p.time now (before (courseTo s trace ++ trace') r) := by
  refine ⟨passed, rest, trace, p, h.fetches_eq, ?_, rfl, hle, ?_⟩
  · exact (h.trips.signalled rfl (h.quiet hf) (some now)).2
  · rw [hrun, before_before]
    rfl

/-- **A loop that waits stops like the plain loop that is given the signal.** -/
theorem Stands.signalledAfter (h : Stands s around fetches now l course)
    (htimely : l.place.Timely s.backoff now) (hf : ∀ fetch ∈ fetches, fetch.signals = false)
    (hwaits : l.place.Waits s.backoff now) :
    ∃ begun, (Trace.fetchTimes course).getLast? = some begun
      ∧ s.SignalledAfter around fetches begun now
        (before course (stop ⟨some now, false⟩ now l.state l.around)) := by
  cases h with
  | unborn | turning | exhausted | dispatching | panicked => exact absurd hwaits id
  | @fetching passed rest trace p fetch taken steps since now a ending h hsteps hend hsince ha =>
      refine ⟨p.time, getLast?_fetchTimes_begun _ p, ?_⟩
      cases steps with
      | nil =>
          obtain ⟨rfl, rfl⟩ := due_of_taken hsteps hsince ha
          cases ending with
          | hang =>
              have hle : p.due fetch ≤ now := htimely
              exact h.signalledAfter hf (Nat.le_trans (p.due_le fetch) hle)
                (runAt_hanging (h.signals_eq hf) hend hle)
          | snapshot | failure | panic => exact absurd hwaits id
      | cons step steps =>
          cases step with
          | wait duration =>
              obtain ⟨hle, -⟩ : since ≤ now ∧ now ≤ since + duration := htimely
              have hlt : now < since + duration := hwaits
              subst hsince ha
              exact h.signalledAfter hf (Nat.le_trans (Nat.le_add_right _ _) hle)
                (runAt_interrupted hsteps hle hlt)
          | overrides | failing => exact absurd hwaits id
  | @pausing passed rest trace p fetch error now h hend =>
      have hle : p.due fetch ≤ now := htimely.1
      exact ⟨p.time, getLast?_fetchTimes_failed _ p _ _,
        h.signalledAfter hf (Nat.le_trans (p.due_le fetch) hle)
          (runAt_pausing (h.signals_eq hf) hend hle hwaits)⟩

/-! ## The plain loop without a signal -/

theorem Came.run_eq {passed rest : List Fetch} {trace trace' : Trace} {p : Standing} {r : Run}
    (h : Came s around fetches passed rest trace p)
    (hf : ∀ fetch ∈ passed, fetch.signals = false)
    (hrun : (s.signalled none).runAt p rest = before trace' r) :
    (s.signalled none).run around fetches = before (courseTo s trace ++ trace') r := by
  have hlater : ∀ m ∈ Signal.never.at?, p.time < m := fun m hm => nomatch hm
  have htrips := runAt_trips none rest h.trips rfl hf hlater
  have hp : ({ p with signal := .never } : Standing) = p := by rw [← h.never]
  have hinitial : (s.signalled none).initial around
      = { Standing.fresh around with signal := .never } := rfl
  rw [hp, hrun, ← h.fetches_eq, before_before] at htrips
  rw [WatchSetup.run_eq, hinitial, htrips, before_before, courseTo, List.append_assoc]
  rfl

/-- **A panic ends the plain loop in the same place.** -/
theorem Stands.run_of_panicked {message : String} {w : WatchState} {a : Surroundings}
    {fs : List Fetch} (h : Stands s around fetches now ⟨.panicked message, w, a, fs⟩ course)
    (hf : ∀ fetch ∈ fetches, fetch.signals = false) :
    (s.signalled none).run around fetches = ⟨course, .panicked message, now, w.stats, a⟩ := by
  cases h with
  | @panicked _ _ _ p fetch _ h hend =>
      have hrun : (s.signalled none).runAt p (fetch :: fs)
          = before p.begun ⟨[], .panicked message, p.due fetch, p.state.stats, p.met fetch⟩ := by
        rw [runAt_panicked none fs h.never (h.signals_eq hf) hend, before, List.append_nil]
      rw [h.run_eq (h.quiet hf) hrun, before, List.append_nil]

/-- A fetch in whose place another one gives the signal: it hangs after some of the steps, or it
fails as the fetch does. -/
inductive Halts (fetch : Fetch) : Fetch → Prop
  | hanging {taken steps : List FetchStep} (hsteps : fetch.steps = taken ++ steps) :
      Halts fetch ⟨taken, true, .hang⟩
  | failing {error : FetchError} (hend : fetch.ending = .failure error) :
      Halts fetch { fetch with signals := true }

/-- **Stopped when its fetch has just begun, the loop ends like the plain loop whose fetch gives the
signal.** -/
theorem Stands.run_of_begun (h : Stands s around fetches now l course)
    (htimely : l.place.Timely s.backoff now) (hf : ∀ fetch ∈ fetches, fetch.signals = false)
    (hwaits : l.place.Waits s.backoff now)
    (hbegun : (Trace.fetchTimes course).getLast? = some now) :
    ∃ passed fetch rest fetch', fetches = passed ++ fetch :: rest ∧ Halts fetch fetch'
      ∧ before course (stop ⟨some now, false⟩ now l.state l.around)
        = (s.signalled none).run around (passed ++ [fetch']) := by
  have hcame {passed rest : List Fetch} {trace : Trace} {p : Standing}
      (h : Came s around fetches passed rest trace p) (fetch' : Fetch) :
      Came s around (passed ++ [fetch']) passed [fetch'] trace p := ⟨rfl, h.never, h.trips⟩
  cases h with
  | unborn | turning | exhausted | dispatching | panicked => exact absurd hwaits id
  | @fetching passed rest trace p fetch taken steps since now a ending h hsteps hend hsince ha =>
      refine ⟨passed, fetch, rest, _, h.fetches_eq, .hanging hsteps, ?_⟩
      have htime : p.time = now :=
        Option.some.inj ((getLast?_fetchTimes_begun _ p).symm.trans hbegun)
      have hdue : p.due ⟨taken, true, .hang⟩ = now := by
        have hle : since ≤ now := htimely.le_of_waits hwaits
        have hge : p.time ≤ p.due ⟨taken, true, .hang⟩ := p.due_le _
        have hsame : p.due ⟨taken, true, .hang⟩ = since := hsince.symm
        omega
      have hrun : (s.signalled none).runAt p [⟨taken, true, .hang⟩] = _ :=
        runAt_givesAndHangs none [] h.never rfl rfl
      rw [hdue] at hrun
      rw [(hcame h _).run_eq (h.quiet hf) hrun, ha]
      rfl
  | @pausing passed rest trace p fetch error now h hend =>
      refine ⟨passed, fetch, rest, _, h.fetches_eq, .failing hend, ?_⟩
      have htime : p.time = now :=
        Option.some.inj ((getLast?_fetchTimes_failed _ p _ _).symm.trans hbegun)
      have hdue : p.due fetch = now :=
        Nat.le_antisymm htimely.1 (htime ▸ p.due_le fetch)
      have hbackoff : 0 < s.backoff := by
        have hlt : now < p.due fetch + s.backoff := hwaits
        omega
      have hrun : (s.signalled none).runAt p [{ fetch with signals := true }]
          = before (p.begun ++ eventsAt (p.due fetch) (p.state.fetchFailed error).2)
            (stop ⟨some (p.due fetch), false⟩ (p.due fetch) (p.state.fetchFailed error).1
              (p.met fetch)) :=
        runAt_givesAndFails none [] h.never rfl hbackoff hend
      rw [(hcame h _).run_eq (h.quiet hf) hrun, hdue]

/-- No signal is shown. -/
theorem Stands.signals_eq_nil (h : Stands s around fetches now l course) :
    Trace.signals course = [] := by
  have hto {passed rest : List Fetch} {trace : Trace} {p : Standing}
      (h : Came s around fetches passed rest trace p) : Trace.signals (courseTo s trace) = [] := by
    have hfits : (Standing.fresh around).signal.Fits (Standing.fresh around).time :=
      ⟨fun hshown => (nomatch hshown), fun _ moment hat => (nomatch hat)⟩
    have hshown := (h.trips.fits hfits).2
    rw [h.never] at hshown
    rw [courseTo, Trace.signals_append, Trace.signals_eventsAt]
    exact hshown
  cases h with
  | unborn => rfl
  | turning h | exhausted h => exact hto h
  | fetching h | panicked h => rw [Trace.signals_append, hto h, Trace.signals_begun]; rfl
  | pausing h =>
      rw [Trace.signals_append, Trace.signals_append, hto h, Trace.signals_begun,
        Trace.signals_eventsAt]
      rfl
  | @dispatching _ _ _ said unsaid p fetch _ done _ _ h _ _ _ hsaid =>
      have hnone : Trace.signals (cycleEvents (p.due fetch) done) = [] :=
        filterMap_cycleEvents (fun _ _ => rfl) _ _
      rw [← hsaid, Trace.signals_append, List.append_eq_nil_iff] at hnone
      rw [Trace.signals_append, Trace.signals_append, hto h, Trace.signals_begun, hnone.1]
      rfl

/-! ## What is left on the host -/

theorem state_after (a : Surroundings) (steps : List FetchStep) :
    (a.after steps).host.state = a.host.state := by
  induction steps generalizing a with
  | nil => rfl
  | cons step steps ih => cases step <;> exact ih _

/-- The record of the host after the last of some cycles, or the one before them. -/
def lastRecord (before : HostState) (cycles : List CycleDone) : HostState :=
  (cycles.getLast?.map (·.dispatched.host.state)).getD before

theorem lastRecord_append (record : HostState) (cycles cycles' : List CycleDone) :
    lastRecord record (cycles ++ cycles') = lastRecord (lastRecord record cycles) cycles' := by
  rw [lastRecord, List.getLast?_append, lastRecord, lastRecord]
  cases cycles'.getLast? <;> rfl

theorem cycles_cycleEvents (time : Nat) (done : CycleDone) :
    Trace.cycles (cycleEvents time done) = [] :=
  filterMap_cycleEvents (fun _ _ => rfl) time done

/-- A trip leaves the host as the cycle that it makes does. -/
theorem record_trip {p p' : Standing} {fetch : Fetch} {trace : Trace} (h : Trip s p fetch trace p')
    (hp : p.signal = .never) (hf : fetch.signals = false) :
    p'.around.host.state = lastRecord p.around.host.state (Trace.cycles trace) := by
  rcases h.cases_of_never hp hf with ⟨error, -, rfl, rfl⟩ | ⟨snapshot, -, rfl, rfl⟩
  · rw [Trace.cycles_append, Trace.cycles_begun, Trace.cycles_eventsAt]
    exact state_after p.around fetch.steps
  · rw [Trace.cycles_append, Trace.cycles_begun, cycleTrace, Trace.cycles_append,
      cycles_cycleEvents]
    rfl

theorem record_trips {p p' : Standing} {passed : List Fetch} {trace : Trace}
    (h : Trips s p passed trace p') (hp : p.signal = .never)
    (hf : ∀ fetch ∈ passed, fetch.signals = false) :
    p'.around.host.state = lastRecord p.around.host.state (Trace.cycles trace) := by
  induction h with
  | none => rfl
  | more htrip _ ih =>
      obtain ⟨hfirst, hrest⟩ := List.forall_mem_cons.mp hf
      rw [ih (htrip.signal_eq_never hp hfirst) hrest, record_trip htrip hp hfirst,
        Trace.cycles_append, lastRecord_append]

/-- **The host keeps what the completed cycles have applied.** -/
theorem Stands.record_eq (h : Stands s around fetches now l course)
    (hf : ∀ fetch ∈ fetches, fetch.signals = false) :
    l.around.host.state = lastRecord around.host.state (Trace.cycles course) := by
  have hto {passed rest : List Fetch} {trace : Trace} {p : Standing}
      (h : Came s around fetches passed rest trace p) :
      p.around.host.state = lastRecord around.host.state (Trace.cycles (courseTo s trace)) := by
    rw [courseTo, Trace.cycles_append, Trace.cycles_eventsAt]
    exact record_trips h.trips rfl (h.quiet hf)
  cases h with
  | unborn => rfl
  | turning h | exhausted h => exact hto h
  | @fetching _ _ _ p _ taken _ _ _ _ _ h _ _ _ ha =>
      rw [Trace.cycles_append, Trace.cycles_begun, List.append_nil, ha]
      exact (state_after p.around taken).trans (hto h)
  | panicked h =>
      rw [Trace.cycles_append, Trace.cycles_begun, List.append_nil]
      exact (state_after _ _).trans (hto h)
  | pausing h =>
      rw [Trace.cycles_append, Trace.cycles_append, Trace.cycles_begun, Trace.cycles_eventsAt,
        List.append_nil, List.append_nil]
      exact (state_after _ _).trans (hto h)
  | @dispatching _ _ _ said unsaid p fetch _ done _ _ h _ _ _ hsaid =>
      have hnone := cycles_cycleEvents (p.due fetch) done
      rw [← hsaid, Trace.cycles_append, List.append_eq_nil_iff] at hnone
      rw [Trace.cycles_append, Trace.cycles_append, Trace.cycles_begun, hnone.1, List.append_nil,
        List.append_nil]
      exact (state_after _ _).trans (hto h)

end

end HostAgent.Agent
