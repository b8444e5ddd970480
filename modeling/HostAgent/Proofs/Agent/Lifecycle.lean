import HostAgent.Domain.Registry
import HostAgent.Proofs.Agent.Executions

set_option autoImplicit false

/-! # The life of the agent

The shell neither changes nor hides what the loop does (`shell_follows_loop`). A stop that is
received while the loop waits has the outcome of the plain loop that is given the signal at that
moment: the same fetches and cycles, the same host, the same counters, and its log with three
reports of the shell in their places. A stop can be received at every moment at which the plain loop
waits.

Without a stop the shell ends only after a panic of the loop. It does not panic then, and the host
is as the last completed cycle has left it.
-/

namespace HostAgent

/-- The fetches that a course shows, each with the time at which it begins and the record of the
host then. -/
def Trace.fetchPoints (trace : Trace) : List (Nat × HostState) :=
  trace.filterMap fun
    | (time, .fetch state) => some (time, state)
    | _ => none

namespace Agent

open WatchSetup

/-! ## The shell -/

/-- Where the agent is: its shell waits and its loop is on the way of the plain loop; or the shell
has given up after a panic on that way; or it has received the stop. -/
inductive Follows (s : WatchSetup) (around : Surroundings) (fetches : List Fetch) : System → Prop
  | waiting {now : Nat} {loop : LoopTask} {course : Trace}
      (htimely : loop.place.Timely s.backoff now)
      (hstands : Stands s around fetches now loop course) :
      Follows s around fetches (.waiting now loop (eventsAt 0 [startEvent] ++ course))
  | abandoned {now : Nat} {message : String} {w : WatchState} {a : Surroundings}
      {fs : List Fetch} {course : Trace}
      (hstands : Stands s around fetches now ⟨.panicked message, w, a, fs⟩ course) :
      Follows s around fetches ⟨now, .abandoned {}, false, ⟨.panicked message, w, a, fs⟩,
        eventsAt 0 [startEvent] ++ course ++ eventsAt now (unexpectedEndLog s.loopTask message)⟩
  | stopping {c : System} (hshell : c.shell = .joining ∨ ∃ stats, c.shell = .stopped stats) :
      Follows s around fetches c

section

variable {s : WatchSetup} {around : Surroundings} {fetches : List Fetch} {c c' : System}

theorem Follows.step (h : Follows s around fetches c)
    (hf : ∀ fetch ∈ fetches, fetch.signals = false) (hstep : Step s c c') :
    Follows s around fetches c' := by
  cases h with
  | @waiting now loop course htimely hstands =>
      cases hstep with
      | @move points _ hmove =>
          have hcourse : (eventsAt 0 [startEvent] ++ course) ++ points
              = eventsAt 0 [startEvent] ++ (course ++ points) := List.append_assoc _ _ _
          rw [System.showing, System.waiting, hcourse]
          exact .waiting (htimely.move hmove) (hstands.move htimely hf hmove)
      | pass hlt hidle => exact .waiting (htimely.pass hlt hidle) (hstands.pass hidle)
      | receive => exact .stopping (.inl rfl)
      | abandon _ hended =>
          -- of the places on the way only a panic is an end
          cases hstands with
          | panicked h hend =>
              obtain rfl := Option.some.inj hended
              exact .abandoned (.panicked h hend)
          | unborn | turning | exhausted | fetching | pausing | dispatching => cases hended
      | join hshell | joinPanicked hshell => cases hshell
  | abandoned hstands =>
      cases hstep with
      | move hmove =>
          cases hmove with
          | stops hstopped => cases hstopped
      | pass _ hidle => exact absurd hidle id
      | receive hshell | abandon hshell | join hshell | joinPanicked hshell => cases hshell
  | stopping hshell =>
      have hnot : c.shell ≠ .waiting := by
        rintro hwaiting
        rw [hwaiting] at hshell
        rcases hshell with h | ⟨stats, h⟩ <;> cases h
      cases hstep with
      | move | pass => exact .stopping hshell
      | receive hwaiting | abandon hwaiting => exact absurd hwaiting hnot
      | join | joinPanicked => exact .stopping (.inr ⟨_, rfl⟩)

/-- **Whatever the agent does, it follows the plain loop up to the stop.** -/
theorem follows_of_reachable (hf : ∀ fetch ∈ fetches, fetch.signals = false)
    (h : Reachable s around fetches c) : Follows s around fetches c := by
  induction h with
  | refl => exact .waiting True.intro .unborn
  | tail _ hstep ih => exact ih.step hf hstep

/-- An agent whose shell waits has a loop on its way. -/
theorem Follows.stands_of_waiting (h : Follows s around fetches c) (hshell : c.shell = .waiting) :
    ∃ now loop course, c = .waiting now loop (eventsAt 0 [startEvent] ++ course)
      ∧ loop.place.Timely s.backoff now ∧ Stands s around fetches now loop course := by
  cases h with
  | waiting htimely hstands => exact ⟨_, _, _, rfl, htimely, hstands⟩
  | abandoned => cases hshell
  | stopping hstopping =>
      rw [hshell] at hstopping
      rcases hstopping with h | ⟨_, h⟩ <;> cases h

/-- An agent whose shell has given up has a loop that has panicked on its way. -/
theorem Follows.stands_of_abandoned {stats : WatchStats} (h : Follows s around fetches c)
    (hshell : c.shell = .abandoned stats) :
    stats = {} ∧ ∃ now message w a fs course,
      c = ⟨now, .abandoned {}, false, ⟨.panicked message, w, a, fs⟩,
        eventsAt 0 [startEvent] ++ course ++ eventsAt now (unexpectedEndLog s.loopTask message)⟩
      ∧ Stands s around fetches now ⟨.panicked message, w, a, fs⟩ course := by
  cases h with
  | waiting => cases hshell
  | abandoned hstands =>
      exact ⟨(Shell.abandoned.inj hshell).symm, _, _, _, _, _, _, rfl, hstands⟩
  | stopping hstopping =>
      rw [hshell] at hstopping
      rcases hstopping with h | ⟨_, h⟩ <;> cases h

end

/-! ## The course of the agent -/

theorem reportSignal_of_signals_nil {trace : Trace} (h : Trace.signals trace = []) :
    reportSignal trace = trace ∧ hasSignal trace = false := by
  induction trace with
  | nil => exact ⟨rfl, rfl⟩
  | cons point trace ih =>
      obtain ⟨time, mark⟩ := point
      cases mark with
      | signal => cases h
      | fetch | event | cycle =>
          obtain ⟨hreport, hsignal⟩ := ih h
          exact ⟨congrArg (_ :: ·) hreport, hsignal⟩

theorem reportSignal_append (trace trace' : Trace) :
    reportSignal (trace ++ trace') = reportSignal trace ++ reportSignal trace' :=
  List.flatMap_append

/-- The agent has returned with the outcome of the loop to which the signal was given at a moment,
and its log is that of the loop, which ran in the given task, with the reports of the shell. -/
structure Shows (task : Nat) (plain : Run) (moment : Nat) (c : System) : Prop where
  stats : c.shell = .stopped plain.stats
  around : c.loop.around = plain.around
  fetches : Trace.fetchPoints c.course = Trace.fetchPoints plain.trace
  cycles : Trace.cycles c.course = Trace.cycles plain.trace
  log : ∃ earlier later, plain.trace = earlier ++ (moment, .signal) :: later
    ∧ Trace.signals (earlier ++ later) = []
    ∧ plain.timedLog = Trace.timedLog earlier ++ Trace.timedLog later
    ∧ Trace.timedLog c.course
      = (0, startEvent) :: Trace.timedLog earlier ++ (moment, signalEvent) :: Trace.timedLog later
        ++ [(moment, stopEvent plain.stats)]
  course : c.course = (ofLoop task plain).trace

/-- The agent after a stop shows the loop that was stopped in the same place. -/
theorem shows_settled {task now : Nat} {l : LoopTask} {course : Trace}
    (hsignals : Trace.signals course = []) :
    Shows task (before course (stop ⟨some now, false⟩ now l.state l.around)) now
      (System.waiting now l (eventsAt 0 [startEvent] ++ course)).settled := by
  have hplain : (before course (stop ⟨some now, false⟩ now l.state l.around)).trace
      = course ++ [(now, .signal), (now, .event (WatchSetup.stopEvent l.state.stats))] := rfl
  have hcourse : (System.waiting now l (eventsAt 0 [startEvent] ++ course)).settled.course
      = eventsAt 0 [startEvent] ++ course ++ [(now, .signal), (now, .event signalEvent)]
        ++ [(now, .event (WatchSetup.stopEvent l.state.stats))]
        ++ [(now, .event (stopEvent l.state.stats))] := rfl
  refine ⟨rfl, rfl, ?_, ?_, ?_, ?_⟩
  · simp only [hplain, hcourse, Trace.fetchPoints, List.filterMap_append]
    simp [eventsAt]
  · simp only [hplain, hcourse, Trace.cycles, List.filterMap_append]
    simp [eventsAt]
  · refine ⟨course, [(now, .event (WatchSetup.stopEvent l.state.stats))], rfl, ?_, ?_, ?_⟩
    · rw [Trace.signals_append, hsignals]
      rfl
    · rw [Run.timedLog_eq, hplain, Trace.timedLog_append]
      rfl
    · simp only [hcourse, Trace.timedLog_append, Trace.timedLog_eventsAt]
      simp [Trace.timedLog]
  · obtain ⟨hreport, -⟩ := reportSignal_of_signals_nil hsignals
    show _ = eventsAt 0 [startEvent] ++ reportSignal _ ++ eventsAt now [stopEvent l.state.stats]
    rw [hplain, reportSignal_append, hreport, hcourse]
    simp [reportSignal, eventsAt]

/-- The agent has returned because its loop has panicked; what the loop did before is there, on the
host and in the log. -/
structure ShowsPanic (task : Nat) (plain : Run) (message : String) (record : HostState)
    (c : System) : Prop where
  ending : plain.ending = .panicked message
  place : c.loop.place = .panicked message
  signals : Trace.signals c.course = []
  around : c.loop.around = plain.around
  cycles : Trace.cycles c.course = Trace.cycles plain.trace
  record : c.loop.around.host.state = lastRecord record (Trace.cycles c.course)
  log : Trace.timedLog c.course
    = (0, startEvent) :: plain.timedLog ++ (unexpectedEndLog task message).map (c.now, ·)
  last : (Trace.timedLog c.course).getLast? = some (c.now, ⟨.info, .agent, "Agent stopped", []⟩)
  course : c.course = (ofLoop task plain).trace

theorem showsPanic_of_stands {s : WatchSetup} {around : Surroundings} {fetches : List Fetch}
    {now : Nat} {message : String} {w : WatchState} {a : Surroundings} {fs : List Fetch}
    {course : Trace} (h : Stands s around fetches now ⟨.panicked message, w, a, fs⟩ course)
    (hf : ∀ fetch ∈ fetches, fetch.signals = false) :
    ShowsPanic s.loopTask ((s.signalled none).run around fetches) message around.host.state
      ⟨now, .abandoned {}, false, ⟨.panicked message, w, a, fs⟩,
        eventsAt 0 [startEvent] ++ course
          ++ eventsAt now (unexpectedEndLog s.loopTask message)⟩ := by
  have hsignals := h.signals_eq_nil
  obtain ⟨hreport, hsignal⟩ := reportSignal_of_signals_nil hsignals
  have hcycles : Trace.cycles
      (eventsAt 0 [startEvent] ++ course ++ eventsAt now (unexpectedEndLog s.loopTask message))
        = Trace.cycles course := by
    rw [Trace.cycles_append, Trace.cycles_append, Trace.cycles_eventsAt, Trace.cycles_eventsAt,
      List.nil_append, List.append_nil]
  have hlog : Trace.timedLog
      (eventsAt 0 [startEvent] ++ course ++ eventsAt now (unexpectedEndLog s.loopTask message))
        = (0, startEvent) :: Trace.timedLog course
          ++ (unexpectedEndLog s.loopTask message).map (now, ·) := by
    rw [Trace.timedLog_append, Trace.timedLog_append, Trace.timedLog_eventsAt,
      Trace.timedLog_eventsAt]
    rfl
  rw [h.run_of_panicked hf]
  refine ⟨rfl, rfl, ?_, rfl, hcycles, ?_, hlog, ?_, ?_⟩
  · rw [Trace.signals_append, Trace.signals_append, hsignals, Trace.signals_eventsAt,
      Trace.signals_eventsAt]
    rfl
  · rw [hcycles]
    exact h.record_eq hf
  · rw [hlog, List.getLast?_append]
    rfl
  · simp only [ofLoop, hreport, hsignal, Bool.false_eq_true, if_false]

/-! ## The agent and the plain loop -/

/-- A loop that has panicked was brought to it by a fetch. -/
theorem Stands.exists_panic {s : WatchSetup} {around : Surroundings} {fetches : List Fetch}
    {now : Nat} {message : String} {w : WatchState} {a : Surroundings} {fs : List Fetch}
    {course : Trace} (h : Stands s around fetches now ⟨.panicked message, w, a, fs⟩ course) :
    ∃ fetch ∈ fetches, fetch.ending = .panic message := by
  cases h with
  | @panicked passed _ _ _ fetch _ h hend =>
      refine ⟨fetch, ?_, hend⟩
      rw [h.fetches_eq]
      exact List.mem_append_right passed List.mem_cons_self

/-- **The shell neither changes nor hides what the loop does.** The stop is what gives the signal
here, so no fetch of the script does.

If the stop is received while the loop waits in a fetch or in a pause, the agent returns, and
whichever way it does, it shows the plain loop to which the signal was given at that moment. This is
the run of the plain loop with the signal given by its setup; only if the fetch began at that very
moment, the signal is given by the fetch. There is such a stop for every moment at which the plain
loop waits.

The shell ends without a stop only after a panic of the loop, which a fetch has brought about. Then
it returns no counts, and shows the plain loop that panics. -/
theorem shell_follows_loop (s : WatchSetup) (around : Surroundings) (fetches : List Fetch)
    (hf : ∀ fetch ∈ fetches, fetch.signals = false) :
    (∀ c, Reachable s around fetches c → c.shell = .waiting →
      c.loop.place.Waits s.backoff c.now →
      ∃ begun plain, (Trace.fetchTimes c.course).getLast? = some begun
        ∧ s.SignalledAfter around fetches begun c.now plain
        ∧ (begun < c.now → plain = (s.signalled (some c.now)).run around fetches
          ∧ ofLoop s.loopTask plain = run (s.signalled (some c.now)) around fetches)
        ∧ (begun = c.now → ∃ passed fetch rest fetch', fetches = passed ++ fetch :: rest
          ∧ Halts fetch fetch' ∧ plain = (s.signalled none).run around (passed ++ [fetch'])
          ∧ ofLoop s.loopTask plain = run (s.signalled none) around (passed ++ [fetch']))
        ∧ plain.ending = .stopped ∧ plain.time = c.now
        ∧ (∃ c', Steps s c.received c' ∧ c'.Returned)
        ∧ ∀ c', Steps s c.received c' → c'.Returned → Shows s.loopTask plain c.now c')
      ∧ (∀ passed fetch rest trace p moment, fetches = passed ++ fetch :: rest →
        Trips s (.fresh around) passed trace p → p.time ≤ moment →
        s.WaitsAt fetch (p.due fetch) moment →
        ∃ c, Reachable s around fetches c ∧ c.shell = .waiting
          ∧ c.loop.place.Waits s.backoff c.now ∧ c.now = moment
          ∧ Trace.fetchTimes c.course = Trace.fetchTimes trace ++ [p.time])
      ∧ (∀ c message, Reachable s around fetches c → c.shell = .waiting →
        c.loop.place = .panicked message → ∃ c', Step s c c' ∧ c'.shell = .abandoned {})
      ∧ ∀ c stats, Reachable s around fetches c → c.shell = .abandoned stats →
        stats = {} ∧ ∃ message, (∃ fetch ∈ fetches, fetch.ending = .panic message)
          ∧ ShowsPanic s.loopTask ((s.signalled none).run around fetches)
            message around.host.state c
          ∧ ofLoop s.loopTask ((s.signalled none).run around fetches)
            = run (s.signalled none) around fetches := by
  refine ⟨fun c hreachable hshell hwaits => ?_, ?_, ?_, ?_⟩
  · obtain ⟨now, loop, course, rfl, htimely, hstands⟩ :=
      (follows_of_reachable hf hreachable).stands_of_waiting hshell
    obtain ⟨begun, hbegun, hsignalled⟩ := hstands.signalledAfter htimely hf hwaits
    refine ⟨begun, _, hbegun, hsignalled, fun hlt => ?_, ?_, rfl, rfl, ?_,
      fun c' hsteps hreturned => ?_⟩
    · have hplain := hsignalled.eq_run hf hlt
      have hmoment : some now ≠ some 0 := by
        intro h
        rw [Option.some_inj.mp h] at hlt
        exact Nat.not_lt_zero begun hlt
      refine ⟨hplain, ?_⟩
      rw [run]
      exact (congrArg (ofLoop s.loopTask) hplain).trans
        (congrArg (ofLoop s.loopTask) (if_neg hmoment).symm)
    · rintro rfl
      obtain ⟨passed, fetch, rest, fetch', hfetches, hhalts, hplain⟩ :=
        hstands.run_of_begun htimely hf hwaits hbegun
      exact ⟨passed, fetch, rest, fetch', hfetches, hhalts, hplain,
        congrArg (ofLoop s.loopTask) hplain⟩
    · exact ⟨_, steps_settled hwaits, ⟨_, .inl rfl⟩⟩
    · rw [settled_of_steps hwaits hsteps hreturned]
      exact shows_settled hstands.signals_eq_nil
  · rintro passed fetch rest trace p moment rfl htrips hle hwaits
    exact exists_waiting htrips (fun fetch hmem => hf fetch (List.mem_append_left _ hmem)) hle
      hwaits
  · intro c message _ hshell hplace
    exact ⟨_, .abandon hshell (by rw [hplace]; rfl), rfl⟩
  · intro c stats hreachable hshell
    obtain ⟨hstats, now, message, w, a, fs, course, rfl, hstands⟩ :=
      (follows_of_reachable hf hreachable).stands_of_abandoned hshell
    exact ⟨hstats, message, hstands.exists_panic, showsPanic_of_stands hstands hf, rfl⟩

/-- The agent with a pause of five seconds. -/
def patientSetup : WatchSetup where
  registry := .agent
  overridePath := ""
  backoff := 5000
  clock _ := ⟨0, 0⟩

/-- A fetch that brings an address, one that fails and one that panics. -/
def addressFetch : Fetch where
  steps := [.wait 2]
  ending := .snapshot { machine := { interfaces := [{ forwardedIps := ["10.0.0.2"] }] } }

def failingFetch : Fetch where
  steps := [.wait 30]
  ending := .failure (.status 503 "")

def panickingFetch : Fetch where
  steps := [.wait 3]
  ending := .panic "boom"

theorem exists_trips_addressFetch :
    ∃ trace p, Trips patientSetup (.fresh {}) [addressFetch] trace p ∧ p.time = 2 := by
  have htrip : Trip patientSetup (.fresh {}) addressFetch _ _ := .dispatched rfl rfl rfl
  exact ⟨_, _, .more htrip (.none _), by decide +kernel⟩

/-- The agent is stopped in the pause after a failed fetch, having dispatched one cycle; and where
the fetch panics instead, it gives up with that cycle done. -/
theorem shell_follows_loop_of_address :
    (∃ c c', Reachable patientSetup {} [addressFetch, failingFetch] c ∧ c.now = 40
        ∧ Steps patientSetup c.received c' ∧ c'.shell = .stopped ⟨1, 1, 0⟩
        ∧ Shows 1 ((patientSetup.signalled (some 40)).run {} [addressFetch, failingFetch]) 40 c')
      ∧ ∃ c, Reachable patientSetup {} [addressFetch, panickingFetch] c ∧ c.shell = .abandoned {}
        ∧ c.loop.around.host.state.addresses = ["10.0.0.2"] := by
  obtain ⟨trace, p, htrips, htime⟩ := exists_trips_addressFetch
  constructor
  · obtain ⟨hstop, hreach, -⟩ := shell_follows_loop patientSetup {} [addressFetch, failingFetch]
      (by decide)
    have hwaits : patientSetup.WaitsAt failingFetch (p.due failingFetch) 40 := by
      refine .inr (.inr ⟨⟨_, rfl⟩, ?_⟩)
      rw [Standing.due, htime]
      decide
    obtain ⟨c, hc, hshell, hwaits, hnow, hfetches⟩ :=
      hreach [addressFetch] failingFetch [] trace p 40 rfl htrips (htime ▸ by decide) hwaits
    obtain ⟨begun, plain, hbegun, -, hrun, -, -, -, ⟨c', hsteps, hreturned⟩, hshows⟩ :=
      hstop c hc hshell hwaits
    rw [hfetches, htime, List.getLast?_append] at hbegun
    obtain rfl : 2 = begun := Option.some.inj hbegun
    rw [hnow] at hrun hshows
    obtain ⟨rfl, -⟩ := hrun (by decide)
    have hc' := hshows c' hsteps hreturned
    refine ⟨c, c', hc, hnow, hsteps, ?_, hc'⟩
    rw [hc'.stats]
    decide +kernel
  · obtain ⟨-, -, hend, hpanic⟩ := shell_follows_loop patientSetup {} [addressFetch, panickingFetch]
      (by decide)
    obtain ⟨c, hc, hshell, hplace, -⟩ :=
      exists_panicked [] htrips (by decide) (rfl : panickingFetch.ending = .panic "boom")
    obtain ⟨c', hstep, habandoned⟩ := hend c "boom" hc hshell hplace
    obtain ⟨-, message, -, hshows, -⟩ := hpanic c' {} (hc.tail hstep) habandoned
    refine ⟨c', hc.tail hstep, habandoned, ?_⟩
    rw [hshows.around]
    decide +kernel

end Agent

end HostAgent
