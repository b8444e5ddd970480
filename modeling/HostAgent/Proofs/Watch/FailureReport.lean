import HostAgent.Proofs.Dispatch.Log
import HostAgent.Proofs.Domain.Reports
import HostAgent.Proofs.Fetch.Streak
import HostAgent.Proofs.Watch.Course
import HostAgent.Proofs.Watch.Succession

set_option autoImplicit false

/-! # Reports on failed fetches

A run counts the failed fetches that it gets to see, and reports the second failure of each streak.
`Reports` says what a part of a run does to the streak, to the two counters and to what the watch
loop itself has logged, given the results of the fetches in that part. It holds of a trip, of trips
one after another and of the final part, and so of whole runs (`failures_reported_once`). Cycles
come between the trips, but nothing that they log is the loop's own (`Registry.Reserved`).
-/

namespace HostAgent

open WatchSetup

/-! ## The log of the loop -/

/-- What the watch loop itself has logged. -/
def watchLog (log : List Timed) : List Timed := log.filter fun entry => entry.2.component = .watch

@[simp] theorem watchLog_append (log log' : List Timed) :
    watchLog (log ++ log') = watchLog log ++ watchLog log' := List.filter_append _ _

theorem watchLog_eq_self {log : List Timed} (h : ∀ entry ∈ log, entry.2.component = .watch) :
    watchLog log = log := List.filter_eq_self.mpr fun entry he => decide_eq_true (h entry he)

theorem watchLog_eq_nil {log : List Timed} (h : ∀ entry ∈ log, entry.2.component ≠ .watch) :
    watchLog log = [] := List.filter_eq_nil_iff.mpr fun entry he => by simpa using h entry he

/-- No domain reports in the name of the watch loop. -/
def Registry.Reserved (registry : Registry Snapshot Host) : Prop :=
  ∀ inputs, ∀ d ∈ registry.instantiate inputs, ∀ host, ∀ e ∈ (d.set host).log,
    e.component ≠ .watch

theorem Overrides.component_of_mem_load {path : String} {file : FileContents} {walk : Ini.Walk}
    {e : Event} (h : e ∈ (load path file walk).2) : e.component = .overrides := by
  rw [load] at h
  split at h
  · cases h
  · obtain rfl := List.mem_singleton.mp h
    rfl

/-- A cycle does not report in the name of the watch loop. -/
theorem watchLog_cycleCourse {s : WatchSetup} (hr : s.registry.Reserved) (signal : Signal)
    (time : Nat) (w : WatchState) (around : Surroundings) (snapshot : Snapshot) :
    watchLog (Trace.timedLog (cycleCourse signal time (s.cycleOf time w around snapshot)).1)
      = [] := by
  rw [Trace.timedLog_cycleCourse]
  refine watchLog_eq_nil fun entry he => ?_
  rcases List.mem_append.mp he with hfile | hdispatched
  · obtain ⟨e, hload, rfl⟩ := List.mem_map.mp hfile
    have hcomponent : e.component = .overrides := Overrides.component_of_mem_load hload
    simp [hcomponent]
  · obtain ⟨⟨t, e⟩, hlogged, rfl⟩ := List.mem_map.mp hdispatched
    show e.component ≠ .watch
    rcases Dispatched.reported_of_mem_log hlogged with hdispatch | ⟨d, hd, host, hlog⟩
    · have hcomponent : e.component = .dispatch := hdispatch
      simp [hcomponent]
    · exact hr _ d hd host e hlog

/-! ## Reports -/

/-- The result of a fetch, a failure with the time at which it is known. -/
def Due.result? (d : Due) : Option (Except (Nat × FetchError) Snapshot) :=
  match d.fetch.ending with
  | .snapshot snapshot => some (.ok snapshot)
  | .failure error => some (.error (d.time, error))
  | _ => none

/-- The advice on a failure, if it is one of the two kinds that there is advice on. -/
def FetchError.advice (error : FetchError) : Log :=
  if error.kind = .dns ∨ error.kind = .network then
    [⟨.error, .watch, error.hint.getD "", [("kind", .shown error.kind.name)]⟩]
  else []

/-- The event on a failure that is the second one of its streak. -/
def FetchError.failureEvent (error : FetchError) : Event :=
  ⟨.error, .watch, "Failed to fetch metadata",
    [("error", .shown error.message), ("consecutive_failures", .number 2)]⟩

/-- The report on the second failure of a streak. -/
def failureReport (failure : Nat × FetchError) : List Timed :=
  (failure.2.advice ++ [failure.2.failureEvent]).map (failure.1, ·)

theorem WatchState.failureLog_two (error : FetchError) :
    failureLog error ⟨2⟩ = error.advice ++ [error.failureEvent] := by
  rw [failureLog, FetchError.advice, FetchError.hint]
  cases error.kind <;> rfl

/-- A failure that is not the second one of its streak is counted only. -/
theorem WatchState.fetchFailed_of_not_reported {w : WatchState} {error : FetchError}
    (h : w.streak.fail.isReported = false) :
    w.fetchFailed error
      = ({ w with
          streak := w.streak.fail
          stats := { w.stats with fetchFailures := w.stats.fetchFailures + 1 } }, []) := by
  simp [fetchFailed, h]

theorem WatchState.fetchFailed_of_reported {w : WatchState} {error : FetchError}
    (h : w.streak.fail.isReported = true) :
    w.fetchFailed error
      = ({ w with
          streak := w.streak.fail
          stats := { w.stats with
            fetchFailures := w.stats.fetchFailures + 1
            failuresLogged := w.stats.failuresLogged + 1 } },
        error.advice ++ [error.failureEvent]) := by
  have htwo : w.streak.fail = ⟨2⟩ := congrArg Streak.mk (eq_of_beq h)
  rw [← failureLog_two, ← htwo]
  simp [fetchFailed, h]

theorem component_of_mem_failureReport {failure : Nat × FetchError} {entry : Timed}
    (h : entry ∈ failureReport failure) : entry.2.component = .watch := by
  obtain ⟨e, he, rfl⟩ := List.mem_map.mp h
  rcases List.mem_append.mp he with hadvice | hevent
  · rw [FetchError.advice] at hadvice
    split at hadvice
    · obtain rfl := List.mem_singleton.mp hadvice
      rfl
    · cases hadvice
  · obtain rfl := List.mem_singleton.mp hevent
    rfl

theorem watchLog_failureReport (failure : Nat × FetchError) :
    watchLog (failureReport failure) = failureReport failure :=
  watchLog_eq_self fun _ he => component_of_mem_failureReport he

/-- What a part of a run does that shows `trace` and gets to see `results`. -/
structure Reports (w w' : WatchState) (trace : Trace)
    (results : List (Except (Nat × FetchError) Snapshot)) : Prop where
  streak : w'.streak = w.streak.after results
  fetchFailures : w'.stats.fetchFailures = w.stats.fetchFailures + (failures results).length
  failuresLogged : w'.stats.failuresLogged
    = w.stats.failuresLogged + (w.streak.reported results).length
  log : watchLog (Trace.timedLog trace) = (w.streak.reported results).flatMap failureReport
  /-- The parts of a report follow each other. -/
  together : ∀ failure ∈ w.streak.reported results,
    failureReport failure <:+: Trace.timedLog trace

namespace Reports

variable {w w' w'' : WatchState} {trace trace' : Trace}
  {results results' : List (Except (Nat × FetchError) Snapshot)}

theorem nothing (w : WatchState) : Reports w w [] [] :=
  ⟨rfl, rfl, rfl, rfl, fun _ h => nomatch h⟩

theorem append (h : Reports w w' trace results) (h' : Reports w' w'' trace' results') :
    Reports w w'' (trace ++ trace') (results ++ results') := by
  have hreported : w.streak.reported (results ++ results')
      = w.streak.reported results ++ w'.streak.reported results' := by
    rw [h.streak, Streak.reported_append]
  constructor
  · rw [h'.streak, h.streak, Streak.after_append]
  · rw [h'.fetchFailures, h.fetchFailures, failures_append, List.length_append, Nat.add_assoc]
  · rw [h'.failuresLogged, h.failuresLogged, hreported, List.length_append, Nat.add_assoc]
  · rw [Trace.timedLog_append, watchLog_append, h.log, h'.log, hreported, List.flatMap_append]
  · intro failure hf
    rw [Trace.timedLog_append]
    rw [hreported] at hf
    rcases List.mem_append.mp hf with hf | hf
    · exact (h.together failure hf).trans (List.prefix_append _ _).isInfix
    · exact (h'.together failure hf).trans (List.suffix_append _ _).isInfix

/-- A failed fetch. -/
theorem failure (w : WatchState) (time : Nat) (error : FetchError) {before after : Trace}
    (hbefore : Trace.timedLog before = []) (hafter : Trace.timedLog after = []) :
    Reports w (w.fetchFailed error).1
      (before ++ eventsAt time (w.fetchFailed error).2 ++ after) [.error (time, error)] := by
  let result : Except (Nat × FetchError) Snapshot := .error (time, error)
  have hlog : Trace.timedLog (before ++ eventsAt time (w.fetchFailed error).2 ++ after)
      = (w.fetchFailed error).2.map (time, ·) := by
    simp [hbefore, hafter]
  cases hreported : w.streak.fail.isReported with
  | false =>
      have hnone : w.streak.reported [result] = [] := by
        simp [result, Streak.reported, hreported]
      rw [WatchState.fetchFailed_of_not_reported hreported] at hlog ⊢
      refine ⟨rfl, rfl, ?_, ?_, fun failure hf => ?_⟩
      · rw [hnone]
        rfl
      · rw [hlog, hnone]
        rfl
      · rw [hnone] at hf
        cases hf
  | true =>
      have hone : w.streak.reported [result] = [(time, error)] := by
        simp [result, Streak.reported, hreported]
      rw [WatchState.fetchFailed_of_reported hreported] at hlog ⊢
      have hlog : Trace.timedLog
          (before ++ eventsAt time (error.advice ++ [error.failureEvent]) ++ after)
          = failureReport (time, error) := hlog
      refine ⟨rfl, rfl, ?_, ?_, fun failure hf => ?_⟩
      · rw [hone]
        rfl
      · rw [hlog, hone, watchLog_failureReport]
        exact (List.append_nil _).symm
      · rw [hone] at hf
        obtain rfl := List.mem_singleton.mp hf
        exact ⟨[], [], by rw [hlog, List.nil_append, List.append_nil]⟩

/-- A fetch that succeeds, after which the loop reports nothing itself. -/
theorem success {w w' : WatchState} {trace : Trace} (snapshot : Snapshot)
    (hstreak : w'.streak = .start) (hfailures : w'.stats.fetchFailures = w.stats.fetchFailures)
    (hlogged : w'.stats.failuresLogged = w.stats.failuresLogged)
    (hlog : watchLog (Trace.timedLog trace) = []) : Reports w w' trace [.ok snapshot] :=
  ⟨hstreak, hfailures, hlogged, hlog, fun _ h => nomatch h⟩

end Reports

section

variable {s : WatchSetup} {p p' : Standing} {fetch : Fetch} {fetches : List Fetch} {trace : Trace}

@[simp] theorem Trace.timedLog_begun (p : Standing) : Trace.timedLog p.begun = [] := rfl

@[simp] theorem Trace.timedLog_heard (p : Standing) (fetch : Fetch) :
    Trace.timedLog (p.heard fetch).1 = [] := filterMap_heard p fetch fun _ => rfl

/-- A trip gets to see the result of its fetch. -/
theorem Trip.reports (hr : s.registry.Reserved) (h : Trip s p fetch trace p') :
    ∃ result, Due.result? ⟨p.due fetch, fetch⟩ = some result
      ∧ Reports p.state p'.state trace [result] := by
  cases h with
  | @failure error hend =>
      refine ⟨.error (p.due fetch, error), by simp only [Due.result?, hend], ?_⟩
      exact .failure p.state (p.due fetch) error (Trace.timedLog_begun p)
        (Trace.timedLog_heard p fetch)
  | @snapshot snapshot done hend hsignals hgiven hdone =>
      refine ⟨.ok snapshot, by simp only [Due.result?, hend], ?_⟩
      subst hdone
      refine .success snapshot rfl rfl rfl ?_
      rw [Trace.timedLog_append, Trace.timedLog_begun, List.nil_append]
      exact watchLog_cycleCourse hr p.signal (p.due fetch) p.state.fetched _ snapshot

/-- Trips one after another get to see the results of all their fetches. -/
theorem Trips.reports (hr : s.registry.Reserved) (h : Trips s p fetches trace p') :
    (∀ d ∈ Trace.due trace fetches, d.result?.isSome)
      ∧ Reports p.state p'.state trace ((Trace.due trace fetches).filterMap Due.result?) := by
  induction h with
  | none p => exact ⟨(fun _ h => nomatch h), .nothing p.state⟩
  | more htrip htrips ih =>
      obtain ⟨hall, hreports⟩ := ih
      obtain ⟨result, hresult, hfirst⟩ := htrip.reports hr
      rw [htrip.due_append, List.filterMap_cons_some hresult]
      refine ⟨fun d hd => ?_, hfirst.append hreports⟩
      rcases List.mem_cons.mp hd with rfl | hd
      · rw [hresult]
        rfl
      · exact hall d hd

/-- The event on a snapshot that is left alone. -/
def skipEvent : Event := ⟨.info, .watch, "Shutdown requested, skipping dispatch", []⟩

variable {r : Run}

/-- The loop reports nothing in a course but the end of the run. -/
def Run.Closes (r : Run) (closing : Trace) : Prop :=
  (watchLog (Trace.timedLog closing)).Sublist [(r.time, skipEvent), (r.time, stopEvent r.stats)]

theorem Run.closes_of_timedLog {closing : Trace} (h : Trace.timedLog closing = []) :
    r.Closes closing := by
  rw [Closes, h]
  exact List.nil_sublist _

theorem Run.closes_stop (signal : Signal) (time : Nat) (w : WatchState) (around : Surroundings) :
    (stop signal time w around).Closes (stop signal time w around).trace := by
  have hlog : watchLog (Trace.timedLog (stop signal time w around).trace)
      = [(time, stopEvent w.stats)] := by
    simp [watchLog, stopEvent]
  rw [Closes, hlog]
  exact List.sublist_cons_self _ _

theorem Run.closes_before (h : r.Closes r.trace) (ht : Trace.timedLog trace = []) :
    (before trace r).Closes (before trace r).trace := by
  rw [Closes, trace_before, Trace.timedLog_append, ht, List.nil_append]
  exact h

/-- What the final part of a run gets to see, and how it closes: the results `taken` come in, and
after that the loop reports its end only. The result of a fetch is `lost` if there is none, or if
the signal comes before it. -/
structure Final.Closes (p : Standing) (fetches : List Fetch) (r : Run) (taken lost : List Due)
    (w : WatchState) (trace closing : Trace) : Prop where
  due_eq : Trace.due r.trace fetches = taken ++ lost
  length_lost : lost.length ≤ 1
  isSome_taken : ∀ d ∈ taken, d.result?.isSome
  lost_cases : ∀ d ∈ lost, d.result? = none
    ∨ ∃ moment ∈ p.signal.shownTimes ++ Trace.signals r.trace, moment ≤ d.time
  reports : Reports p.state w trace (taken.filterMap Due.result?)
  stats_eq : r.stats = w.stats
  trace_eq : r.trace = trace ++ closing
  closes : r.Closes closing

/-- No result comes in, and no fetch was begun. -/
theorem Final.Closes.of_not_begun (hdue : Trace.due r.trace fetches = [])
    (hstats : r.stats = p.state.stats) (hcloses : r.Closes r.trace) :
    Final.Closes p fetches r [] [] p.state [] r.trace where
  due_eq := hdue
  length_lost := Nat.zero_le 1
  isSome_taken _ h := nomatch h
  lost_cases _ h := nomatch h
  reports := .nothing p.state
  stats_eq := hstats
  trace_eq := rfl
  closes := hcloses

/-- The result of the last fetch is lost. -/
theorem Final.Closes.of_lost {d : Due} (hdue : Trace.due r.trace fetches = [d])
    (hlost : d.result? = none
      ∨ ∃ moment ∈ p.signal.shownTimes ++ Trace.signals r.trace, moment ≤ d.time)
    (hstats : r.stats = p.state.stats) (hcloses : r.Closes r.trace) :
    Final.Closes p fetches r [] [d] p.state [] r.trace where
  due_eq := hdue
  length_lost := Nat.le_refl 1
  isSome_taken _ h := nomatch h
  lost_cases d' h := by
    obtain rfl := List.mem_singleton.mp h
    exact hlost
  reports := .nothing p.state
  stats_eq := hstats
  trace_eq := rfl
  closes := hcloses

/-- The result of the last fetch comes in. -/
theorem Final.Closes.of_taken {d : Due} {result : Except (Nat × FetchError) Snapshot}
    {w : WatchState} {closing : Trace} (hdue : Trace.due r.trace fetches = [d])
    (hresult : d.result? = some result) (hreports : Reports p.state w trace [result])
    (hstats : r.stats = w.stats) (htrace : r.trace = trace ++ closing)
    (hcloses : r.Closes closing) :
    Final.Closes p fetches r [d] [] w trace closing where
  due_eq := hdue
  length_lost := Nat.zero_le 1
  isSome_taken d' h := by
    obtain rfl := List.mem_singleton.mp h
    rw [hresult]
    rfl
  lost_cases _ h := nomatch h
  reports := by
    rw [List.filterMap_cons_some hresult]
    exact hreports
  stats_eq := hstats
  trace_eq := htrace
  closes := hcloses

theorem Final.exists_closes (h : Final s p fetches r) (hf : p.signal.Fits p.time) :
    ∃ taken lost w trace closing, Final.Closes p fetches r taken lost w trace closing := by
  cases h with
  | exhausted =>
      exact ⟨_, _, _, _, _, .of_not_begun rfl rfl (Run.closes_of_timedLog rfl)⟩
  | waiting | unbegun =>
      exact ⟨_, _, _, _, _, .of_not_begun (Trace.due_of_not_begun (by simp) _) rfl
        (Run.closes_stop _ _ _ _)⟩
  | @interrupted fetch rest moment stopped around hat hle hge heq =>
      have hstopped : p.signal.shown = false → stopped = moment := fun hs =>
        heq (hf.of_not_shown hs moment hat)
      have hshown : p.signal.shownTimes
          ++ Trace.signals (before p.begun (stop p.signal stopped p.state around)).trace
          = [moment] := by
        simpa using Trace.shownTimes_marks hat hstopped
      exact ⟨_, _, _, _, _, .of_lost (p.due_of_begun (by simp) fetch rest)
        (.inr ⟨moment, hshown ▸ List.mem_singleton_self moment, hle⟩) rfl
        (Run.closes_before (Run.closes_stop _ _ _ _) rfl)⟩
  | hung hend | panicked hend =>
      exact ⟨_, _, _, _, _, .of_lost (p.due_of_begun (by simp) _ _)
        (.inl (by simp only [Due.result?, hend])) rfl (Run.closes_of_timedLog (by simp))⟩
  | hanging hend =>
      exact ⟨_, _, _, _, _, .of_lost (p.due_of_begun (by simp) _ _)
        (.inl (by simp only [Due.result?, hend])) rfl
        (Run.closes_before (Run.closes_stop _ _ _ _) (by simp))⟩
  | @pausing fetch rest error moment hend =>
      exact ⟨_, _, _, _, _, .of_taken (p.due_of_begun (by simp) fetch rest)
        (by simp only [Due.result?, hend])
        (.failure p.state (p.due fetch) error (Trace.timedLog_begun p)
            (Trace.timedLog_heard p fetch))
        rfl rfl (Run.closes_stop _ _ _ _)⟩
  | @skipped fetch rest snapshot hend =>
      have hquiet : Trace.timedLog
          (p.begun ++ (p.heard fetch).1 ++ (p.heard fetch).2.marks (p.due fetch)) = [] := by simp
      refine ⟨_, _, _, _, _, .of_taken (p.due_of_begun (by simp) fetch rest)
        (by simp only [Due.result?, hend])
        (@Reports.success p.state p.state.fetched _ snapshot rfl rfl rfl (by rw [hquiet]; rfl)) rfl
        (List.append_assoc _ _ _) ?_⟩
      simp [Run.Closes, watchLog, skipEvent, stopEvent]

end

/-- A fresh loop has reported half of the failures that it counted at most. -/
theorem Reports.two_mul_le {w w' : WatchState} {trace : Trace}
    {results : List (Except (Nat × FetchError) Snapshot)} (h : Reports w w' trace results)
    (hstreak : w.streak = .start) (hstats : w.stats = {}) :
    w'.stats.fetchFailures = (failures results).length
      ∧ w'.stats.failuresLogged = (streaks results).countP (2 ≤ ·.length)
      ∧ 2 * w'.stats.failuresLogged ≤ w'.stats.fetchFailures := by
  have hfailures : w'.stats.fetchFailures = (failures results).length := by
    rw [h.fetchFailures, hstats]
    exact Nat.zero_add _
  have hlogged : w'.stats.failuresLogged = (seconds (streaks results)).length := by
    rw [h.failuresLogged, hstreak, hstats, Streak.reported_eq_seconds]
    exact Nat.zero_add _
  refine ⟨hfailures, hlogged.trans (length_seconds _), ?_⟩
  rw [hlogged, hfailures, ← flatten_streaks]
  exact two_mul_length_seconds_le _

/-- What a run gets to see, and how it closes: the trips and then the final part. -/
theorem Parts.exists_reports {s : WatchSetup} {around : Surroundings} {fetches : List Fetch}
    (c : Parts s around fetches) (hr : s.registry.Reserved) :
    ∃ taken lost w trace closing, (s.run around fetches).due fetches = taken ++ lost
      ∧ lost.length ≤ 1 ∧ (∀ d ∈ taken, d.result?.isSome)
      ∧ (∀ d ∈ lost, d.result? = none
        ∨ ∃ moment ∈ (s.run around fetches).signals, moment ≤ d.time)
      ∧ Reports {} w trace (taken.filterMap Due.result?) ∧ (s.run around fetches).stats = w.stats
      ∧ (s.run around fetches).trace = eventsAt 0 [s.startEvent] ++ trace ++ closing
      ∧ (s.run around fetches).Closes closing := by
  obtain ⟨hall, hpassed⟩ := c.trips.reports hr
  obtain ⟨taken, lost, w, trace, closing, hcloses⟩ := c.final.exists_closes c.fits
  have hreports := hpassed.append hcloses.reports
  rw [← List.filterMap_append] at hreports
  refine ⟨_, lost, w, _, closing, ?_, hcloses.length_lost, fun d hd => ?_, ?_, hreports, ?_, ?_, ?_⟩
  · rw [c.due_eq, hcloses.due_eq, List.append_assoc]
  · rcases List.mem_append.mp hd with hd | hd
    · exact hall d hd
    · exact hcloses.isSome_taken d hd
  · rw [c.signals_eq]
    exact hcloses.lost_cases
  · rw [c.stats_eq, hcloses.stats_eq]
  · rw [c.run_eq, trace_before, hcloses.trace_eq, List.append_assoc, List.append_assoc,
      List.append_assoc]
  · rw [Run.Closes, c.time_eq, c.stats_eq]
    exact hcloses.closes

/-- **The second failure of each streak is reported, once, and no other.** This holds for every
script of fetches, every backoff and every signal, if no domain reports in the name of the watch
loop. Of the fetches that were begun the results of all but the last are taken in, and that of
the last is lost only if there is none or the signal comes before it.

The counters are the number of failures taken in and that of their streaks of two or more. What
the loop itself has logged is its start, a report on the second failure of each such streak at its
time, in their order, and its end. The advice and the event of a report follow each other in the
whole log. So at every fetch to which the loop ever turns, and in the end, half of the counted
failures have been reported at most. -/
theorem failures_reported_once (s : WatchSetup) (hr : s.registry.Reserved)
    (around : Surroundings) (fetches : List Fetch) :
    let r := s.run around fetches
    (∃ taken lost closing, r.due fetches = taken ++ lost ∧ lost.length ≤ 1
      ∧ (∀ d ∈ taken, d.result?.isSome)
      ∧ (∀ d ∈ lost, d.result? = none ∨ ∃ moment ∈ r.signals, moment ≤ d.time)
      ∧ r.stats.fetchFailures = (failures (taken.filterMap Due.result?)).length
      ∧ r.stats.failuresLogged = (streaks (taken.filterMap Due.result?)).countP (2 ≤ ·.length)
      ∧ watchLog r.timedLog = (0, s.startEvent)
        :: (seconds (streaks (taken.filterMap Due.result?))).flatMap failureReport ++ closing
      ∧ closing.Sublist [(r.time, skipEvent), (r.time, stopEvent r.stats)]
      ∧ ∀ failure ∈ seconds (streaks (taken.filterMap Due.result?)),
        failureReport failure <:+: r.timedLog)
    ∧ 2 * r.stats.failuresLogged ≤ r.stats.fetchFailures
    ∧ ∀ passed trace p, Trips s (s.initial around) passed trace p →
      2 * p.state.stats.failuresLogged ≤ p.state.stats.fetchFailures := by
  intro r
  obtain ⟨c⟩ := s.nonempty_parts around fetches
  obtain ⟨taken, lost, w, trace, closing, hdue, hlength, hall, hlost, hreports, hstats, htrace,
    hcloses⟩ := c.exists_reports hr
  obtain ⟨hfailures, hlogged, hhalf⟩ := hreports.two_mul_le rfl rfl
  have hlog : r.timedLog = [(0, s.startEvent)] ++ Trace.timedLog trace
      ++ Trace.timedLog closing := by
    rw [Run.timedLog_eq, htrace]
    simp
  have hreported : (WatchState.streak {}).reported (taken.filterMap Due.result?)
      = seconds (streaks (taken.filterMap Due.result?)) := Streak.reported_eq_seconds _
  have hwatch : watchLog (Trace.timedLog trace)
      = (seconds (streaks (taken.filterMap Due.result?))).flatMap failureReport := by
    rw [hreports.log, hreported]
  rw [← hstats] at hfailures hlogged hhalf
  refine ⟨⟨taken, lost, watchLog (Trace.timedLog closing), hdue, hlength, hall, hlost, hfailures,
    hlogged, ?_, hcloses, fun failure hf => ?_⟩, hhalf, fun passed trace p htrips => ?_⟩
  · have hstart : watchLog [(0, s.startEvent)] = [(0, s.startEvent)] := rfl
    rw [hlog, watchLog_append, watchLog_append, hwatch, hstart]
    rfl
  · rw [← hreported] at hf
    obtain ⟨before, after, heq⟩ := hreports.together failure hf
    refine ⟨[(0, s.startEvent)] ++ before, after ++ Trace.timedLog closing, ?_⟩
    rw [hlog, ← heq]
    simp only [List.append_assoc]
  · exact ((htrips.reports hr).2.two_mul_le rfl rfl).2.2

/-! ## The domains of the agent -/

theorem Event.IsOfDomain.component_ne {e : Event} (h : e.IsOfDomain) : e.component ≠ .watch := by
  obtain ⟨name, h⟩ := h
  rw [h]
  exact nofun

/-- The domains of the agent leave the name of the watch loop alone. -/
theorem Registry.reserved_agent : Registry.agent.Reserved := by
  intro i d hd h e he
  exact (isOfDomain_of_mem_agent hd h e he).component_ne

/-- Three failures in two streaks, the second of which is reported. -/
theorem failures_reported_once_in_flaky_run :
    pausingSetup.registry.Reserved
      ∧ let r := pausingSetup.run {} flakyScript.fetches
        (∃ taken lost, r.due flakyScript.fetches = taken ++ lost ∧ lost.length ≤ 1
          ∧ (failures (taken.filterMap Due.result?)).length = 3
          ∧ (streaks (taken.filterMap Due.result?)).countP (2 ≤ ·.length) = 1)
        ∧ 2 * r.stats.failuresLogged ≤ r.stats.fetchFailures
        ∧ watchLog r.timedLog = (0, pausingSetup.startEvent)
          :: failureReport (10041, .network "timed out") ++ [(15042, stopEvent ⟨2, 3, 1⟩)] := by
  have hr : pausingSetup.registry.Reserved := Registry.reserved_agent
  obtain ⟨⟨taken, lost, closing, hdue, hlost, -, -, hfailures, hlogged, -⟩, hhalf, -⟩ :=
    failures_reported_once pausingSetup hr {} flakyScript.fetches
  have hstats : (pausingSetup.run {} flakyScript.fetches).stats = ⟨2, 3, 1⟩ := by decide +kernel
  rw [hstats] at hfailures hlogged
  exact ⟨hr, ⟨taken, lost, hdue, hlost, hfailures.symm, hlogged.symm⟩, hhalf, by decide +kernel⟩

end HostAgent
