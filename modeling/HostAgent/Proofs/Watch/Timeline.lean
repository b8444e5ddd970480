import HostAgent.Proofs.Dispatch.Elapsed
import HostAgent.Proofs.Watch.Shutdown

set_option autoImplicit false

/-! # When fetches begin

The first fetch begins at time zero. After a failed fetch the next one begins when the pause is
over, and after a snapshot when its dispatch is: that takes as long as the slowest application. The
signal ends a fetch and a pause at the moment at which it is given (`fetches_begin_on_time`).

A run that begins fetch `k` has made a trip for each of the fetches before it, and stands at the
time of that fetch (`WatchSetup.exists_trips_to`). So what is said of fetch `k` is shown of the
first fetch of a run from a standing, for a trip and for a final part.
-/

namespace HostAgent

open WatchSetup

/-- The times at which the fetches of a run begin. -/
def Run.fetchTimes (r : Run) : List Nat := Trace.fetchTimes r.trace

/-- Whether a fetch brings a snapshot. -/
def Fetch.bringsSnapshot (fetch : Fetch) : Bool :=
  match fetch.ending with
  | .snapshot _ => true
  | _ => false

namespace WatchSetup

/-- The tasks of every cycle take their turns in virtual time. -/
def OnTime (s : WatchSetup) : Prop :=
  ∀ number domains, ∃ table : Timetable domains, s.order number domains = table.turns

/-- The largest delay of a domain whose `set` was called in a cycle. -/
def slowest (s : WatchSetup) (done : CycleDone) : Nat :=
  (done.dispatched.invokedDelays (s.registry.instantiate done.inputs)).max?.getD 0

/-- The first moment at which the signal is given, if none of the fetches before gives it: its own
time, or the time at which the result of the fetch is due if the fetch gives it. -/
def signalWith? (s : WatchSetup) (fetch : Fetch) (due : Nat) : Option Nat :=
  (s.signalAt.toList ++ signalling [⟨due, fetch⟩]).min?

theorem OnTime.elapsed_cycleOf {s : WatchSetup} (h : s.OnTime) (time : Nat) (w : WatchState)
    (around : Surroundings) (snapshot : Snapshot) :
    (s.cycleOf time w around snapshot).dispatched.elapsed
      = s.slowest (s.cycleOf time w around snapshot) := by
  obtain ⟨table, htable⟩ := h w.stats.cycles
    (s.registry.instantiate (s.cycleOf time w around snapshot).inputs)
  rw [slowest, s.dispatched_cycleOf time w around snapshot, htable,
    Dispatched.elapsed_dispatchIn, Dispatched.invokedDelays_dispatchIn]

end WatchSetup

/-! ## The beginning of a run from a standing -/

section

variable {s : WatchSetup} {p p' : Standing} {fetch : Fetch} {fetches rest : List Fetch}
  {trace : Trace} {r : Run}

/-- In its final part a run begins one fetch, unless there is none or the signal was given. -/
theorem Final.fetchTimes_cases (h : Final s p fetches r) :
    (r.fetchTimes = [p.time] ∧ fetches ≠ [])
      ∨ (r.fetchTimes = [] ∧ (fetches = [] ∨ p.signal.givenBy p.time = true)) := by
  cases h with
  | exhausted => exact .inr ⟨rfl, .inl rfl⟩
  | waiting => exact .inr ⟨by simp [Run.fetchTimes], .inl rfl⟩
  | unbegun hgiven => exact .inr ⟨by simp [Run.fetchTimes], .inr hgiven⟩
  | interrupted | hung | hanging | panicked | pausing | skipped =>
      exact .inl ⟨by simp [Run.fetchTimes], List.cons_ne_nil _ _⟩

/-- Trips begin one fetch each, and end a cycle for each snapshot. -/
theorem Trips.length_eq (h : Trips s p fetches trace p') :
    (Trace.fetchTimes trace).length = fetches.length
      ∧ (Trace.cycles trace).length = fetches.countP (·.bringsSnapshot) := by
  induction h with
  | none => exact ⟨rfl, rfl⟩
  | @more p p₁ p₂ fetch fetches trace trace' htrip _ ih =>
      obtain ⟨htimes, hcycles⟩ := ih
      have hcycle : (Trace.cycles trace).length = if fetch.bringsSnapshot then 1 else 0 := by
        cases htrip with
        | failure hend => simp [Fetch.bringsSnapshot, hend]
        | snapshot hend => simp [Fetch.bringsSnapshot, hend]
      rw [Trace.fetchTimes_append, htrip.fetchTimes_eq, Trace.cycles_append, List.length_append,
        List.length_append, htimes, hcycles, hcycle, List.countP_cons]
      exact ⟨Nat.add_comm 1 _, Nat.add_comm _ _⟩

namespace WatchSetup

theorem fetchTimes_before (trace : Trace) (r : Run) :
    (before trace r).fetchTimes = Trace.fetchTimes trace ++ r.fetchTimes :=
  Trace.fetchTimes_append trace r.trace

variable (s p fetches)

/-- A run from a standing begins its first fetch at once, unless there is none or the signal was
given. -/
theorem head?_fetchTimes_runAt :
    (∀ start ∈ (s.runAt p fetches).fetchTimes.head?, start = p.time)
      ∧ (fetches ≠ [] → (∀ moment ∈ p.signal.at?, p.time < moment) →
        (s.runAt p fetches).fetchTimes.head? = some p.time) := by
  rcases s.trip_or_final p fetches with hfinal | ⟨fetch, rest, trace, p', -, htrip, hrun⟩
  · rcases hfinal.fetchTimes_cases with ⟨htimes, -⟩ | ⟨htimes, hnone⟩
    · rw [htimes]
      exact ⟨fun start hstart => (Option.some.inj hstart).symm, fun _ _ => rfl⟩
    · rw [htimes]
      refine ⟨fun start hstart => (nomatch hstart), fun hne hlater => ?_⟩
      rcases hnone with hnil | hgiven
      · exact absurd hnil hne
      · rw [Signal.givenBy_eq_false_iff.mpr hlater] at hgiven
        cases hgiven
  · rw [hrun, fetchTimes_before, htrip.fetchTimes_eq]
    exact ⟨fun start hstart => (Option.some.inj hstart).symm, fun _ _ => rfl⟩

/-- **A run that begins fetch `k` has made a trip for each fetch before it.** -/
theorem exists_trips_to {k start : Nat} (h : (s.runAt p fetches).fetchTimes[k]? = some start) :
    ∃ trace q, Trips s p (fetches.take k) trace q ∧ q.time = start ∧ k < fetches.length
      ∧ s.runAt p fetches = before trace (s.runAt q (fetches.drop k))
      ∧ (s.runAt q (fetches.drop k)).fetchTimes ≠ [] := by
  induction k generalizing p fetches with
  | zero =>
      have hstart := (s.head?_fetchTimes_runAt p fetches).1 start (List.head?_eq_getElem? ▸ h)
      have hne : (s.runAt p fetches).fetchTimes ≠ [] := fun hnil => by rw [hnil] at h; cases h
      refine ⟨[], p, .none p, hstart.symm, List.length_pos_iff.mpr fun hnil => ?_, rfl, hne⟩
      subst hnil
      rcases s.trip_or_final p [] with hfinal | ⟨_, _, _, _, hcons, -⟩
      · rcases hfinal.fetchTimes_cases with ⟨-, hcons⟩ | ⟨hnone, -⟩
        · exact hcons rfl
        · exact hne hnone
      · cases hcons
  | succ k ih =>
      rcases s.trip_or_final p fetches with hfinal | ⟨fetch, rest, trace, p₁, rfl, htrip, hrun⟩
      · -- a final part begins one fetch at most
        rcases hfinal.fetchTimes_cases with ⟨hone, -⟩ | ⟨hnone, -⟩
        · rw [hone] at h
          cases h
        · rw [hnone] at h
          cases h
      · rw [hrun, fetchTimes_before, htrip.fetchTimes_eq] at h
        obtain ⟨trace', q, htrips, hq, hk, hrest, hbegun⟩ := ih p₁ rest h
        refine ⟨trace ++ trace', q, .more htrip htrips, hq, Nat.succ_lt_succ hk, ?_, hbegun⟩
        rw [hrun, hrest, before_before]
        rfl

end WatchSetup

/-! ## The end of a wait -/

/-- A signal that a fetch meets is not heard before its result is due. -/
theorem Standing.due_le_of_heard {moment : Nat} (hmeets : p.Meets fetch)
    (hat : moment ∈ (p.heard fetch).2.at?) (hle : p.time ≤ moment) : p.due fetch ≤ moment := by
  rw [← p.at?_heard fetch, Option.mem_def, List.min?_eq_some_iff] at hat
  rcases List.mem_append.mp hat.1 with hown | hfetch
  · exact hmeets moment (Option.mem_toList.mp hown) hle
  · rw [signalling_singleton] at hfetch
    split at hfetch
    · exact Nat.le_of_eq (List.mem_singleton.mp hfetch).symm
    · cases hfetch

/-- The signal that interrupts a fetch is heard, whether or not the fetch would give it too. -/
theorem Standing.mem_heard_of_le {moment : Nat} (hat : p.signal.at? = some moment)
    (hle : moment ≤ p.due fetch) : moment ∈ (p.heard fetch).2.at? := by
  rw [← p.at?_heard fetch, signalling_singleton, hat]
  cases fetch.signals with
  | false => rfl
  | true => exact congrArg some (Nat.min_eq_left hle)

/-- With a fetch that ends and does not fail, the loop waits for its result only. -/
theorem WatchSetup.WaitsAt.lt_due {due moment : Nat} (h : s.WaitsAt fetch due moment)
    (hends : fetch.ending ≠ .hang) (hgood : ∀ error, fetch.ending ≠ .failure error) :
    moment < due := by
  rcases h with hlt | hhang | ⟨⟨error, hfails⟩, -⟩
  · exact hlt
  · exact absurd hhang hends
  · exact absurd hfails (hgood error)

/-- **While the loop waits the signal stops it at once.** -/
theorem Final.stops (h : Final s p (fetch :: rest) r) (hbegun : r.fetchTimes ≠ []) {moment : Nat}
    (hat : moment ∈ (p.heard fetch).2.at?) (hle : p.time ≤ moment)
    (hwaits : s.WaitsAt fetch (p.due fetch) moment) : r.ending = .stopped ∧ r.time = moment := by
  cases h with
  | unbegun => exact absurd (by simp [Run.fetchTimes]) hbegun
  | @interrupted _ _ given stopped around hgiven hdue hge heq =>
      obtain rfl : given = moment :=
        Option.some.inj ((Standing.mem_heard_of_le hgiven hdue).symm.trans hat)
      exact ⟨rfl, heq hle⟩
  | hung hend hmeets hnone => cases hnone.symm.trans hat
  | hanging hend hmeets hgiven =>
      obtain rfl := Option.some.inj (hgiven.symm.trans hat)
      exact ⟨rfl, Nat.max_eq_right (Standing.due_le_of_heard hmeets hat hle)⟩
  | panicked hend hmeets =>
      have hdue := Standing.due_le_of_heard hmeets hat hle
      exact absurd (hwaits.lt_due (fun h => nomatch hend.symm.trans h)
        fun _ h => nomatch hend.symm.trans h) (Nat.not_lt.mpr hdue)
  | pausing hend hmeets hgiven =>
      obtain rfl := Option.some.inj (hgiven.symm.trans hat)
      exact ⟨rfl, Nat.max_eq_right (Standing.due_le_of_heard hmeets hat hle)⟩
  | skipped hend hmeets =>
      have hdue := Standing.due_le_of_heard hmeets hat hle
      exact absurd (hwaits.lt_due (fun h => nomatch hend.symm.trans h)
        fun _ h => nomatch hend.symm.trans h) (Nat.not_lt.mpr hdue)

/-- No trip is made past a signal that comes while the loop waits. -/
theorem Trip.not_waitsAt (h : Trip s p fetch trace p') {moment : Nat}
    (hat : moment ∈ (p.heard fetch).2.at?) (hle : p.time ≤ moment) :
    ¬s.WaitsAt fetch (p.due fetch) moment := by
  intro hwaits
  cases h with
  | failure hend hmeets hpause =>
      have hdue := Standing.due_le_of_heard hmeets hat hle
      rcases hwaits with hlt | hhang | ⟨-, hlt⟩
      · omega
      · cases hend.symm.trans hhang
      · rw [Signal.interrupts_eq_true_iff.mpr ⟨moment, hat, .inl hlt⟩] at hpause
        cases hpause
  | snapshot hend hsignals hgiven =>
      have hdue := Standing.due_le_of_heard (Standing.meets_of_givenBy hgiven) hat hle
      exact absurd (hwaits.lt_due (fun h => nomatch hend.symm.trans h)
        fun _ h => nomatch hend.symm.trans h) (Nat.not_lt.mpr hdue)

/-- A fetch that is begun in the final part meets the signal before the loop would turn to the next
fetch, unless it does not end, or breaks off in a panic. -/
theorem Final.heard_of_begun (h : Final s p (fetch :: rest) r) (hbegun : r.fetchTimes ≠ []) :
    fetch.ending = .hang ∨ (∃ message, fetch.ending = .panic message)
      ∨ ∃ moment ∈ (p.heard fetch).2.at?, moment ≤ p.due fetch
        ∨ (∃ error, fetch.ending = .failure error) ∧ moment ≤ p.due fetch + s.backoff := by
  cases h with
  | unbegun => exact absurd (by simp [Run.fetchTimes]) hbegun
  | interrupted hgiven hdue =>
      exact .inr (.inr ⟨_, Standing.mem_heard_of_le hgiven hdue, .inl hdue⟩)
  | hung hend | hanging hend => exact .inl hend
  | panicked hend => exact .inr (.inl ⟨_, hend⟩)
  | pausing hend hmeets hgiven hlt => exact .inr (.inr ⟨_, hgiven, .inr ⟨⟨_, hend⟩, hlt⟩⟩)
  | skipped hend hmeets hgiven =>
      obtain ⟨moment, hat, hdue⟩ := Signal.givenBy_eq_true_iff.mp hgiven
      exact .inr (.inr ⟨moment, hat, .inl hdue⟩)

/-! ## The beginning of the next fetch -/

/-- The fetch after number `k` begins at `time` if it begins, and it does begin if there is one and
the signal is not given by then. -/
structure Run.NextBegins (r : Run) (fetches : List Fetch) (k : Nat) (given? : Option Nat)
    (time : Nat) : Prop where
  on_time : ∀ start ∈ r.fetchTimes[k + 1]?, start = time
  begins : k + 1 < fetches.length → (∀ moment ∈ given?, time < moment) →
    r.fetchTimes[k + 1]? = some time

/-- A trip leaves the signal as it was heard with its fetch. -/
theorem Trip.signalAt_eq_heard (hb : 0 < s.backoff) (h : Trip s p fetch trace p') :
    p'.signal.at? = (p.heard fetch).2.at? := by
  rw [h.signalAt_eq hb, Standing.heard, (h.early hb).1, Signal.hear_false]

/-- After a trip the next fetch begins. -/
theorem Trip.nextBegins (hb : 0 < s.backoff) (h : Trip s p fetch trace p') (rest : List Fetch) :
    (before trace (s.runAt p' rest)).NextBegins (fetch :: rest) 0 (p.heard fetch).2.at?
      p'.time := by
  obtain ⟨htime, hbegins⟩ := s.head?_fetchTimes_runAt p' rest
  have hnext : (before trace (s.runAt p' rest)).fetchTimes[0 + 1]?
      = (s.runAt p' rest).fetchTimes.head? := by
    rw [fetchTimes_before, h.fetchTimes_eq, List.head?_eq_getElem?]
    rfl
  rw [← h.signalAt_eq_heard hb]
  constructor
  · rw [hnext]
    exact htime
  · rw [hnext]
    intro hlength hlater
    have hrest : 0 < rest.length := Nat.lt_of_succ_lt_succ hlength
    exact hbegins (List.ne_nil_of_length_pos hrest) hlater

theorem Final.fetchTimes_eq (h : Final s p fetches r) (hbegun : r.fetchTimes ≠ []) :
    r.fetchTimes = [p.time] := by
  rcases h.fetchTimes_cases with ⟨hone, -⟩ | ⟨hnone, -⟩
  · exact hone
  · exact absurd hnone hbegun

/-- A snapshot that is due before the signal is not left alone. -/
theorem Final.not_early (h : Final s p (fetch :: rest) r) (hbegun : r.fetchTimes ≠ [])
    {snapshot : Snapshot} (hend : fetch.ending = .snapshot snapshot) :
    ¬∀ moment ∈ (p.heard fetch).2.at?, p.due fetch < moment := by
  intro hlater
  rcases h.heard_of_begun hbegun with
    hhang | ⟨message, hpanics⟩ | ⟨moment, hat, hle | ⟨⟨error, hfails⟩, -⟩⟩
  · cases hend.symm.trans hhang
  · cases hend.symm.trans hpanics
  · exact absurd hle (Nat.not_le_of_lt (hlater moment hat))
  · cases hend.symm.trans hfails

/-- In the final part no fetch follows a failed one. -/
theorem Final.nextBegins (h : Final s p (fetch :: rest) r) (hbegun : r.fetchTimes ≠ [])
    {error : FetchError} (hend : fetch.ending = .failure error) :
    r.NextBegins (fetch :: rest) 0 (p.heard fetch).2.at? (p.due fetch + s.backoff) := by
  constructor
  · rw [h.fetchTimes_eq hbegun]
    exact fun start hstart => nomatch hstart
  · intro _ hlater
    rcases h.heard_of_begun hbegun with hhang | ⟨message, hpanics⟩ | ⟨moment, hat, hle | ⟨-, hle⟩⟩
    · cases hend.symm.trans hhang
    · cases hend.symm.trans hpanics
    · have hlt := hlater moment hat
      omega
    · have hlt := hlater moment hat
      omega

namespace WatchSetup

variable (s p fetch rest)

/-- **A failed fetch is followed by the pause.** -/
theorem nextBegins_failure (hb : 0 < s.backoff)
    (hbegun : (s.runAt p (fetch :: rest)).fetchTimes ≠ []) {error : FetchError}
    (hend : fetch.ending = .failure error) :
    (s.runAt p (fetch :: rest)).NextBegins (fetch :: rest) 0 (p.heard fetch).2.at?
      (p.due fetch + s.backoff) := by
  rcases s.trip_or_final p (fetch :: rest) with hfinal | ⟨_, _, trace, p', heq, htrip, hrun⟩
  · exact hfinal.nextBegins hbegun hend
  · obtain ⟨rfl, rfl⟩ := List.cons.inj heq
    have hnext := htrip.nextBegins hb rest
    have htime : p'.time = p.due fetch + s.backoff := by
      cases htrip with
      | failure => rfl
      | snapshot hsnapshot => cases hend.symm.trans hsnapshot
    rwa [hrun, ← htime]

/-- **A snapshot that is due before the signal is followed by its dispatch.** -/
theorem nextBegins_snapshot (hb : 0 < s.backoff) (hs : s.OnTime)
    (hbegun : (s.runAt p (fetch :: rest)).fetchTimes ≠ []) {snapshot : Snapshot}
    (hend : fetch.ending = .snapshot snapshot)
    (hlater : ∀ moment ∈ (p.heard fetch).2.at?, p.due fetch < moment) :
    ∃ done, (s.runAt p (fetch :: rest)).cycles.head? = some done
      ∧ done.inputs.current = snapshot
      ∧ (s.runAt p (fetch :: rest)).NextBegins (fetch :: rest) 0 (p.heard fetch).2.at?
        (p.due fetch + s.slowest done) := by
  rcases s.trip_or_final p (fetch :: rest) with hfinal | ⟨_, _, trace, p', heq, htrip, hrun⟩
  · exact absurd hlater (hfinal.not_early hbegun hend)
  · obtain ⟨rfl, rfl⟩ := List.cons.inj heq
    have hnext := htrip.nextBegins hb rest
    rw [hrun, Run.cycles_before]
    cases htrip with
    | failure hfails => cases hend.symm.trans hfails
    | @snapshot brought done hbrings _ _ hdone =>
        obtain rfl : brought = snapshot := FetchEnd.snapshot.inj (hbrings.symm.trans hend)
        have helapsed : done.dispatched.elapsed = s.slowest done :=
          hdone ▸ hs.elapsed_cycleOf (p.due fetch) p.state.fetched (p.met fetch) brought
        refine ⟨done, ?_, by rw [hdone]; rfl, helapsed ▸ hnext⟩
        rw [Trace.cycles_append, Trace.cycles_begun, Trace.cycles_cycleCourse]
        rfl

/-- A fetch whose result is due after the signal is the last one. -/
theorem fetchTimes_runAt_of_late (hb : 0 < s.backoff)
    (hbegun : (s.runAt p (fetch :: rest)).fetchTimes ≠ []) {moment : Nat}
    (hat : moment ∈ (p.heard fetch).2.at?) (hle : moment ≤ p.due fetch) :
    (s.runAt p (fetch :: rest)).fetchTimes = [p.time] := by
  rcases s.trip_or_final p (fetch :: rest) with hfinal | ⟨_, _, trace, p', heq, htrip, hrun⟩
  · exact hfinal.fetchTimes_eq hbegun
  · obtain ⟨rfl, rfl⟩ := List.cons.inj heq
    obtain ⟨hsignals, hgiven⟩ := htrip.early hb
    rw [Standing.heard, hsignals, Signal.hear_false] at hat
    exact absurd hle (Nat.not_le_of_lt (Signal.givenBy_eq_false_iff.mp hgiven moment hat))

/-- **The signal ends the run at once if the loop waits.** -/
theorem runAt_stops (hbegun : (s.runAt p (fetch :: rest)).fetchTimes ≠ []) {moment : Nat}
    (hat : moment ∈ (p.heard fetch).2.at?) (hle : p.time ≤ moment)
    (hwaits : s.WaitsAt fetch (p.due fetch) moment) :
    (s.runAt p (fetch :: rest)).ending = .stopped ∧ (s.runAt p (fetch :: rest)).time = moment
      ∧ (s.runAt p (fetch :: rest)).fetchTimes = [p.time] := by
  rcases s.trip_or_final p (fetch :: rest) with hfinal | ⟨_, _, trace, p', heq, htrip, hrun⟩
  · obtain ⟨hstopped, htime⟩ := hfinal.stops hbegun hat hle hwaits
    exact ⟨hstopped, htime, hfinal.fetchTimes_eq hbegun⟩
  · obtain ⟨rfl, rfl⟩ := List.cons.inj heq
    exact absurd hwaits (htrip.not_waitsAt hat hle)

end WatchSetup

end

/-! ## Whole runs -/

/-- A run up to the beginning of fetch `k`, and from there on. -/
structure Reached (s : WatchSetup) (around : Surroundings) (fetches : List Fetch) (k start : Nat)
    (fetch : Fetch) where
  trace : Trace
  standing : Standing
  rest : List Fetch
  time_eq : standing.time = start
  signal_eq : (standing.heard fetch).2.at? = s.signalWith? fetch (start + fetch.duration)
  length_eq : fetches.length = k + (fetch :: rest).length
  length_fetchTimes : (Trace.fetchTimes trace).length = k
  length_cycles : (Trace.cycles trace).length = (fetches.take k).countP (·.bringsSnapshot)
  run_eq : s.run around fetches = before trace (s.runAt standing (fetch :: rest))
  begun : (s.runAt standing (fetch :: rest)).fetchTimes ≠ []

/-- **The beginning of a fetch is reached by trips.** -/
theorem WatchSetup.nonempty_reached {s : WatchSetup} (hb : 0 < s.backoff) {around : Surroundings}
    {fetches : List Fetch} {k start : Nat} {fetch : Fetch}
    (hstart : (s.run around fetches).fetchTimes[k]? = some start)
    (hfetch : fetches[k]? = some fetch) : Nonempty (Reached s around fetches k start fetch) := by
  have hskip : (s.run around fetches).fetchTimes
      = (s.runAt (s.initial around) fetches).fetchTimes := by
    rw [s.run_eq, fetchTimes_before, Trace.fetchTimes_eventsAt, List.nil_append]
  rw [hskip] at hstart
  obtain ⟨trace, q, htrips, rfl, hk, hrun, hbegun⟩ := s.exists_trips_to _ _ hstart
  obtain ⟨htimes, hcycles⟩ := htrips.length_eq
  have hdrop : fetches.drop k = fetch :: fetches.drop (k + 1) := by
    obtain ⟨hlt, rfl⟩ := List.getElem?_eq_some_iff.mp hfetch
    exact List.drop_eq_getElem_cons hlt
  rw [hdrop] at hrun hbegun
  have hat : q.signal.at? = s.signalAt := (htrips.dispatches_eq hb).1
  refine ⟨⟨eventsAt 0 [s.startEvent] ++ trace, q, fetches.drop (k + 1), rfl, ?_, ?_, ?_, ?_, ?_,
    hbegun⟩⟩
  · rw [← q.at?_heard fetch, hat]
    rfl
  · rw [List.length_cons, List.length_drop]
    omega
  · rw [Trace.fetchTimes_append, Trace.fetchTimes_eventsAt, List.nil_append, htimes,
      List.length_take_of_le (Nat.le_of_lt hk)]
  · rw [Trace.cycles_append, Trace.cycles_eventsAt, List.nil_append, hcycles]
  · rw [s.run_eq, hrun, before_before]

namespace Reached

variable {s : WatchSetup} {around : Surroundings} {fetches : List Fetch} {k start : Nat}
  {fetch : Fetch} (c : Reached s around fetches k start fetch)

theorem due_eq : c.standing.due fetch = start + fetch.duration := by rw [Standing.due, c.time_eq]

theorem length_run : (s.run around fetches).fetchTimes.length
    = k + (s.runAt c.standing (fetch :: c.rest)).fetchTimes.length := by
  rw [c.run_eq, fetchTimes_before, List.length_append, c.length_fetchTimes]

/-- The fetch after number `k` is the second one from there on. -/
theorem nextBegins {given? : Option Nat} {time : Nat}
    (h : (s.runAt c.standing (fetch :: c.rest)).NextBegins (fetch :: c.rest) 0 given? time) :
    (s.run around fetches).NextBegins fetches k given? time := by
  have hnext : (s.run around fetches).fetchTimes[k + 1]?
      = (s.runAt c.standing (fetch :: c.rest)).fetchTimes[0 + 1]? := by
    have hbehind : (Trace.fetchTimes c.trace).length ≤ k + 1 := by
      rw [c.length_fetchTimes]
      exact Nat.le_succ k
    rw [c.run_eq, fetchTimes_before, List.getElem?_append_right hbehind, c.length_fetchTimes,
      Nat.add_sub_cancel_left]
  refine ⟨hnext ▸ h.on_time, fun hlength hlater => ?_⟩
  rw [hnext]
  have hrest := c.length_eq
  exact h.begins (by omega) hlater

/-- The cycle after those before fetch `k` is the first one from there on. -/
theorem getElem?_cycles :
    (s.run around fetches).cycles[(fetches.take k).countP (·.bringsSnapshot)]?
      = (s.runAt c.standing (fetch :: c.rest)).cycles.head? := by
  rw [c.run_eq, Run.cycles_before, ← c.length_cycles, List.getElem?_append_right (Nat.le_refl _),
    Nat.sub_self, List.head?_eq_getElem?]

end Reached

/-- **Fetches begin on time.** The first one begins at time zero. If fetch `k` begins at `start` and
fails after its duration, the next one begins when the backoff has passed, whatever the error is and
however many fetches failed before. If it brings a snapshot, the snapshot is dispatched and the next
fetch begins when the dispatch is over, which takes the largest delay of a domain whose `set` was
called in it. If the signal is given when a result is due, no other fetch begins, and if it is given
during a fetch or a pause the loop stops at that moment.

The next fetch does begin in these cases, unless there is none or the signal is given before. -/
theorem fetches_begin_on_time (s : WatchSetup) (hb : 0 < s.backoff) (hs : s.OnTime)
    (around : Surroundings) (fetches : List Fetch) :
    let r := s.run around fetches
    (∀ start ∈ r.fetchTimes.head?, start = 0)
      ∧ (fetches ≠ [] → s.signalAt ≠ some 0 → r.fetchTimes.head? = some 0)
      ∧ ∀ (k start : Nat) (fetch : Fetch), r.fetchTimes[k]? = some start →
        fetches[k]? = some fetch →
          let due := start + fetch.duration
          let given? := s.signalWith? fetch due
          (∀ error, fetch.ending = .failure error →
              r.NextBegins fetches k given? (due + s.backoff))
            ∧ (∀ snapshot, fetch.ending = .snapshot snapshot →
              (∀ moment ∈ given?, due < moment) →
                ∃ done, r.cycles[(fetches.take k).countP (·.bringsSnapshot)]? = some done
                  ∧ done.inputs.current = snapshot
                  ∧ r.NextBegins fetches k given? (due + s.slowest done))
            ∧ ((∃ moment ∈ given?, moment ≤ due) → r.fetchTimes.length = k + 1)
            ∧ ∀ moment ∈ given?, start ≤ moment → s.WaitsAt fetch due moment →
              r.ending = .stopped ∧ r.time = moment ∧ r.fetchTimes.length = k + 1 := by
  intro r
  have hfirst : r.fetchTimes = (s.runAt (s.initial around) fetches).fetchTimes := by
    rw [show r = _ from s.run_eq around fetches, fetchTimes_before, Trace.fetchTimes_eventsAt,
      List.nil_append]
  obtain ⟨hzero, hbegins⟩ := s.head?_fetchTimes_runAt (s.initial around) fetches
  refine ⟨hfirst ▸ hzero, fun hne hsignal => ?_, fun k start fetch hstart hfetch => ?_⟩
  · rw [hfirst]
    refine hbegins hne fun moment hat => Nat.pos_of_ne_zero fun heq => hsignal ?_
    exact (Option.mem_def.mp hat).trans (congrArg some heq)
  · intro due given?
    obtain ⟨c⟩ := nonempty_reached hb hstart hfetch
    have hdue : c.standing.due fetch = due := c.due_eq
    have hgiven : (c.standing.heard fetch).2.at? = given? := c.signal_eq
    refine ⟨fun error hend => ?_, fun snapshot hend hlater => ?_, fun hlate => ?_,
      fun moment hat hle hwaits => ?_⟩
    · have hnext := s.nextBegins_failure c.standing fetch c.rest hb c.begun hend
      rw [hdue, hgiven] at hnext
      exact c.nextBegins hnext
    · have hdispatch := s.nextBegins_snapshot c.standing fetch c.rest hb hs c.begun hend
      rw [hdue, hgiven] at hdispatch
      obtain ⟨done, hdone, hcurrent, hnext⟩ := hdispatch hlater
      exact ⟨done, c.getElem?_cycles.trans hdone, hcurrent, c.nextBegins hnext⟩
    · obtain ⟨moment, hat, hle⟩ := hlate
      rw [← hgiven] at hat
      rw [← hdue] at hle
      rw [show r.fetchTimes.length = _ from c.length_run,
        s.fetchTimes_runAt_of_late c.standing fetch c.rest hb c.begun hat hle]
      rfl
    · rw [← hgiven] at hat
      rw [← hdue] at hwaits
      have hbefore : c.standing.time ≤ moment := Nat.le_trans (Nat.le_of_eq c.time_eq) hle
      obtain ⟨hstopped, htime, hone⟩ :=
        s.runAt_stops c.standing fetch c.rest c.begun hat hbefore hwaits
      refine ⟨?_, ?_, ?_⟩
      · rw [show r = _ from c.run_eq, ending_before, hstopped]
      · rw [show r = _ from c.run_eq, time_before, htime]
      · rw [show r.fetchTimes.length = _ from c.length_run, hone]
        rfl

/-- Three domains that take their time: one is refused at the end, and one is switched off. The
signal is given in the pause after the fourth fetch. -/
def delayedSetup : WatchSetup where
  registry := [
    ⟨"quick", fun _ => ⟨"quick", .ok false, .ok true, 7, fun host => ⟨.completed, host, []⟩⟩⟩,
    ⟨"refused", fun _ =>
      ⟨"refused", .ok false, .ok true, 9, fun host => ⟨.refused (.host "busy"), host, []⟩⟩⟩,
    ⟨"off", fun _ => ⟨"off", .ok true, .ok true, 20, fun host => ⟨.completed, host, []⟩⟩⟩]
  overridePath := ""
  backoff := 10
  clock _ := ⟨0, 0⟩
  signalAt := some 45

/-- Two fetches that fail in different ways, a snapshot, and another failure. -/
def delayedFetches : List Fetch := [
  { steps := [.wait 3], ending := .failure (.status 503 "") },
  { steps := [.wait 1], ending := .failure (.dns "no such host") },
  { steps := [.wait 4], ending := .snapshot oneAttribute },
  { steps := [.wait 2], ending := .failure (.network "refused") },
  { ending := .snapshot oneAttribute }]

/-- Each failure is followed by the same pause, the snapshot by the delay of the slower domain, and
the last pause ends with the signal. -/
theorem fetches_begin_on_time_of_delays :
    0 < delayedSetup.backoff ∧ delayedSetup.OnTime
      ∧ (delayedSetup.run {} delayedFetches).fetchTimes = [0, 13, 24, 37]
      ∧ (delayedSetup.run {} delayedFetches).ending = .stopped
      ∧ (delayedSetup.run {} delayedFetches).time = 45 := by
  have hb : 0 < delayedSetup.backoff := by decide
  have hs : delayedSetup.OnTime := fun _ domains => ⟨.scheduled domains, rfl⟩
  obtain ⟨-, hfirst, hall⟩ := fetches_begin_on_time delayedSetup hb hs {} delayedFetches
  generalize hr : delayedSetup.run {} delayedFetches = r at hfirst hall ⊢
  have h₀ : r.fetchTimes[0]? = some 0 :=
    List.head?_eq_getElem? ▸ hfirst (List.cons_ne_nil _ _) (by decide)
  have h₁ : r.fetchTimes[1]? = some 13 :=
    ((hall 0 0 _ h₀ rfl).1 _ rfl).begins (by decide) (by decide)
  have h₂ : r.fetchTimes[2]? = some 24 :=
    ((hall 1 13 _ h₁ rfl).1 _ rfl).begins (by decide) (by decide)
  obtain ⟨done, hdone, -, hnext⟩ := (hall 2 24 _ h₂ rfl).2.1 _ rfl (by decide)
  have hslowest : delayedSetup.slowest done = 9 := by
    have hcycles : r.cycles.map delayedSetup.slowest = [9] := by
      rw [← hr]
      decide +kernel
    have hmap := congrArg (·[0]?) hcycles
    simp only [List.getElem?_map] at hmap
    have hcycle : r.cycles[0]? = some done := hdone
    rw [hcycle] at hmap
    exact Option.some.inj hmap
  rw [hslowest] at hnext
  have h₃ : r.fetchTimes[3]? = some 37 := hnext.begins (by decide) (by decide)
  obtain ⟨hstopped, htime, hlength⟩ := (hall 3 37 _ h₃ rfl).2.2.2 45 rfl (by decide)
    (.inr (.inr ⟨⟨_, rfl⟩, by decide⟩))
  refine ⟨hb, hs, List.ext_getElem? fun i => ?_, hstopped, htime⟩
  match i with
  | 0 => exact h₀
  | 1 => exact h₁
  | 2 => exact h₂
  | 3 => exact h₃
  | i + 4 => exact List.getElem?_eq_none (by omega)

end HostAgent
