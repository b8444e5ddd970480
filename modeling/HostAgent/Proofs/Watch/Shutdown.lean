import HostAgent.Proofs.Dispatch.Contract
import HostAgent.Proofs.Watch.Course
import HostAgent.Proofs.Watch.Succession

set_option autoImplicit false

/-! # Shutdown

A result is *late* if the signal is given by the time it is due, or by its own fetch. With a
backoff that takes time no trip is made for a late result: a failure is followed by a pause, which
the signal interrupts, and before a snapshot is dispatched the loop looks for the signal. So a run
goes on until the signal is given, for however many failures, and afterwards consumes one result
at most, which is not dispatched. What was dispatched before is carried through
(`dispatches_until_signal`).
-/

namespace HostAgent

open WatchSetup

namespace Due

/-- Whether the signal is given by the time at which a result is due, or by its own fetch. -/
def isLate (signalAt : Option Nat) (d : Due) : Bool :=
  d.fetch.signals || signalAt.any (· ≤ d.time)

/-- The snapshot that a fetch delivers, and the time at which it does. -/
def delivery? (d : Due) : Option (Nat × Snapshot) :=
  match d.fetch.ending with
  | .snapshot snapshot => some (d.time, snapshot)
  | _ => none

end Due

/-- The times at which fetches give the signal. -/
def signalling (due : List Due) : List Nat := (due.filter (·.fetch.signals)).map (·.time)

/-- The turns of each cycle are an interleaving of its tasks. -/
def WatchSetup.Fair (s : WatchSetup) : Prop :=
  ∀ number domains, ∃ order : Interleaving domains, s.order number domains = order.turns

/-- The cycles of a fair run end with an outcome of every domain. -/
theorem WatchSetup.Fair.names_outcomes {s : WatchSetup} (h : s.Fair) (time : Nat) (w : WatchState)
    (around : Surroundings) (snapshot : Snapshot) :
    let done := s.cycleOf time w around snapshot
    done.dispatched.report.outcomes.map (·.1)
      = (s.registry.instantiate done.inputs).map (·.name) := by
  intro done
  obtain ⟨order, horder⟩ := h w.stats.cycles (s.registry.instantiate done.inputs)
  rw [s.dispatched_cycleOf time w around snapshot, horder]
  exact Dispatched.names_outcomes order around.host w.status _

theorem Signal.givenBy_eq_any (signal : Signal) (time : Nat) :
    signal.givenBy time = signal.at?.any (· ≤ time) := by
  rw [Signal.givenBy]
  cases signal.at? <;> rfl

/-! ## Trips are made before the signal -/

section

variable {s : WatchSetup} {p p' : Standing} {fetch : Fetch} {fetches : List Fetch} {trace : Trace}

/-- A trip is made for a result that is not late. -/
theorem Trip.early (hb : 0 < s.backoff) (h : Trip s p fetch trace p') :
    fetch.signals = false ∧ p.signal.givenBy (p.due fetch) = false := by
  cases h with
  | failure hend hmeets hpause =>
      have hnot : (p.heard fetch).2.givenBy (p.due fetch) = false := by
        rw [Signal.givenBy_eq_false_iff]
        intro moment hat
        -- a signal that is already given interrupts the pause
        refine Nat.lt_of_not_le fun hle => ?_
        rw [Signal.interrupts_eq_true_iff.mpr ⟨moment, hat, .inl (by omega)⟩] at hpause
        cases hpause
      rwa [Standing.heard, Signal.givenBy_hear, Bool.or_eq_false_iff] at hnot
  | snapshot hend hsignals hgiven => exact ⟨hsignals, hgiven⟩

theorem Trip.isLate_due (hb : 0 < s.backoff) (h : Trip s p fetch trace p') :
    Due.isLate p.signal.at? ⟨p.due fetch, fetch⟩ = false := by
  obtain ⟨hsignals, hgiven⟩ := h.early hb
  rw [Due.isLate, hsignals, ← Signal.givenBy_eq_any, hgiven, Bool.or_false]

/-- A trip leaves the signal at its time. -/
theorem Trip.signalAt_eq (hb : 0 < s.backoff) (h : Trip s p fetch trace p') :
    p'.signal.at? = p.signal.at? := by
  have hsignals := (h.early hb).1
  cases h with
  | failure hend hmeets hpause => rw [Standing.heard, hsignals, Signal.hear_false]
  | @snapshot snapshot done =>
      rcases cycleCourse_cases p.signal (p.due fetch) done with ⟨_, _, _, _, heq⟩ | ⟨_, heq⟩ <;>
        rw [heq]

/-- A trip dispatches the snapshot that its fetch delivers, and counts it. -/
theorem Trip.dispatches_eq (h : Trip s p fetch trace p') :
    Trace.dispatches trace = (Due.delivery? ⟨p.due fetch, fetch⟩).toList
      ∧ p'.state.stats.cycles = p.state.stats.cycles + (Trace.dispatches trace).length
      ∧ ∀ done ∈ Trace.cycles trace, ∃ time w around snapshot,
        done = s.cycleOf time w around snapshot := by
  cases h with
  | failure hend hmeets hpause =>
      simp only [Due.delivery?, hend, Trace.dispatches_append, Trace.dispatches_begun,
        Trace.dispatches_eventsAt, Trace.dispatches_heard, Trace.cycles_append,
        Trace.cycles_begun, Trace.cycles_eventsAt, Trace.cycles_heard]
      refine ⟨rfl, ?_, fun done hdone => nomatch hdone⟩
      exact (p.state.alike_fetchFailed _).cycles
  | @snapshot snapshot done hend hsignals hgiven hdone =>
      simp only [Due.delivery?, hend, Trace.dispatches_append, Trace.dispatches_begun,
        Trace.dispatches_cycleCourse, Trace.cycles_append, Trace.cycles_begun,
        Trace.cycles_cycleCourse]
      subst hdone
      refine ⟨rfl, rfl, fun done hdone => ?_⟩
      obtain rfl := List.mem_singleton.mp hdone
      exact ⟨_, _, _, _, rfl⟩

/-- What trips dispatch, and what they leave as it is. -/
theorem Trips.dispatches_eq (hb : 0 < s.backoff) (h : Trips s p fetches trace p') :
    p'.signal.at? = p.signal.at?
      ∧ (∀ d ∈ Trace.due trace fetches, d.isLate p.signal.at? = false)
      ∧ Trace.dispatches trace = (Trace.due trace fetches).filterMap Due.delivery?
      ∧ p'.state.stats.cycles = p.state.stats.cycles + (Trace.dispatches trace).length
      ∧ ∀ done ∈ Trace.cycles trace, ∃ time w around snapshot,
        done = s.cycleOf time w around snapshot := by
  induction h with
  | none p => exact ⟨rfl, (fun d hd => nomatch hd), rfl, rfl, fun done hdone => nomatch hdone⟩
  | @more p p₁ p₂ fetch fetches trace trace' htrip htrips ih =>
      obtain ⟨hat, hearly, hdispatches, hcount, hcycles⟩ := ih
      obtain ⟨hfirst, hcounted, hcycle⟩ := htrip.dispatches_eq
      have hsame := htrip.signalAt_eq hb
      rw [htrip.due_append, Trace.dispatches_append, Trace.cycles_append]
      refine ⟨hat.trans hsame, fun d hd => ?_, ?_, ?_, fun done hdone => ?_⟩
      · rcases List.mem_cons.mp hd with rfl | hd
        · exact htrip.isLate_due hb
        · rw [← hsame]
          exact hearly d hd
      · rw [hfirst, hdispatches]
        cases hd : Due.delivery? ⟨p.due fetch, fetch⟩ with
        | none => rw [List.filterMap_cons_none hd, Option.toList_none, List.nil_append]
        | some delivery =>
            rw [List.filterMap_cons_some hd, Option.toList_some, List.cons_append,
              List.nil_append]
      · rw [hcount, hcounted, List.length_append, Nat.add_assoc]
      · rcases List.mem_append.mp hdone with hdone | hdone
        · exact hcycle done hdone
        · exact hcycles done hdone

/-! ## The final part -/

variable {r : Run}

/-- Nothing is dispatched in the final part. -/
theorem Final.dispatches_eq (h : Final s p fetches r) :
    Trace.dispatches r.trace = [] ∧ Trace.cycles r.trace = []
      ∧ r.stats.cycles = p.state.stats.cycles := by
  cases h with
  | exhausted => exact ⟨rfl, rfl, rfl⟩
  | hung | panicked => simp
  | waiting | unbegun | interrupted | hanging | skipped => simp [WatchState.fetched]
  | pausing => simp [(p.state.alike_fetchFailed _).cycles]

/-- One more fetch is begun in the final part at most, and what it delivers is late. -/
theorem Final.due_cases (h : Final s p fetches r) :
    Trace.due r.trace fetches = []
      ∨ ∃ d, Trace.due r.trace fetches = [d]
        ∧ (d.isLate p.signal.at? = false → d.delivery? = none) := by
  cases h with
  | exhausted | waiting | unbegun => exact .inl (Trace.due_of_not_begun (by simp) _)
  | @interrupted fetch rest moment stopped around hat hle =>
      refine .inr ⟨_, p.due_of_begun (by simp) fetch rest, fun hlate => ?_⟩
      rw [Due.isLate, hat] at hlate
      simp [hle] at hlate
  | hung hend | hanging hend | panicked hend | pausing hend =>
      exact .inr ⟨_, p.due_of_begun (by simp) _ _, fun _ => by simp only [Due.delivery?, hend]⟩
  | @skipped fetch rest snapshot hend hmeets hgiven =>
      refine .inr ⟨_, p.due_of_begun (by simp) fetch rest, fun hlate => ?_⟩
      rw [Standing.heard, Signal.givenBy_hear, Signal.givenBy_eq_any] at hgiven
      rw [Due.isLate, hgiven] at hlate
      cases hlate

/-- The signal is given by a fetch at its end, if it was not given before. -/
theorem Signal.at?_hear (signal : Signal) (signals : Bool) (finish : Nat) :
    (signal.hear signals finish).2.at?
      = (signal.at?.toList ++ if signals then [finish] else []).min? := by
  rw [Signal.hear, Signal.givenBy_eq_any]
  obtain ⟨_ | moment, shown⟩ := signal
  · cases signals <;> simp [Signal.give]
  · cases signals with
    | false => simp
    | true => by_cases hle : moment ≤ finish <;> simp [hle, Signal.give]

theorem Signal.shownTimes_eq_nil {signal : Signal} (hat : signal.at? = none) :
    signal.shownTimes = [] := by
  rw [Signal.shownTimes, hat]
  split <;> rfl

theorem signalling_singleton (d : Due) :
    signalling [d] = if d.fetch.signals then [d.time] else [] := by
  cases hs : d.fetch.signals <;> simp [signalling, hs]

/-- How a run ends that shows the signal at the given times: it stops after the signal, and
without one it waits forever, be it for a fetch that hangs or for one more fetch. -/
def Run.EndsAfter (r : Run) (fetches : List Fetch) (shown : List Nat) : Prop :=
  (∃ moment, shown = [moment] ∧ r.ending = .stopped ∧ moment ≤ r.time)
    ∨ (shown = [] ∧ r.ending = .pending
      ∧ ((Trace.due r.trace fetches).map (·.fetch) = fetches
        ∨ ∃ d ∈ Trace.due r.trace fetches, d.fetch.ending = .hang))

/-- How a run stops after a signal at the given moment, if its fetches do not give it earlier. -/
theorem Run.stops_after {signal : Signal} {due : List Due} {moment : Nat}
    (hdue : Trace.due r.trace fetches = due)
    (hshown : signal.shownTimes ++ Trace.signals r.trace = [moment])
    (hmin : (signal.at?.toList ++ signalling due).min? = some moment)
    (hend : r.ending = .stopped) (hle : moment ≤ r.time) :
    signal.shownTimes ++ Trace.signals r.trace
        = (signal.at?.toList ++ signalling (Trace.due r.trace fetches)).min?.toList
      ∧ r.EndsAfter fetches (signal.shownTimes ++ Trace.signals r.trace) := by
  rw [hdue, hshown, hmin]
  exact ⟨rfl, .inl ⟨moment, rfl, hend, hle⟩⟩

/-- A stop after a fetch shows the signal, if the fetch did not. -/
theorem Standing.shown_of_stop {moment time : Nat} (hf : p.signal.Fits p.time)
    (hmeets : p.Meets fetch) (hat : (p.heard fetch).2.at? = some moment)
    (heq : p.due fetch ≤ moment → time = moment) :
    p.signal.shownTimes ++ (Trace.signals (p.heard fetch).1
      ++ Trace.signals ((p.heard fetch).2.marks time)) = [moment] := by
  obtain ⟨hfits, hshown⟩ := Standing.fits_heard hf hmeets
  rw [← List.append_assoc, hshown]
  exact Trace.shownTimes_marks hat fun hs => heq (hfits.of_not_shown hs moment hat)

theorem Standing.at?_heard (p : Standing) (fetch : Fetch) :
    (p.signal.at?.toList ++ signalling [⟨p.due fetch, fetch⟩]).min? = (p.heard fetch).2.at? := by
  rw [signalling_singleton, Standing.heard, Signal.at?_hear]

/-- The final part shows the signal, if there is one, and ends accordingly. -/
theorem Final.ends (h : Final s p fetches r) (hf : p.signal.Fits p.time)
    (hpanics : ∀ fetch ∈ fetches, ∀ message, fetch.ending ≠ .panic message) :
    p.signal.shownTimes ++ Trace.signals r.trace
        = (p.signal.at?.toList ++ signalling (Trace.due r.trace fetches)).min?.toList
      ∧ r.EndsAfter fetches (p.signal.shownTimes ++ Trace.signals r.trace) := by
  cases h with
  | exhausted hat =>
      rw [Signal.shownTimes_eq_nil hat, hat]
      exact ⟨rfl, .inr ⟨rfl, rfl, .inl rfl⟩⟩
  | @waiting moment hat =>
      have heq : p.signal.shown = false → max p.time moment = moment := fun hs =>
        Nat.max_eq_right (hf.of_not_shown hs moment hat)
      refine Run.stops_after (Trace.due_of_not_begun (by simp) _) ?_ ?_ rfl (Nat.le_max_right _ _)
      · simpa using Trace.shownTimes_marks hat heq
      · rw [hat]
        rfl
  | unbegun hgiven =>
      obtain ⟨moment, hat, hle⟩ := Signal.givenBy_eq_true_iff.mp hgiven
      have heq : p.signal.shown = false → p.time = moment := fun hs =>
        Nat.le_antisymm (hf.of_not_shown hs moment hat) hle
      refine Run.stops_after (Trace.due_of_not_begun (by simp) _) ?_ ?_ rfl hle
      · simpa using Trace.shownTimes_marks hat heq
      · rw [hat]
        rfl
  | @interrupted fetch rest moment stopped around hat hle hge heq =>
      have hstopped : p.signal.shown = false → stopped = moment := fun hs =>
        heq (hf.of_not_shown hs moment hat)
      refine Run.stops_after (p.due_of_begun (by simp) fetch rest) ?_ ?_ rfl hge
      · simpa using Trace.shownTimes_marks hat hstopped
      · -- the fetch would have given the signal later
        rw [signalling_singleton, hat]
        cases fetch.signals with
        | false => rfl
        | true => exact congrArg some (Nat.min_eq_left hle)
  | @hung fetch rest hend hmeets hat =>
      obtain ⟨-, hshown⟩ := Standing.fits_heard hf hmeets
      have hdue := @Standing.due_of_begun p (p.begun ++ (p.heard fetch).1) (by simp) fetch rest
      simp only [hdue, Standing.at?_heard, hat, Trace.signals_append, Trace.signals_begun,
        List.nil_append, hshown, Signal.shownTimes_eq_nil hat]
      refine ⟨rfl, .inr ⟨rfl, rfl, .inr ⟨⟨p.due fetch, fetch⟩, ?_, hend⟩⟩⟩
      exact hdue ▸ List.mem_singleton_self _
  | @hanging fetch rest moment hend hmeets hat =>
      refine Run.stops_after (p.due_of_begun (by simp) fetch rest) ?_ ?_ rfl
        (Nat.le_max_right _ _)
      · simpa using Standing.shown_of_stop hf hmeets hat fun hle => Nat.max_eq_right hle
      · rw [Standing.at?_heard, hat]
  | panicked hend hmeets => exact absurd hend (hpanics _ List.mem_cons_self _)
  | @pausing fetch rest error moment hend hmeets hat hle =>
      refine Run.stops_after (p.due_of_begun (by simp) fetch rest) ?_ ?_ rfl
        (Nat.le_max_right _ _)
      · simpa using Standing.shown_of_stop hf hmeets hat fun hle => Nat.max_eq_right hle
      · rw [Standing.at?_heard, hat]
  | @skipped fetch rest snapshot hend hmeets hgiven =>
      obtain ⟨moment, hat, hle⟩ := Signal.givenBy_eq_true_iff.mp hgiven
      refine Run.stops_after (p.due_of_begun (by simp) fetch rest) ?_ ?_ rfl hle
      · simpa using Standing.shown_of_stop hf hmeets hat fun hge => Nat.le_antisymm hge hle
      · rw [Standing.at?_heard, hat]

end

section

variable {signalAt : Option Nat} {early left : List Due}

/-- Results that are not late do not give the signal. -/
theorem signalling_append (h : ∀ d ∈ early, d.isLate signalAt = false) :
    signalling (early ++ left) = signalling left := by
  have hnone : early.filter (·.fetch.signals) = [] := by
    rw [List.filter_eq_nil_iff]
    intro d hd hsignals
    have hlate := h d hd
    rw [Due.isLate, hsignals] at hlate
    cases hlate
  rw [signalling, List.filter_append, hnone]
  rfl

/-- Of some results that are not late and one more, all that are not late are delivered. -/
theorem deliveries_append (h : ∀ d ∈ early, d.isLate signalAt = false)
    (hleft : left = [] ∨ ∃ d, left = [d] ∧ (d.isLate signalAt = false → d.delivery? = none)) :
    ((early ++ left).filter (!·.isLate signalAt)).filterMap Due.delivery?
        = early.filterMap Due.delivery?
      ∧ ∀ d ∈ (early ++ left).dropLast, d.isLate signalAt = false := by
  have hall : early.filter (!·.isLate signalAt) = early :=
    List.filter_eq_self.mpr fun d hd => by rw [h d hd]; rfl
  rw [List.filter_append, hall, List.filterMap_append]
  rcases hleft with rfl | ⟨d, rfl, hd⟩
  · refine ⟨List.append_nil _, fun d hd => h d ?_⟩
    rw [List.append_nil] at hd
    exact (List.dropLast_sublist early).mem hd
  · rw [List.dropLast_concat]
    refine ⟨?_, h⟩
    cases hlate : d.isLate signalAt with
    | true => simp [hlate]
    | false => simp [hlate, hd hlate]

end

/-! ## Whole runs -/

namespace Parts

variable {s : WatchSetup} {around : Surroundings} {fetches : List Fetch}
  (c : Parts s around fetches)

/-- What is dispatched is dispatched on the trips. -/
theorem dispatches_eq : (s.run around fetches).dispatches = Trace.dispatches c.trace := by
  rw [c.run_eq, Run.dispatches, trace_before]
  simp [c.final.dispatches_eq.1]

theorem cycles_eq : (s.run around fetches).cycles = Trace.cycles c.trace := by
  rw [c.run_eq, Run.cycles, trace_before]
  simp [c.final.dispatches_eq.2.1]

variable (hb : 0 < s.backoff)

include c hb

theorem signalAt_eq : c.standing.signal.at? = s.signalAt := (c.trips.dispatches_eq hb).1

theorem isLate_of_passed : ∀ d ∈ Trace.due c.trace c.passed, d.isLate s.signalAt = false :=
  (c.trips.dispatches_eq hb).2.1

/-- The run dispatches what is not late, and all fetches but the last are not. -/
theorem deliveries_eq :
    (s.run around fetches).dispatches
        = (((s.run around fetches).due fetches).filter (!·.isLate s.signalAt)).filterMap
          Due.delivery?
      ∧ ∀ d ∈ ((s.run around fetches).due fetches).dropLast, d.isLate s.signalAt = false := by
  obtain ⟨hat, hearly, htaken, -⟩ := c.trips.dispatches_eq hb
  have hleft := c.final.due_cases
  rw [hat] at hleft
  obtain ⟨hdelivered, hlast⟩ := deliveries_append hearly hleft
  rw [c.due_eq, c.dispatches_eq, htaken]
  exact ⟨hdelivered.symm, hlast⟩

/-- The count is that of the dispatches. -/
theorem stats_cycles_eq :
    (s.run around fetches).stats.cycles = (s.run around fetches).dispatches.length := by
  obtain ⟨-, -, -, hcount, -⟩ := c.trips.dispatches_eq hb
  rw [c.stats_eq, c.final.dispatches_eq.2.2, hcount, c.dispatches_eq]
  exact Nat.zero_add _

/-- The dispatches are cycles of the loop. -/
theorem exists_cycleOf : ∀ done ∈ (s.run around fetches).cycles, ∃ time w around' snapshot,
    done = s.cycleOf time w around' snapshot := by
  rw [c.cycles_eq]
  exact (c.trips.dispatches_eq hb).2.2.2.2

/-- The run shows the first signal that is given, and ends accordingly. -/
theorem ends (hpanics : ∀ fetch ∈ fetches, ∀ message, fetch.ending ≠ .panic message) :
    (s.run around fetches).signals
        = (s.signalAt.toList ++ signalling ((s.run around fetches).due fetches)).min?.toList
      ∧ (s.run around fetches).EndsAfter fetches (s.run around fetches).signals := by
  have hrest : ∀ fetch ∈ c.rest, ∀ message, fetch.ending ≠ .panic message := fun fetch hfetch =>
    hpanics fetch (c.fetches_eq ▸ List.mem_append_right c.passed hfetch)
  obtain ⟨hmin, hends⟩ := c.final.ends c.fits hrest
  rw [← c.signals_eq] at hmin hends
  rw [c.signalAt_eq hb, ← signalling_append (c.isLate_of_passed hb), ← c.due_eq] at hmin
  refine ⟨hmin, ?_⟩
  rcases hends with ⟨moment, hm, hstopped, hle⟩ | ⟨hno, hpending, hbegun⟩
  · exact .inl ⟨moment, hm, c.ending_eq.trans hstopped, c.time_eq ▸ hle⟩
  · refine .inr ⟨hno, c.ending_eq.trans hpending, ?_⟩
    rw [← Run.due, c.due_eq]
    rcases hbegun with hall | ⟨d, hd, hhang⟩
    · refine .inl ?_
      rw [List.map_append, c.trips.map_due, hall, ← c.fetches_eq]
    · exact .inr ⟨d, List.mem_append_right _ hd, hhang⟩

end Parts

/-- **Snapshots are dispatched until the signal is given, and the loop stops soon after it.** This
holds for every script of fetches, every backoff that takes time, every moment of the signal,
whether it has a time of its own or is given by a fetch just before its end, and all races.

The course shows the first of the signals that were given, if any. Without one the loop has begun
all fetches, unless one of them hangs, and waits on; with one it stops, at no earlier time. Of the
fetches that were begun only the last one can be late, so one further result is consumed after
the signal at most. The results that are not late are dispatched, if they are snapshots, and no
others are. Every dispatch ends with an outcome of each domain, and the count is that of the
dispatches. -/
theorem dispatches_until_signal (s : WatchSetup) (hb : 0 < s.backoff) (hfair : s.Fair)
    (around : Surroundings) (fetches : List Fetch)
    (hpanics : ∀ fetch ∈ fetches, ∀ message, fetch.ending ≠ .panic message) :
    let r := s.run around fetches
    let due := r.due fetches
    r.signals = (s.signalAt.toList ++ signalling due).min?.toList
      ∧ (r.signals = [] → r.ending = .pending
        ∧ (due.map (·.fetch) = fetches ∨ ∃ d ∈ due, d.fetch.ending = .hang))
      ∧ (∀ moment ∈ r.signals, r.ending = .stopped ∧ moment ≤ r.time)
      ∧ (∀ d ∈ due.dropLast, d.isLate s.signalAt = false)
      ∧ r.dispatches = (due.filter (!·.isLate s.signalAt)).filterMap Due.delivery?
      ∧ (∀ done ∈ r.cycles, done.dispatched.report.outcomes.map (·.1)
        = (s.registry.instantiate done.inputs).map (·.name))
      ∧ r.stats.cycles = r.dispatches.length := by
  intro r due
  obtain ⟨c⟩ := s.nonempty_parts around fetches
  obtain ⟨hsignals, hends⟩ := c.ends hb hpanics
  obtain ⟨hdispatches, hlast⟩ := c.deliveries_eq hb
  refine ⟨hsignals, fun hno => ?_, fun moment hm => ?_, hlast, hdispatches, fun done hd => ?_,
    c.stats_cycles_eq hb⟩
  · rcases hends with ⟨moment, hm, -⟩ | ⟨-, hpending⟩
    · cases hno.symm.trans hm
    · exact hpending
  · rcases hends with ⟨moment', hm', hstopped⟩ | ⟨hno, -⟩
    · obtain rfl := List.mem_singleton.mp (hm' ▸ hm)
      exact hstopped
    · exact absurd (hno ▸ hm) List.not_mem_nil
  · obtain ⟨time, w, around', snapshot, rfl⟩ := c.exists_cycleOf hb done hd
    exact hfair.names_outcomes time w around' snapshot

/-- A domain that takes its time, and a signal that is given meanwhile. The fetch after that wins
its race against the signal. -/
def slowSetup : WatchSetup where
  registry := [⟨"slow", fun _ =>
    ⟨"slow", .ok false, .ok true, 7, fun host => ⟨.completed, host, []⟩⟩⟩]
  overridePath := ""
  backoff := 10
  clock _ := ⟨0, 0⟩
  signalAt := some 20
  ties race := race == 4

/-- A failed fetch, and two snapshots. -/
def slowFetches : List Fetch := [
  { steps := [.wait 3], ending := .failure (.status 503 "") },
  { steps := [.wait 4], ending := .snapshot oneAttribute },
  { ending := .snapshot Snapshot.empty },
  { ending := .snapshot oneAttribute }]

/-- The dispatch that has begun is carried through, the next snapshot is left alone, and the last
fetch is not begun. -/
theorem dispatches_until_signal_in_dispatch :
    0 < slowSetup.backoff ∧ slowSetup.Fair
      ∧ (∀ fetch ∈ slowFetches, ∀ message, fetch.ending ≠ .panic message)
      ∧ (slowSetup.run {} slowFetches).signals = [20]
      ∧ (slowSetup.run {} slowFetches).ending = .stopped
      ∧ ((slowSetup.run {} slowFetches).due slowFetches).map (·.time) = [3, 17, 24]
      ∧ (slowSetup.run {} slowFetches).dispatches = [(17, oneAttribute)]
      ∧ (slowSetup.run {} slowFetches).stats.cycles = 1 := by
  have hb : 0 < slowSetup.backoff := by decide
  have hfair : slowSetup.Fair := fun _ domains => ⟨.scheduled domains, rfl⟩
  have hpanics : ∀ fetch ∈ slowFetches, ∀ message, fetch.ending ≠ .panic message := by
    simp [slowFetches]
  obtain ⟨hsignals, -, hstopped, -, hdispatches, -, hcount⟩ :=
    dispatches_until_signal slowSetup hb hfair {} slowFetches hpanics
  have hgiven : (slowSetup.run {} slowFetches).signals = [20] :=
    hsignals.trans (by decide +kernel)
  have hdispatched : (slowSetup.run {} slowFetches).dispatches = [(17, oneAttribute)] :=
    hdispatches.trans (by decide +kernel)
  refine ⟨hb, hfair, hpanics, hgiven, (hstopped 20 ?_).1, by decide +kernel, hdispatched, ?_⟩
  · rw [hgiven]
    exact List.mem_singleton_self 20
  · rw [hcount, hdispatched]
    rfl

end HostAgent
