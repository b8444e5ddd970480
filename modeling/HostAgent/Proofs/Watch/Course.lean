import HostAgent.Proofs.Watch.Trace

set_option autoImplicit false

/-! # The course of a run

Whenever the watch loop turns to its next fetch it stands at a `Standing`. From there it either
makes a `Trip`, which leads back to the next fetch: the fetch fails and the pause after it is
over, or the snapshot is dispatched. Or it does not come back, and what is left of the run is
`Final`. Every run is some trips, one after another, and a final part
(`WatchSetup.exists_trips`); what is proved of runs is proved of a trip and of a final part.

Nothing is assumed here of the signal, of the races and of the backoff. That the signal is shown
in its place is an invariant of trips (`Trip.fits`).
-/

namespace HostAgent

/-! ## Fetches and the signal -/

/-- The time that a fetch takes if nothing interrupts it. -/
def Fetch.duration (fetch : Fetch) : Nat := FetchStep.durations fetch.steps

namespace Signal

/-- The course at the end of a fetch, and the signal after it. If `signals`, the fetch gives the
signal just before it ends. -/
def hear (signal : Signal) (signals : Bool) (finish : Nat) : Trace × Signal :=
  if signals && !signal.givenBy finish then
    (signal.marks finish, { signal.give finish with shown := true })
  else ([], signal)

variable {signal : Signal} {start finish moment : Nat}

theorem givenBy_eq_true_iff :
    signal.givenBy finish = true ↔ ∃ moment ∈ signal.at?, moment ≤ finish := by
  rw [givenBy]
  cases signal.at? with
  | none => simp
  | some moment => simp

theorem givenBy_eq_false_iff :
    signal.givenBy finish = false ↔ ∀ moment ∈ signal.at?, finish < moment := by
  rw [← Bool.not_eq_true, givenBy_eq_true_iff]
  simp

theorem interrupts_eq_true_iff {tie : Bool} :
    signal.interrupts finish tie = true
      ↔ ∃ moment ∈ signal.at?, moment < finish ∨ (moment = finish ∧ tie = false) := by
  rw [interrupts]
  cases signal.at? with
  | none => simp
  | some moment => simp

theorem momentFrom_eq (h : signal.at? = some moment) :
    signal.momentFrom start = max start moment := by
  rw [momentFrom, h, Option.getD_some]

theorem hear_false (signal : Signal) (finish : Nat) : signal.hear false finish = ([], signal) := rfl

/-- Whoever looks when a fetch ends sees a signal that the fetch gave. -/
theorem givenBy_hear (signal : Signal) (signals : Bool) (finish : Nat) :
    (signal.hear signals finish).2.givenBy finish = (signals || signal.givenBy finish) := by
  cases signals with
  | false => rfl
  | true =>
      cases hgiven : signal.givenBy finish with
      | true =>
          simp only [hear, hgiven, Bool.not_true, Bool.and_false, Bool.false_eq_true, if_false,
            Bool.or_true]
      | false =>
          simp only [hear, hgiven, Bool.not_false, Bool.and_self, if_true, Bool.or_false]
          exact givenBy_eq_true_iff.mpr ⟨_, rfl, Nat.min_le_right _ _⟩

/-- A signal is shown once it is given, and given no earlier than the time if it is not shown
yet. -/
structure Fits (signal : Signal) (time : Nat) : Prop where
  of_shown : signal.shown = true → ∃ moment ∈ signal.at?, moment ≤ time
  of_not_shown : signal.shown = false → ∀ moment ∈ signal.at?, time ≤ moment

/-- A signal that fits before a wait fits after it, unless it was given meanwhile. -/
theorem Fits.later (h : signal.Fits start) (hle : start ≤ finish)
    (hmeets : ∀ moment ∈ signal.at?, start ≤ moment → finish ≤ moment) :
    signal.Fits finish where
  of_shown hshown := by
    obtain ⟨moment, hat, hm⟩ := h.of_shown hshown
    exact ⟨moment, hat, by omega⟩
  of_not_shown hshown moment hat := hmeets moment hat (h.of_not_shown hshown moment hat)

/-- A signal that a fetch gives is shown at its end. -/
theorem Fits.hear (h : signal.Fits finish) (signals : Bool) :
    (signal.hear signals finish).2.Fits finish
      ∧ signal.shownTimes ++ Trace.signals (signal.hear signals finish).1
        = (signal.hear signals finish).2.shownTimes := by
  rw [Signal.hear]
  by_cases hgives : (signals && !signal.givenBy finish) = true
  · rw [if_pos hgives]
    have hlater : ∀ moment ∈ signal.at?, finish < moment := by
      rw [Bool.and_eq_true, Bool.not_eq_true'] at hgives
      exact givenBy_eq_false_iff.mp hgives.2
    have hshown : signal.shown = false := by
      cases hs : signal.shown with
      | false => rfl
      | true =>
          obtain ⟨moment, hat, hle⟩ := h.of_shown hs
          exact absurd hle (Nat.not_le_of_lt (hlater moment hat))
    have hmin : min (signal.at?.getD finish) finish = finish := by
      cases hat : signal.at? with
      | none => exact Nat.min_self finish
      | some moment => exact Nat.min_eq_right (Nat.le_of_lt (hlater moment hat))
    refine ⟨⟨fun _ => ⟨_, rfl, Nat.min_le_right _ _⟩, fun hs => nomatch hs⟩, ?_⟩
    simp only [shownTimes, Trace.signals_marks, hshown, give, hmin, Bool.false_eq_true, if_false,
      if_true, List.nil_append, Option.toList_some]
  · rw [if_neg hgives]
    exact ⟨h, List.append_nil _⟩

end Signal

namespace WatchSetup

/-- The steps of a fetch are all taken, or the signal interrupts them. -/
theorem follow_cases (signal : Signal) (tie : Bool) (time : Nat) (around : Surroundings)
    (steps : List FetchStep) :
    let finish := time + FetchStep.durations steps
    (follow signal tie time around steps = (finish, around.after steps, false)
        ∧ ∀ moment ∈ signal.at?, time ≤ moment → finish ≤ moment)
      ∨ ∃ stopped around', follow signal tie time around steps = (stopped, around', true)
        ∧ ∃ moment ∈ signal.at?, moment ≤ finish ∧ moment ≤ stopped
          ∧ (time ≤ moment → stopped = moment) := by
  induction steps generalizing time around with
  | nil => exact .inl ⟨rfl, fun _ _ h => h⟩
  | cons step steps ih =>
      intro finish
      cases step with
      | wait duration =>
          have hfinish : finish = time + duration + FetchStep.durations steps :=
            (Nat.add_assoc _ _ _).symm
          rw [hfinish, follow]
          by_cases hi : signal.interrupts (time + duration) tie = true
          · -- the signal comes within this very step
            obtain ⟨moment, hm, hle⟩ := Signal.interrupts_eq_true_iff.mp hi
            rw [if_pos hi]
            refine .inr ⟨_, _, rfl, moment, hm, by omega, ?_⟩
            rw [Signal.momentFrom_eq hm]
            omega
          · rw [if_neg hi]
            have hquiet : ∀ moment ∈ signal.at?, time + duration ≤ moment := by
              intro moment hm
              rcases Nat.lt_or_ge moment (time + duration) with hlt | hge
              · exact absurd (Signal.interrupts_eq_true_iff.mpr ⟨moment, hm, .inl hlt⟩) hi
              · exact hge
            rcases ih (time + duration) around with ⟨hf, hm⟩ | ⟨stopped, around', hf, hm⟩
            · exact .inl ⟨hf, fun moment h _ => hm moment h (hquiet moment h)⟩
            · obtain ⟨moment, hm, hle, hge, heq⟩ := hm
              exact .inr ⟨stopped, around', hf, moment, hm, hle, hge,
                fun _ => heq (hquiet moment hm)⟩
      | overrides file =>
          have hfinish : finish = time + FetchStep.durations steps :=
            congrArg (time + ·) (Nat.zero_add _)
          rw [hfinish]
          exact ih time (actOn around (.overrides file))
      | failing domain fail =>
          have hfinish : finish = time + FetchStep.durations steps :=
            congrArg (time + ·) (Nat.zero_add _)
          rw [hfinish]
          exact ih time (actOn around (.failing domain fail))

end WatchSetup

/-! ## Trips and final parts -/

/-- Where the loop stands when it turns to its next fetch. -/
structure Standing where
  number : Nat := 0
  signal : Signal
  time : Nat := 0
  state : WatchState := {}
  around : Surroundings

namespace Standing

variable (p : Standing) (fetch : Fetch)

/-- The course of the beginning of a fetch. -/
def begun : Trace := [(p.time, .fetch p.around.host.state)]

/-- The time at which the result of the next fetch is due. -/
def due : Nat := p.time + fetch.duration

/-- The course at the end of the next fetch, and the signal after it. -/
def heard : Trace × Signal := p.signal.hear fetch.signals (p.due fetch)

/-- The loop, the host and the override file when the next fetch ends. -/
def met : Surroundings := p.around.after fetch.steps

/-- The signal is not too early for a fetch that is not interrupted. -/
def Meets : Prop := ∀ moment ∈ p.signal.at?, p.time ≤ moment → p.due fetch ≤ moment

end Standing

namespace Trace

variable (p : Standing) (fetch : Fetch)

@[simp] theorem fetchTimes_begun : fetchTimes p.begun = [p.time] := rfl

@[simp] theorem signals_begun : signals p.begun = [] := rfl

@[simp] theorem dispatches_begun : dispatches p.begun = [] := rfl

@[simp] theorem cycles_begun : cycles p.begun = [] := rfl

/-- The course at the end of a fetch shows nothing but the signal. -/
theorem filterMap_heard {α : Type} {f : Nat × Mark → Option α}
    (hf : ∀ time, f (time, .signal) = none) : (p.heard fetch).1.filterMap f = [] := by
  rw [Standing.heard, Signal.hear]
  split
  · rw [Signal.marks]
    split
    · rfl
    · exact List.filterMap_cons_none (hf _)
  · rfl

@[simp] theorem fetchTimes_heard : fetchTimes (p.heard fetch).1 = [] :=
  filterMap_heard p fetch fun _ => rfl

@[simp] theorem dispatches_heard : dispatches (p.heard fetch).1 = [] :=
  filterMap_heard p fetch fun _ => rfl

@[simp] theorem cycles_heard : cycles (p.heard fetch).1 = [] :=
  filterMap_heard p fetch fun _ => rfl

end Trace

namespace WatchSetup

variable (s : WatchSetup)

/-- The run from a standing on. -/
def runAt (p : Standing) (fetches : List Fetch) : Run :=
  s.runFrom p.number p.signal p.time p.state p.around fetches

/-- Whether the loop waits at a moment after the beginning of a fetch whose result is due at `due`:
for this result, or for the end of the pause after it. -/
def WaitsAt (fetch : Fetch) (due moment : Nat) : Prop :=
  moment < due ∨ fetch.ending = .hang
    ∨ (∃ error, fetch.ending = .failure error) ∧ moment < due + s.backoff

/-- The standing at the start of a run. -/
def initial (around : Surroundings) : Standing where
  signal := ⟨s.signalAt, false⟩
  around

theorem run_eq (around : Surroundings) (fetches : List Fetch) :
    s.run around fetches = before (eventsAt 0 [s.startEvent])
      (s.runAt (s.initial around) fetches) :=
  rfl

end WatchSetup

open WatchSetup

/-- The way from a fetch to the next one, and its course. -/
inductive Trip (s : WatchSetup) (p : Standing) (fetch : Fetch) : Trace → Standing → Prop
  /-- The fetch fails, and the pause is over before the signal interrupts it. -/
  | failure {error : FetchError} (hend : fetch.ending = .failure error) (hmeets : p.Meets fetch)
      (hpause : (p.heard fetch).2.interrupts (p.due fetch + s.backoff) (s.ties (2 * p.number + 1))
        = false) :
      Trip s p fetch
        (p.begun ++ eventsAt (p.due fetch) (p.state.fetchFailed error).2 ++ (p.heard fetch).1)
        ⟨p.number + 1, (p.heard fetch).2, p.due fetch + s.backoff,
          (p.state.fetchFailed error).1, p.met fetch⟩
  /-- The fetch succeeds before the signal, and its snapshot is dispatched. -/
  | snapshot {snapshot : Snapshot} {done : CycleDone} (hend : fetch.ending = .snapshot snapshot)
      (hsignals : fetch.signals = false) (hgiven : p.signal.givenBy (p.due fetch) = false)
      (hdone : done = s.cycleOf (p.due fetch) p.state.fetched (p.met fetch) snapshot) :
      Trip s p fetch (p.begun ++ (cycleCourse p.signal (p.due fetch) done).1)
        ⟨p.number + 1, (cycleCourse p.signal (p.due fetch) done).2,
          p.due fetch + done.dispatched.elapsed, done.state,
          ⟨done.dispatched.host, (p.met fetch).overrides⟩⟩

/-- Trips one after another. -/
inductive Trips (s : WatchSetup) : Standing → List Fetch → Trace → Standing → Prop
  | none (p : Standing) : Trips s p [] [] p
  | more {p p' p'' : Standing} {fetch : Fetch} {fetches : List Fetch} {trace trace' : Trace} :
      Trip s p fetch trace p' → Trips s p' fetches trace' p'' →
      Trips s p (fetch :: fetches) (trace ++ trace') p''

/-- The part of a run from which the loop does not turn to another fetch. -/
inductive Final (s : WatchSetup) (p : Standing) : List Fetch → Run → Prop
  /-- There is no fetch and no signal. -/
  | exhausted (h : p.signal.at? = none) :
      Final s p [] ⟨[], .pending, p.time, p.state.stats, p.around⟩
  /-- There is no fetch, and the loop waits for the signal. -/
  | waiting {moment : Nat} (h : p.signal.at? = some moment) :
      Final s p [] (stop p.signal (max p.time moment) p.state p.around)
  /-- The signal was given before the fetch begins. -/
  | unbegun {fetch : Fetch} {rest : List Fetch} (h : p.signal.givenBy p.time = true) :
      Final s p (fetch :: rest) (stop p.signal p.time p.state p.around)
  /-- The signal interrupts the fetch. -/
  | interrupted {fetch : Fetch} {rest : List Fetch} {moment stopped : Nat} {around : Surroundings}
      (h : p.signal.at? = some moment) (hle : moment ≤ p.due fetch) (hge : moment ≤ stopped)
      (heq : p.time ≤ moment → stopped = moment) :
      Final s p (fetch :: rest) (before p.begun (stop p.signal stopped p.state around))
  /-- The fetch never ends, and there is no signal. -/
  | hung {fetch : Fetch} {rest : List Fetch} (hend : fetch.ending = .hang)
      (hmeets : p.Meets fetch) (h : (p.heard fetch).2.at? = none) :
      Final s p (fetch :: rest)
        ⟨p.begun ++ (p.heard fetch).1, .pending, p.due fetch, p.state.stats, p.met fetch⟩
  /-- The fetch does not end before the signal. -/
  | hanging {fetch : Fetch} {rest : List Fetch} {moment : Nat} (hend : fetch.ending = .hang)
      (hmeets : p.Meets fetch) (h : (p.heard fetch).2.at? = some moment) :
      Final s p (fetch :: rest) (before (p.begun ++ (p.heard fetch).1)
        (stop (p.heard fetch).2 (max (p.due fetch) moment) p.state (p.met fetch)))
  /-- The fetch breaks off in a panic. -/
  | panicked {fetch : Fetch} {rest : List Fetch} {message : String}
      (hend : fetch.ending = .panic message) (hmeets : p.Meets fetch) :
      Final s p (fetch :: rest) ⟨p.begun ++ (p.heard fetch).1, .panicked message, p.due fetch,
        p.state.stats, p.met fetch⟩
  /-- The fetch fails, and the signal interrupts the pause. -/
  | pausing {fetch : Fetch} {rest : List Fetch} {error : FetchError} {moment : Nat}
      (hend : fetch.ending = .failure error) (hmeets : p.Meets fetch)
      (h : (p.heard fetch).2.at? = some moment) (hle : moment ≤ p.due fetch + s.backoff) :
      Final s p (fetch :: rest) (before
        (p.begun ++ eventsAt (p.due fetch) (p.state.fetchFailed error).2 ++ (p.heard fetch).1)
        (stop (p.heard fetch).2 (max (p.due fetch) moment) (p.state.fetchFailed error).1
          (p.met fetch)))
  /-- The signal was given before the fetch ends with a snapshot. -/
  | skipped {fetch : Fetch} {rest : List Fetch} {snapshot : Snapshot}
      (hend : fetch.ending = .snapshot snapshot) (hmeets : p.Meets fetch)
      (h : (p.heard fetch).2.givenBy (p.due fetch) = true) :
      Final s p (fetch :: rest) (before
        (p.begun ++ (p.heard fetch).1 ++ (p.heard fetch).2.marks (p.due fetch)
          ++ eventsAt (p.due fetch) [⟨.info, .watch, "Shutdown requested, skipping dispatch", []⟩])
        (stop { (p.heard fetch).2 with shown := true } (p.due fetch) p.state.fetched
          (p.met fetch)))

namespace WatchSetup

variable (s : WatchSetup)

/-- A fetch that the signal does not interrupt leads to the next one, or the run ends with it. -/
theorem trip_or_final_of_follow (p : Standing) (fetch : Fetch) (rest : List Fetch)
    (hbegins : (p.signal.givenBy p.time && !s.ties (2 * p.number)) = false)
    (hfollow : follow p.signal (s.ties (2 * p.number)) p.time p.around fetch.steps
      = (p.due fetch, p.met fetch, false))
    (hmeets : p.Meets fetch) :
    Final s p (fetch :: rest) (s.runAt p (fetch :: rest))
      ∨ ∃ trace p', Trip s p fetch trace p'
        ∧ s.runAt p (fetch :: rest) = before trace (s.runAt p' rest) := by
  have hheard : (if (fetch.signals && !p.signal.givenBy (p.due fetch)) = true then
      (p.signal.marks (p.due fetch), { p.signal.give (p.due fetch) with shown := true })
      else ([], p.signal)) = p.heard fetch := rfl
  rw [runAt, runFrom]
  simp only [hbegins, hfollow, hheard, Bool.false_eq_true, if_false]
  cases hend : fetch.ending with
  | hang =>
      cases hat : (p.heard fetch).2.at? with
      | none => exact .inl (.hung hend hmeets hat)
      | some moment =>
          refine .inl ?_
          simp only [Signal.momentFrom_eq hat]
          exact .hanging hend hmeets hat
  | panic message => exact .inl (.panicked hend hmeets)
  | failure error =>
      cases hpause : (p.heard fetch).2.interrupts (p.due fetch + s.backoff)
        (s.ties (2 * p.number + 1)) with
      | false => exact .inr ⟨_, _, .failure hend hmeets hpause, rfl⟩
      | true =>
          obtain ⟨moment, hat, hlt⟩ := Signal.interrupts_eq_true_iff.mp hpause
          refine .inl ?_
          simp only [if_true, Signal.momentFrom_eq hat]
          exact .pausing hend hmeets hat (by omega)
  | snapshot snapshot =>
      cases hgiven : (p.heard fetch).2.givenBy (p.due fetch) with
      | true => exact .inl (.skipped hend hmeets hgiven)
      | false =>
          -- the fetch gives no signal itself, so there is nothing to hear
          have hnot := (Signal.givenBy_hear p.signal fetch.signals (p.due fetch)).symm.trans hgiven
          rw [Bool.or_eq_false_iff] at hnot
          have hquiet : p.heard fetch = ([], p.signal) := by
            rw [Standing.heard, hnot.1, Signal.hear_false]
          simp only [hquiet, Bool.false_eq_true, if_false, List.append_nil]
          exact .inr ⟨_, _, .snapshot hend hnot.1 hnot.2 rfl, rfl⟩

/-- The loop makes a trip, or the run is in its final part. -/
theorem trip_or_final (p : Standing) (fetches : List Fetch) :
    Final s p fetches (s.runAt p fetches)
      ∨ ∃ fetch rest trace p', fetches = fetch :: rest ∧ Trip s p fetch trace p'
        ∧ s.runAt p fetches = before trace (s.runAt p' rest) := by
  cases fetches with
  | nil =>
      refine .inl ?_
      rw [runAt, runFrom]
      cases hat : p.signal.at? with
      | none => exact .exhausted hat
      | some moment =>
          simp only [Signal.momentFrom_eq hat]
          exact .waiting hat
  | cons fetch rest =>
      cases hbegins : p.signal.givenBy p.time && !s.ties (2 * p.number) with
      | true =>
          rw [runAt, runFrom]
          simp only [hbegins, if_true]
          exact .inl (.unbegun (Bool.and_eq_true_iff.mp hbegins).1)
      | false =>
          rcases follow_cases p.signal (s.ties (2 * p.number)) p.time p.around fetch.steps with
            ⟨hfollow, hmeets⟩ | ⟨stopped, around, hfollow, moment, hat, hle, hge, heq⟩
          · rcases s.trip_or_final_of_follow p fetch rest hbegins hfollow hmeets with
              hfinal | ⟨trace, p', htrip, hrun⟩
            · exact .inl hfinal
            · exact .inr ⟨fetch, rest, trace, p', rfl, htrip, hrun⟩
          · refine .inl ?_
            rw [runAt, runFrom]
            simp only [hbegins, hfollow, Bool.false_eq_true, if_false, if_true]
            exact .interrupted hat hle hge heq

theorem before_before (trace trace' : Trace) (r : Run) :
    before trace (before trace' r) = before (trace ++ trace') r := by
  rw [before, before, before, List.append_assoc]

/-- **A run is some trips, one after another, and a final part.** -/
theorem exists_trips (p : Standing) (fetches : List Fetch) :
    ∃ taken rest trace p' last, fetches = taken ++ rest ∧ Trips s p taken trace p'
      ∧ Final s p' rest last ∧ s.runAt p fetches = before trace last := by
  induction fetches generalizing p with
  | nil =>
      rcases s.trip_or_final p [] with hfinal | ⟨fetch, rest, trace, p', heq, -⟩
      · exact ⟨[], [], [], p, _, rfl, .none p, hfinal, rfl⟩
      · cases heq
  | cons fetch rest ih =>
      rcases s.trip_or_final p (fetch :: rest) with
        hfinal | ⟨fetch', rest', t, p₁, heq, htrip, hrun⟩
      · exact ⟨[], fetch :: rest, [], p, _, rfl, .none p, hfinal, rfl⟩
      · obtain ⟨rfl, rfl⟩ := List.cons.inj heq
        obtain ⟨taken, left, trace, p', last, hfetches, htrips, hfinal, hrest⟩ := ih p₁
        refine ⟨fetch :: taken, left, t ++ trace, p', last, congrArg (fetch :: ·) hfetches,
          .more htrip htrips, hfinal, ?_⟩
        rw [hrun, hrest, before_before]

end WatchSetup

/-! ## The signal along trips -/

/-- A signal that does not interrupt a pause fits after it. -/
theorem Signal.Fits.paused {signal : Signal} {start finish : Nat} {tie : Bool}
    (h : signal.Fits start) (hle : start ≤ finish)
    (hpause : signal.interrupts finish tie = false) : signal.Fits finish := by
  refine h.later hle fun moment hat _ => Nat.le_of_not_lt fun hlt => ?_
  rw [Signal.interrupts_eq_true_iff.mpr ⟨moment, hat, .inl hlt⟩] at hpause
  cases hpause

theorem Standing.due_le (p : Standing) (fetch : Fetch) : p.time ≤ p.due fetch :=
  Nat.le_add_right _ _

/-- After a fetch that is not interrupted the signal fits, and is shown if the fetch gave it. -/
theorem Standing.fits_heard {p : Standing} {fetch : Fetch} (hf : p.signal.Fits p.time)
    (hmeets : p.Meets fetch) :
    (p.heard fetch).2.Fits (p.due fetch)
      ∧ p.signal.shownTimes ++ Trace.signals (p.heard fetch).1
        = (p.heard fetch).2.shownTimes :=
  (hf.later (p.due_le fetch) hmeets).hear fetch.signals

theorem Standing.meets_of_givenBy {p : Standing} {fetch : Fetch}
    (h : p.signal.givenBy (p.due fetch) = false) : p.Meets fetch :=
  fun moment hat _ => Nat.le_of_lt (Signal.givenBy_eq_false_iff.mp h moment hat)

theorem Signal.Fits.cycle {signal : Signal} {time : Nat} (h : signal.Fits time)
    (done : CycleDone) :
    (cycleCourse signal time done).2.Fits (time + done.dispatched.elapsed) := by
  rcases cycleCourse_cases signal time done with ⟨moment, hat, -, hle, heq⟩ | ⟨hlate, heq⟩
  · rw [heq]
    exact ⟨fun _ => ⟨moment, hat, hle⟩, fun hs => nomatch hs⟩
  · rw [heq]
    refine ⟨fun hshown => ?_, fun hshown moment hat => ?_⟩
    · obtain ⟨moment, hat, hle⟩ := h.of_shown hshown
      exact ⟨moment, hat, Nat.le_trans hle (Nat.le_add_right _ _)⟩
    · rcases hlate with hs | hlater
      · rw [hshown] at hs
        cases hs
      · exact Nat.le_of_lt (hlater moment hat)

section

variable {s : WatchSetup} {p p' : Standing} {fetch : Fetch} {fetches : List Fetch} {trace : Trace}

theorem Trip.fits (h : Trip s p fetch trace p') (hf : p.signal.Fits p.time) :
    p'.signal.Fits p'.time
      ∧ p.signal.shownTimes ++ Trace.signals trace = p'.signal.shownTimes := by
  cases h with
  | failure hend hmeets hpause =>
      obtain ⟨hfits, hshown⟩ := Standing.fits_heard hf hmeets
      refine ⟨hfits.paused (Nat.le_add_right _ _) hpause, ?_⟩
      simp only [Trace.signals_append, Trace.signals_eventsAt, Trace.signals_begun,
        List.nil_append, hshown]
  | @snapshot snapshot done hend hsignals hgiven hdone =>
      have hfits := hf.later (p.due_le fetch) (Standing.meets_of_givenBy hgiven)
      refine ⟨hfits.cycle done, ?_⟩
      rw [Trace.signals_append, Trace.signals_begun, List.nil_append]
      exact Trace.shownTimes_cycleCourse p.signal (p.due fetch) done

theorem Trips.fits (h : Trips s p fetches trace p') (hf : p.signal.Fits p.time) :
    p'.signal.Fits p'.time
      ∧ p.signal.shownTimes ++ Trace.signals trace = p'.signal.shownTimes := by
  induction h with
  | none p => exact ⟨hf, List.append_nil _⟩
  | more htrip _ ih =>
      obtain ⟨hfits, hshown⟩ := htrip.fits hf
      obtain ⟨hfits', hshown'⟩ := ih hfits
      refine ⟨hfits', ?_⟩
      rw [Trace.signals_append, ← List.append_assoc, hshown, hshown']

end

theorem WatchSetup.fits_initial (s : WatchSetup) (around : Surroundings) :
    (s.initial around).signal.Fits (s.initial around).time where
  of_shown h := nomatch h
  of_not_shown _ moment _ := Nat.zero_le moment

/-! ## Results that are due -/

/-- A fetch that was begun, and the time at which its result is due. -/
structure Due where
  time : Nat
  fetch : Fetch

/-- The fetches that a course shows begun. -/
def Trace.due (trace : Trace) (fetches : List Fetch) : List Due :=
  List.zipWith (fun begun fetch => ⟨begun + fetch.duration, fetch⟩) (Trace.fetchTimes trace) fetches

theorem Trace.due_of_not_begun {trace : Trace} (h : Trace.fetchTimes trace = [])
    (fetches : List Fetch) : Trace.due trace fetches = [] := by
  rw [Trace.due, h, List.zipWith_nil_left]

theorem Standing.due_of_begun (p : Standing) {trace : Trace}
    (h : Trace.fetchTimes trace = [p.time]) (fetch : Fetch) (rest : List Fetch) :
    Trace.due trace (fetch :: rest) = [⟨p.due fetch, fetch⟩] := by
  rw [Trace.due, h]
  rfl

/-- The fetches that were begun in a run. -/
def Run.due (r : Run) (fetches : List Fetch) : List Due := Trace.due r.trace fetches

section

variable {s : WatchSetup} {p p' : Standing} {fetch : Fetch} {fetches : List Fetch} {trace : Trace}

theorem Trip.fetchTimes_eq (h : Trip s p fetch trace p') : Trace.fetchTimes trace = [p.time] := by
  cases h with
  | failure => simp
  | snapshot => simp

theorem Trip.due_append (h : Trip s p fetch trace p') (trace' : Trace) (rest : List Fetch) :
    Trace.due (trace ++ trace') (fetch :: rest)
      = ⟨p.due fetch, fetch⟩ :: Trace.due trace' rest := by
  rw [Trace.due, Trace.fetchTimes_append, h.fetchTimes_eq]
  rfl

/-- The fetches of trips were all begun. -/
theorem Trips.due_append (h : Trips s p fetches trace p') (trace' : Trace) (rest : List Fetch) :
    Trace.due (trace ++ trace') (fetches ++ rest)
      = Trace.due trace fetches ++ Trace.due trace' rest := by
  induction h with
  | none => rfl
  | more htrip _ ih =>
      rw [List.append_assoc, List.cons_append, htrip.due_append, htrip.due_append, ih,
        List.cons_append]

theorem Trips.map_due (h : Trips s p fetches trace p') :
    (Trace.due trace fetches).map (·.fetch) = fetches := by
  induction h with
  | none => rfl
  | more htrip _ ih => rw [htrip.due_append, List.map_cons, ih]

end

/-! ## Whole runs -/

/-- A run in parts: its start, the trips for the fetches that it has passed, and the final part
over the rest of them. -/
structure Parts (s : WatchSetup) (around : Surroundings) (fetches : List Fetch) where
  passed : List Fetch
  rest : List Fetch
  trace : Trace
  standing : Standing
  last : Run
  fetches_eq : fetches = passed ++ rest
  trips : Trips s (s.initial around) passed trace standing
  final : Final s standing rest last
  run_eq : s.run around fetches = before (eventsAt 0 [s.startEvent] ++ trace) last

/-- **Every run has its parts.** -/
theorem WatchSetup.nonempty_parts (s : WatchSetup) (around : Surroundings)
    (fetches : List Fetch) : Nonempty (Parts s around fetches) := by
  obtain ⟨passed, rest, trace, p, last, hfetches, htrips, hfinal, hrun⟩ :=
    s.exists_trips (s.initial around) fetches
  have hr : s.run around fetches = before (eventsAt 0 [s.startEvent] ++ trace) last := by
    rw [s.run_eq, hrun, before_before]
  exact ⟨⟨passed, rest, trace, p, last, hfetches, htrips, hfinal, hr⟩⟩

namespace Parts

variable {s : WatchSetup} {around : Surroundings} {fetches : List Fetch}
  (c : Parts s around fetches)

theorem ending_eq : (s.run around fetches).ending = c.last.ending := by
  rw [c.run_eq, ending_before]

theorem time_eq : (s.run around fetches).time = c.last.time := by rw [c.run_eq, time_before]

theorem stats_eq : (s.run around fetches).stats = c.last.stats := by rw [c.run_eq, stats_before]

theorem fits : c.standing.signal.Fits c.standing.time :=
  (c.trips.fits (s.fits_initial around)).1

/-- The signal is shown on the trips or in the final part. -/
theorem signals_eq : (s.run around fetches).signals
    = c.standing.signal.shownTimes ++ Trace.signals c.last.trace := by
  rw [c.run_eq, Run.signals, trace_before, Trace.signals_append, Trace.signals_append,
    Trace.signals_eventsAt, List.nil_append, ← (c.trips.fits (s.fits_initial around)).2]
  rfl

/-- The fetches that were begun are those of the trips and of the final part. -/
theorem due_eq : (s.run around fetches).due fetches
    = Trace.due c.trace c.passed ++ Trace.due c.last.trace c.rest := by
  have hstart (trace : Trace) :
      Trace.due (eventsAt 0 [s.startEvent] ++ trace) fetches = Trace.due trace fetches := by
    rw [Trace.due, Trace.fetchTimes_append, Trace.fetchTimes_eventsAt, List.nil_append]
    rfl
  rw [c.run_eq, Run.due, trace_before, List.append_assoc, hstart, ← c.trips.due_append,
    ← c.fetches_eq]

end Parts

end HostAgent
