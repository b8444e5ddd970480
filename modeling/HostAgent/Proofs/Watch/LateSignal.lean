import HostAgent.Proofs.Watch.Course

set_option autoImplicit false

/-! # Signals that come late

Up to the fetch in which the signal is given, or the pause after it, a run is the same with and
without the signal. So the run of the loop to which the signal is given at a moment is put together
from the trips that the loop makes without one, and from what it does with the signal from the next
fetch on (`WatchSetup.SignalledAfter`). This says also what happens if that fetch begins at the very
moment of the signal, after a cycle that took no time. If it begins earlier, the run is the one of
the setup in which the signal is given at that moment (`SignalledAfter.eq_run`).
-/

namespace HostAgent

open WatchSetup

/-- The signal that is never given. -/
def Signal.never : Signal := ⟨none, false⟩

/-- The setup in which the signal is given at the given moment, or never. A fetch or a pause that
ends at that moment is over before the signal. -/
def WatchSetup.signalled (s : WatchSetup) (moment? : Option Nat) : WatchSetup :=
  { s with signalAt := moment?, ties := fun _ => true }

namespace Standing

variable (p : Standing) (fetch : Fetch)

/-- The standing of a loop that has not begun, without a signal. -/
def fresh (around : Surroundings) : Standing where
  signal := .never
  around

/-- The standing after a failed fetch and the pause after it. -/
def afterFailure (s : WatchSetup) (error : FetchError) : Standing :=
  ⟨p.number + 1, p.signal, p.due fetch + s.backoff, (p.state.fetchFailed error).1, p.met fetch⟩

/-- The cycle for the snapshot that a fetch brings. -/
def cycleDone (s : WatchSetup) (snapshot : Snapshot) : CycleDone :=
  s.cycleOf (p.due fetch) p.state.fetched (p.met fetch) snapshot

/-- The standing after a cycle. -/
def afterCycle (done : CycleDone) : Standing :=
  ⟨p.number + 1, p.signal, p.due fetch + done.dispatched.elapsed, done.state,
    ⟨done.dispatched.host, (p.met fetch).overrides⟩⟩

theorem heard_eq {fetch : Fetch} (h : fetch.signals = false) : p.heard fetch = ([], p.signal) := by
  rw [heard, h, Signal.hear_false]

end Standing

/-- Without a signal before it, the signal that a fetch gives is heard at its end. -/
theorem Standing.heard_of_never {p : Standing} {fetch : Fetch} (hp : p.signal = .never)
    (hf : fetch.signals = true) :
    p.heard fetch = ([(p.due fetch, .signal)], ⟨some (p.due fetch), true⟩) := by
  have hgive : p.signal.give (p.due fetch) = ⟨some (p.due fetch), false⟩ := by
    rw [hp, Signal.give, Signal.never, Option.getD_none, Nat.min_self]
  rw [heard, Signal.hear, hgive, hf, hp]
  rfl

/-- The course of a cycle that is over before the signal. -/
def WatchSetup.cycleTrace (time : Nat) (done : CycleDone) : Trace :=
  cycleEvents time done ++ [(time + done.dispatched.elapsed, .cycle done)]

theorem WatchSetup.cycleCourse_of_later {signal : Signal} {time : Nat} {done : CycleDone}
    (h : ∀ moment ∈ signal.at?, time + done.dispatched.elapsed < moment) :
    cycleCourse signal time done = (cycleTrace time done, signal) := by
  rcases cycleCourse_cases signal time done with ⟨moment, hat, -, hle, -⟩ | ⟨-, heq⟩
  · exact absurd hle (Nat.not_le_of_lt (h moment hat))
  · exact heq

/-- Without a signal every cycle is over before it. -/
theorem WatchSetup.cycleCourse_of_never {signal : Signal} (h : signal = .never) (time : Nat)
    (done : CycleDone) : cycleCourse signal time done = (cycleTrace time done, signal) := by
  subst h
  exact cycleCourse_of_later fun moment hat => nomatch hat

/-! ## Trips without a signal -/

section

variable {s s' : WatchSetup} {p p' p'' : Standing} {fetch : Fetch} {fetches rest : List Fetch}
  {trace trace' : Trace}

theorem Trip.failed (hp : p.signal = .never) (hf : fetch.signals = false) {error : FetchError}
    (hend : fetch.ending = .failure error) :
    Trip s p fetch (p.begun ++ eventsAt (p.due fetch) (p.state.fetchFailed error).2)
      (p.afterFailure fetch s error) := by
  have hmeets : p.Meets fetch := by
    intro moment hat
    rw [hp] at hat
    cases hat
  have htrip := Trip.failure (s := s) hend hmeets (by rw [p.heard_eq hf, hp]; rfl)
  rw [p.heard_eq hf, List.append_nil] at htrip
  exact htrip

theorem Trip.dispatched (hp : p.signal = .never) (hf : fetch.signals = false) {snapshot : Snapshot}
    (hend : fetch.ending = .snapshot snapshot) :
    Trip s p fetch (p.begun ++ cycleTrace (p.due fetch) (p.cycleDone fetch s snapshot))
      (p.afterCycle fetch (p.cycleDone fetch s snapshot)) := by
  have hgiven : p.signal.givenBy (p.due fetch) = false := by
    rw [hp]
    rfl
  have htrip := Trip.snapshot (s := s) hend hf hgiven (Eq.refl (p.cycleDone fetch s snapshot))
  rw [cycleCourse_of_never hp] at htrip
  exact htrip

/-- Without a signal there are two kinds of trips. -/
theorem Trip.cases_of_never (h : Trip s p fetch trace p') (hp : p.signal = .never)
    (hf : fetch.signals = false) :
    (∃ error, fetch.ending = .failure error
        ∧ trace = p.begun ++ eventsAt (p.due fetch) (p.state.fetchFailed error).2
        ∧ p' = p.afterFailure fetch s error)
      ∨ ∃ snapshot, fetch.ending = .snapshot snapshot
        ∧ trace = p.begun ++ cycleTrace (p.due fetch) (p.cycleDone fetch s snapshot)
        ∧ p' = p.afterCycle fetch (p.cycleDone fetch s snapshot) := by
  cases h with
  | @failure error hend =>
      refine .inl ⟨error, hend, ?_, ?_⟩
      · rw [p.heard_eq hf, List.append_nil]
      · rw [p.heard_eq hf]
        rfl
  | @snapshot snapshot done hend _ _ hdone =>
      have hcourse := cycleCourse_of_never hp (p.due fetch) done
      subst hdone
      rw [hcourse]
      exact .inr ⟨snapshot, hend, rfl, rfl⟩

theorem Trip.signal_eq_never (h : Trip s p fetch trace p') (hp : p.signal = .never)
    (hf : fetch.signals = false) : p'.signal = .never := by
  rcases h.cases_of_never hp hf with ⟨error, -, -, rfl⟩ | ⟨snapshot, -, -, rfl⟩ <;> exact hp

/-- Without a signal the trips of a loop do not depend on when it is given in a setup. -/
theorem Trip.signalled (h : Trip s p fetch trace p') (hp : p.signal = .never)
    (hf : fetch.signals = false) (moment? : Option Nat) :
    Trip (s.signalled moment?) p fetch trace p' := by
  rcases h.cases_of_never hp hf with ⟨error, hend, rfl, rfl⟩ | ⟨snapshot, hend, rfl, rfl⟩
  · exact .failed hp hf hend
  · exact .dispatched hp hf hend

/-- A trip lasts until the end of its fetch at least. -/
theorem Trip.due_le (h : Trip s p fetch trace p') : p.due fetch ≤ p'.time := by
  cases h with
  | failure | snapshot => exact Nat.le_add_right _ _

theorem Trip.time_le (h : Trip s p fetch trace p') : p.time ≤ p'.time :=
  Nat.le_trans (p.due_le fetch) h.due_le

theorem Trips.signalled (h : Trips s p fetches trace p') (hp : p.signal = .never)
    (hf : ∀ fetch ∈ fetches, fetch.signals = false) (moment? : Option Nat) :
    p'.signal = .never ∧ Trips (s.signalled moment?) p fetches trace p' := by
  induction h with
  | none p => exact ⟨hp, .none p⟩
  | more htrip _ ih =>
      obtain ⟨hfirst, hrest⟩ := List.forall_mem_cons.mp hf
      obtain ⟨hp', htrips⟩ := ih (htrip.signal_eq_never hp hfirst) hrest
      exact ⟨hp', .more (htrip.signalled hp hfirst moment?) htrips⟩

theorem Trips.time_le (h : Trips s p fetches trace p') : p.time ≤ p'.time := by
  induction h with
  | none => exact Nat.le_refl _
  | more htrip _ ih => exact Nat.le_trans htrip.time_le ih

/-- One more trip. -/
theorem Trips.concat (h : Trips s p fetches trace p') (hlast : Trip s p' fetch trace' p'') :
    Trips s p (fetches ++ [fetch]) (trace ++ trace') p'' := by
  induction h with
  | none p =>
      have hone := Trips.more hlast (.none _)
      rw [List.append_nil] at hone
      exact hone
  | more htrip _ ih =>
      rw [List.append_assoc]
      exact .more htrip (ih hlast)

end

/-! ## Runs up to a late signal -/

theorem FetchStep.durations_append (steps steps' : List FetchStep) :
    durations (steps ++ steps') = durations steps + durations steps' := by
  induction steps with
  | nil => exact (Nat.zero_add _).symm
  | cons step steps ih => rw [List.cons_append, durations, durations, ih, Nat.add_assoc]

namespace WatchSetup

/-- Steps that are over when the signal comes are all taken. -/
theorem follow_append {signal : Signal} (time : Nat) (around : Surroundings)
    (steps rest : List FetchStep)
    (h : ∀ moment ∈ signal.at?, time + FetchStep.durations steps ≤ moment) :
    follow signal true time around (steps ++ rest)
      = follow signal true (time + FetchStep.durations steps) (around.after steps) rest := by
  induction steps generalizing time around with
  | nil => rfl
  | cons step steps ih =>
      rw [FetchStep.durations, ← Nat.add_assoc] at h
      rw [FetchStep.durations, ← Nat.add_assoc]
      cases step with
      | wait duration =>
          have hover : signal.interrupts (time + duration) true = false := by
            rw [← Bool.not_eq_true, Signal.interrupts_eq_true_iff]
            rintro ⟨moment, hat, hlt | ⟨-, htie⟩⟩
            · have hle := h moment hat
              rw [FetchStep.duration] at hle
              omega
            · cases htie
          rw [List.cons_append, follow, hover, if_neg Bool.false_ne_true]
          exact ih (time + duration) around h
      | overrides file => exact ih time (actOn around (.overrides file)) h
      | failing domain fail => exact ih time (actOn around (.failing domain fail)) h

section

variable {s : WatchSetup} {p p' : Standing} {fetch : Fetch} {fetches rest : List Fetch}
  {trace : Trace} {signal : Signal} {moment : Nat}

/-- A fetch that is over when the signal comes. -/
theorem follow_met (h : ∀ moment ∈ signal.at?, p.due fetch ≤ moment) :
    follow signal true p.time p.around fetch.steps = (p.due fetch, p.met fetch, false) := by
  have hall := follow_append p.time p.around fetch.steps [] h
  rw [List.append_nil] at hall
  exact hall

/-- A fetch that begins not later than the signal is begun before it. -/
theorem begins_signalled (s : WatchSetup) (moment? : Option Nat) (n : Nat) :
    (signal.givenBy p.time && !(s.signalled moment?).ties n) = false := Bool.and_false _

/-- With the signal after it, a trip is the one without the signal. -/
theorem runAt_trip {moment? : Option Nat} (h : Trip s p fetch trace p') (hp : p.signal = .never)
    (hf : fetch.signals = false) (hlater : ∀ moment ∈ signal.at?, p'.time < moment) :
    (s.signalled moment?).runAt { p with signal } (fetch :: rest)
      = before trace ((s.signalled moment?).runAt { p' with signal } rest) := by
  have hsoon : ∀ moment ∈ signal.at?, p.due fetch < moment := fun moment hat =>
    Nat.lt_of_le_of_lt h.due_le (hlater moment hat)
  have hfollow : follow signal true p.time p.around fetch.steps
      = (p.due fetch, p.met fetch, false) :=
    follow_met fun moment hat => Nat.le_of_lt (hsoon moment hat)
  rw [runAt, runFrom]
  simp only [begins_signalled]
  simp only [signalled, hfollow, hf, Bool.false_and, Bool.false_eq_true, if_false]
  rcases h.cases_of_never hp hf with ⟨error, hend, rfl, rfl⟩ | ⟨snapshot, hend, rfl, rfl⟩
  · have hpause : signal.interrupts (p.due fetch + s.backoff) true = false := by
      rw [← Bool.not_eq_true, Signal.interrupts_eq_true_iff]
      rintro ⟨moment, hat, hlt | ⟨-, htie⟩⟩
      · -- the trip ends with the pause
        have hpassed : p.due fetch + s.backoff < moment := hlater moment hat
        omega
      · cases htie
    simp only [hend, hpause, Bool.false_eq_true, if_false, List.append_nil]
    rfl
  · have hgiven : signal.givenBy (p.due fetch) = false := Signal.givenBy_eq_false_iff.mpr hsoon
    have hcourse : cycleCourse signal (p.due fetch) (p.cycleDone fetch s snapshot)
        = (cycleTrace (p.due fetch) (p.cycleDone fetch s snapshot), signal) :=
      cycleCourse_of_later hlater
    simp only [hend, hgiven, Bool.false_eq_true, if_false, List.append_nil]
    show before (p.begun ++ (cycleCourse signal (p.due fetch) (p.cycleDone fetch s snapshot)).1)
      ((s.signalled moment?).runFrom (p.number + 1)
        (cycleCourse signal (p.due fetch) (p.cycleDone fetch s snapshot)).2 _ _ _ rest) = _
    rw [hcourse]
    rfl

/-- With the signal after them, so are several trips. -/
theorem runAt_trips (moment? : Option Nat) (rest : List Fetch) (h : Trips s p fetches trace p')
    (hp : p.signal = .never) (hf : ∀ fetch ∈ fetches, fetch.signals = false)
    (hlater : ∀ moment ∈ signal.at?, p'.time < moment) :
    (s.signalled moment?).runAt { p with signal } (fetches ++ rest)
      = before trace ((s.signalled moment?).runAt { p' with signal } rest) := by
  induction h with
  | none p => rfl
  | @more p p₁ p₂ fetch fetches trace trace' htrip htrips ih =>
      obtain ⟨hfirst, hrest⟩ := List.forall_mem_cons.mp hf
      have hsoon : ∀ moment ∈ signal.at?, p₁.time < moment := fun moment hat =>
        Nat.lt_of_le_of_lt htrips.time_le (hlater moment hat)
      rw [List.cons_append, runAt_trip htrip hp hfirst hsoon,
        ih (htrip.signal_eq_never hp hfirst) hrest hlater, before_before]

/-! ## What the loop does with the signal -/

/-- The signal interrupts a fetch in one of its waits. -/
theorem runAt_interrupted {taken steps : List FetchStep} {duration : Nat}
    (hsteps : fetch.steps = taken ++ .wait duration :: steps)
    (hle : p.time + FetchStep.durations taken ≤ moment)
    (hlt : moment < p.time + FetchStep.durations taken + duration) :
    (s.signalled (some moment)).runAt { p with signal := ⟨some moment, false⟩ } (fetch :: rest)
      = before p.begun (stop ⟨some moment, false⟩ moment p.state (p.around.after taken)) := by
  have hinterrupts : (⟨some moment, false⟩ : Signal).interrupts
      (p.time + FetchStep.durations taken + duration) true = true :=
    Signal.interrupts_eq_true_iff.mpr ⟨moment, rfl, .inl hlt⟩
  have hmoment : (⟨some moment, false⟩ : Signal).momentFrom (p.time + FetchStep.durations taken)
      = moment := (Signal.momentFrom_eq rfl).trans (Nat.max_eq_right hle)
  have hfollow : follow ⟨some moment, false⟩ true p.time p.around fetch.steps
      = (moment, p.around.after taken, true) := by
    have hover : ∀ m ∈ (⟨some moment, false⟩ : Signal).at?,
        p.time + FetchStep.durations taken ≤ m := fun m hm => Option.some.inj hm ▸ hle
    rw [hsteps, follow_append p.time p.around taken _ hover, follow, if_pos hinterrupts, hmoment]
  rw [runAt, runFrom]
  simp only [begins_signalled]
  simp only [signalled, hfollow, Bool.false_eq_true, if_false, if_true]
  rfl

/-- The signal comes while a fetch hangs. -/
theorem runAt_hanging (hf : fetch.signals = false) (hend : fetch.ending = .hang)
    (hle : p.due fetch ≤ moment) :
    (s.signalled (some moment)).runAt { p with signal := ⟨some moment, false⟩ } (fetch :: rest)
      = before p.begun (stop ⟨some moment, false⟩ moment p.state (p.met fetch)) := by
  have hfollow : follow ⟨some moment, false⟩ true p.time p.around fetch.steps
      = (p.due fetch, p.met fetch, false) := follow_met fun m hm => Option.some.inj hm ▸ hle
  have hmoment : (⟨some moment, false⟩ : Signal).momentFrom (p.due fetch) = moment :=
    (Signal.momentFrom_eq rfl).trans (Nat.max_eq_right hle)
  rw [runAt, runFrom]
  simp only [begins_signalled]
  simp only [signalled, hfollow, hf, hend, hmoment, Bool.false_and, Bool.false_eq_true, if_false,
    List.append_nil]
  rfl

/-- The signal interrupts the pause after a failed fetch. -/
theorem runAt_pausing (hf : fetch.signals = false) {error : FetchError}
    (hend : fetch.ending = .failure error) (hle : p.due fetch ≤ moment)
    (hlt : moment < p.due fetch + s.backoff) :
    (s.signalled (some moment)).runAt { p with signal := ⟨some moment, false⟩ } (fetch :: rest)
      = before (p.begun ++ eventsAt (p.due fetch) (p.state.fetchFailed error).2)
        (stop ⟨some moment, false⟩ moment (p.state.fetchFailed error).1 (p.met fetch)) := by
  have hfollow : follow ⟨some moment, false⟩ true p.time p.around fetch.steps
      = (p.due fetch, p.met fetch, false) := follow_met fun m hm => Option.some.inj hm ▸ hle
  have hmoment : (⟨some moment, false⟩ : Signal).momentFrom (p.due fetch) = moment :=
    (Signal.momentFrom_eq rfl).trans (Nat.max_eq_right hle)
  have hinterrupts : (⟨some moment, false⟩ : Signal).interrupts (p.due fetch + s.backoff) true
      = true := Signal.interrupts_eq_true_iff.mpr ⟨moment, rfl, .inl hlt⟩
  rw [runAt, runFrom]
  simp only [begins_signalled]
  simp only [signalled, hfollow, hf, hend, hmoment, hinterrupts, Bool.false_and,
    Bool.false_eq_true, if_false, if_true, List.append_nil]
  rfl

/-! ## What the loop does without a signal before it -/

theorem follow_of_never (fetch : Fetch) (hp : p.signal = .never) :
    follow p.signal true p.time p.around fetch.steps = (p.due fetch, p.met fetch, false) := by
  refine follow_met fun m hm => ?_
  rw [hp] at hm
  cases hm

/-- A fetch breaks off in a panic. -/
theorem runAt_panicked (moment? : Option Nat) (rest : List Fetch) (hp : p.signal = .never)
    (hf : fetch.signals = false) {message : String} (hend : fetch.ending = .panic message) :
    (s.signalled moment?).runAt p (fetch :: rest)
      = ⟨p.begun, .panicked message, p.due fetch, p.state.stats, p.met fetch⟩ := by
  have hfollow := follow_of_never fetch hp
  rw [runAt, runFrom]
  simp only [begins_signalled]
  simp only [signalled, hfollow, hf, hend, Bool.false_and, Bool.false_eq_true, if_false,
    List.append_nil]
  rfl

/-- A fetch gives the signal itself, and never ends. -/
theorem runAt_givesAndHangs (moment? : Option Nat) (rest : List Fetch) (hp : p.signal = .never)
    (hf : fetch.signals = true) (hend : fetch.ending = .hang) :
    (s.signalled moment?).runAt p (fetch :: rest)
      = before p.begun (stop ⟨some (p.due fetch), false⟩ (p.due fetch) p.state (p.met fetch)) := by
  have hfollow := follow_of_never fetch hp
  have hheard : (if (fetch.signals && !p.signal.givenBy (p.due fetch)) = true then
      (p.signal.marks (p.due fetch), { p.signal.give (p.due fetch) with shown := true })
      else ([], p.signal)) = ([(p.due fetch, .signal)], ⟨some (p.due fetch), true⟩) :=
    Standing.heard_of_never hp hf
  rw [runAt, runFrom]
  simp only [begins_signalled]
  simp only [signalled, hfollow, hheard, hend, Signal.momentFrom, Option.getD_some, Nat.max_self,
    Bool.false_eq_true, if_false]
  rw [← before_before]
  rfl

/-- A fetch gives the signal itself, and fails. -/
theorem runAt_givesAndFails (moment? : Option Nat) (rest : List Fetch) (hp : p.signal = .never)
    (hf : fetch.signals = true) (hb : 0 < s.backoff) {error : FetchError}
    (hend : fetch.ending = .failure error) :
    (s.signalled moment?).runAt p (fetch :: rest)
      = before (p.begun ++ eventsAt (p.due fetch) (p.state.fetchFailed error).2)
        (stop ⟨some (p.due fetch), false⟩ (p.due fetch) (p.state.fetchFailed error).1
          (p.met fetch)) := by
  have hfollow := follow_of_never fetch hp
  have hheard : (if (fetch.signals && !p.signal.givenBy (p.due fetch)) = true then
      (p.signal.marks (p.due fetch), { p.signal.give (p.due fetch) with shown := true })
      else ([], p.signal)) = ([(p.due fetch, .signal)], ⟨some (p.due fetch), true⟩) :=
    Standing.heard_of_never hp hf
  have hinterrupts : (⟨some (p.due fetch), true⟩ : Signal).interrupts (p.due fetch + s.backoff) true
      = true := Signal.interrupts_eq_true_iff.mpr ⟨p.due fetch, rfl, .inl (by omega)⟩
  rw [runAt, runFrom]
  simp only [begins_signalled]
  simp only [signalled, hfollow, hheard, hend, hinterrupts, Signal.momentFrom, Option.getD_some,
    Nat.max_self, Bool.false_eq_true, if_false, if_true]
  rw [← before_before]
  rfl

end

/-! ## The run with a late signal -/

/-- The run `r` of the loop to which the signal is given at `moment`, in the fetch that begins at
`begun` or in the pause after it. The trips up to that fetch are made without the signal. -/
def SignalledAfter (s : WatchSetup) (around : Surroundings) (fetches : List Fetch)
    (begun moment : Nat) (r : Run) : Prop :=
  ∃ passed rest trace p, fetches = passed ++ rest
    ∧ Trips (s.signalled (some moment)) (.fresh around) passed trace p
    ∧ p.time = begun ∧ begun ≤ moment
    ∧ r = before (eventsAt 0 [s.startEvent] ++ trace)
      ((s.signalled (some moment)).runAt { p with signal := ⟨some moment, false⟩ } rest)

/-- **Given after the fetch was begun, the signal may as well be given by the setup.** -/
theorem SignalledAfter.eq_run {s : WatchSetup} {around : Surroundings} {fetches : List Fetch}
    {begun moment : Nat} {r : Run} (h : s.SignalledAfter around fetches begun moment r)
    (hf : ∀ fetch ∈ fetches, fetch.signals = false) (hlt : begun < moment) :
    r = (s.signalled (some moment)).run around fetches := by
  obtain ⟨passed, rest, trace, p, rfl, htrips, rfl, -, rfl⟩ := h
  have hpassed : ∀ fetch ∈ passed, fetch.signals = false :=
    fun fetch hmem => hf fetch (List.mem_append_left rest hmem)
  have hlater : ∀ m ∈ (⟨some moment, false⟩ : Signal).at?, p.time < m :=
    fun m hm => Option.some.inj hm ▸ hlt
  have hrun := runAt_trips (some moment) rest htrips rfl hpassed hlater
  have hinitial : (s.signalled (some moment)).initial around
      = { Standing.fresh around with signal := ⟨some moment, false⟩ } := rfl
  rw [run_eq, hinitial, ← before_before]
  exact congrArg (before (eventsAt 0 [s.startEvent])) hrun.symm

end WatchSetup

end HostAgent
