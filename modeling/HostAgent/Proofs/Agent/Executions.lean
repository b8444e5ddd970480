import HostAgent.Proofs.Agent.Way

set_option autoImplicit false

/-! # Executions of the agent

The agent can follow the plain loop all the way: whatever trips the plain loop makes without a
signal, the agent can make as well, its shell waiting meanwhile (`steps_trips`). So every moment at
which the plain loop waits in a fetch or in a pause is one at which the agent can be caught waiting
(`exists_waiting`).
-/

namespace HostAgent.Agent

open WatchSetup

variable {s : WatchSetup} {now later : Nat} {w : WatchState} {a : Surroundings} {fs : List Fetch}
  {course : Trace}

/-- The agent with its shell waiting. -/
def System.waiting (now : Nat) (loop : LoopTask) (course : Trace) : System :=
  ⟨now, .waiting, false, loop, course⟩

theorem Move.step {l l' : LoopTask} {points : Trace} (h : Move s false now l points l') :
    Step s (.waiting now l course) (.waiting now l' (course ++ points)) := .move h

/-- A turn that adds nothing to the course. -/
theorem Move.silentStep {l l' : LoopTask} (h : Move s false now l [] l') :
    Step s (.waiting now l course) (.waiting now l' course) := by
  have hstep : Step s (.waiting now l course) (.waiting now l' (course ++ [])) := h.step
  rw [List.append_nil] at hstep
  exact hstep

/-- Time can pass as long as nothing is due. -/
theorem steps_pass (s : WatchSetup) (l : LoopTask) (course : Trace) (hle : now ≤ later)
    (hidle : l.place.IdleUntil s.backoff false later) :
    Steps s (.waiting now l course) (.waiting later l course) := by
  rcases Nat.lt_or_eq_of_le hle with hlt | rfl
  · exact .single (.pass hlt hidle)
  · exact .refl

/-- The steps of a fetch, one after another. -/
theorem steps_taken (since : Nat) (a : Surroundings) (taken steps : List FetchStep)
    (ending : FetchEnd) (course : Trace) :
    Steps s (.waiting since ⟨.fetching since (taken ++ steps) ending, w, a, fs⟩ course)
      (.waiting (since + FetchStep.durations taken)
        ⟨.fetching (since + FetchStep.durations taken) steps ending, w, a.after taken, fs⟩
        course) := by
  induction taken generalizing since a with
  | nil => exact .refl
  | cons step taken ih =>
      rw [FetchStep.durations, ← Nat.add_assoc]
      cases step with
      | wait duration =>
          have hpass := steps_pass s
            ⟨.fetching since (.wait duration :: (taken ++ steps)) ending, w, a, fs⟩ course
            (Nat.le_add_right since duration) ⟨rfl, Nat.le_refl (since + duration)⟩
          exact (hpass.tail (Move.wakes (Nat.le_refl _)).silentStep).trans
            (ih (since + duration) a)
      | overrides file =>
          exact .head (Move.acts (fun d => by simp)).silentStep
            (ih since (actOn a (.overrides file)))
      | failing domain fail =>
          exact .head (Move.acts (fun d => by simp)).silentStep
            (ih since (actOn a (.failing domain fail)))

/-- The reports of a dispatch, one after another. -/
theorem steps_reported {finish : Nat} {unsaid : Trace} {done : CycleDone} (hle : now ≤ finish) :
    Steps s (.waiting now ⟨.dispatching finish unsaid done, w, a, fs⟩ course)
      (.waiting finish ⟨.dispatching finish [] done, w, a, fs⟩ (course ++ unsaid)) := by
  induction unsaid generalizing now course with
  | nil =>
      rw [List.append_nil]
      exact steps_pass _ _ _ hle ⟨Nat.le_refl finish, fun mark hmark => nomatch hmark⟩
  | cons mark unsaid ih =>
      -- the next report comes when it is due, or with the end of the dispatch
      obtain ⟨soon, hsoon, hidle, hdue⟩ : ∃ soon, now ≤ soon
          ∧ (soon = now ∨ soon ≤ mark.1) ∧ soon ≤ finish ∧ (mark.1 ≤ soon ∨ finish ≤ soon) := by
        by_cases hlate : mark.1 ≤ now ∨ finish ≤ now
        · exact ⟨now, Nat.le_refl now, .inl rfl, hle, hlate⟩
        · refine ⟨min mark.1 finish, ?_, .inr ?_, ?_, ?_⟩ <;> omega
      have hpass : Steps s
          (.waiting now ⟨.dispatching finish (mark :: unsaid) done, w, a, fs⟩ course)
          (.waiting soon ⟨.dispatching finish (mark :: unsaid) done, w, a, fs⟩ course) := by
        rcases hidle with rfl | hmark
        · exact .refl
        · exact steps_pass _ _ _ hsoon ⟨hdue.1, fun m hm => Option.some.inj hm ▸ hmark⟩
      have hrest : Steps s (.waiting soon ⟨.dispatching finish unsaid done, w, a, fs⟩
          (course ++ [mark])) _ := ih hdue.1
      rw [List.append_assoc, List.singleton_append] at hrest
      exact (hpass.tail (Move.reports hdue.2).step).trans hrest

/-! ## Trips -/

section

variable {p p' : Standing} {fetch : Fetch} {fetches rest : List Fetch} {trace : Trace}

/-- A fetch up to the end of its steps. -/
theorem steps_due (p : Standing) (fetch : Fetch) (rest : List Fetch) (course : Trace) :
    Steps s (.waiting p.time ⟨.turning, p.state, p.around, fetch :: rest⟩ course)
      (.waiting (p.due fetch) ⟨.fetching (p.due fetch) [] fetch.ending, p.state, p.met fetch, rest⟩
        (course ++ p.begun)) := by
  have htaken : Steps s
      (.waiting p.time ⟨.fetching p.time (fetch.steps ++ []) fetch.ending, p.state, p.around, rest⟩
        (course ++ p.begun)) _ :=
    steps_taken p.time p.around fetch.steps [] fetch.ending (course ++ p.begun)
  rw [List.append_nil] at htaken
  exact .head Move.begins.step htaken

/-- **The agent can make the trips of the plain loop.** -/
theorem steps_trip (h : Trip s p fetch trace p') (hp : p.signal = .never)
    (hf : fetch.signals = false) :
    Steps s (.waiting p.time ⟨.turning, p.state, p.around, fetch :: rest⟩ course)
      (.waiting p'.time ⟨.turning, p'.state, p'.around, rest⟩ (course ++ trace)) := by
  have hdue := steps_due (s := s) p fetch rest course
  rcases h.cases_of_never hp hf with ⟨error, hend, rfl, rfl⟩ | ⟨snapshot, hend, rfl, rfl⟩
  · rw [hend] at hdue
    have hpause := steps_pass s
      ⟨.pausing (p.due fetch), (p.state.fetchFailed error).1, p.met fetch, rest⟩
      (course ++ p.begun ++ eventsAt (p.due fetch) (p.state.fetchFailed error).2)
      (Nat.le_add_right (p.due fetch) s.backoff) ⟨rfl, Nat.le_refl (p.due fetch + s.backoff)⟩
    rw [← List.append_assoc]
    exact ((hdue.tail Move.fails.step).trans hpause).tail
      (Move.resumes (Nat.le_refl _)).silentStep
  · rw [hend] at hdue
    have hdispatch := hdue.tail (Move.dispatches rfl rfl).silentStep
    have hreported := hdispatch.trans (steps_reported (Nat.le_add_right _ _))
    have hjoined := hreported.tail (Move.joins (Nat.le_refl _)).step
    rw [cycleTrace, ← List.append_assoc, ← List.append_assoc]
    exact hjoined

theorem steps_trips (h : Trips s p fetches trace p') (hp : p.signal = .never)
    (hf : ∀ fetch ∈ fetches, fetch.signals = false) :
    Steps s (.waiting p.time ⟨.turning, p.state, p.around, fetches ++ rest⟩ course)
      (.waiting p'.time ⟨.turning, p'.state, p'.around, rest⟩ (course ++ trace)) := by
  induction h generalizing course with
  | none p =>
      rw [List.append_nil]
      exact .refl
  | more htrip _ ih =>
      obtain ⟨hfirst, hrest⟩ := List.forall_mem_cons.mp hf
      rw [← List.append_assoc]
      exact (steps_trip htrip hp hfirst).trans (ih (htrip.signal_eq_never hp hfirst) hrest)

/-! ## Waits -/

/-- The step of a fetch in which a moment lies. -/
theorem exists_wait {since moment : Nat} {steps : List FetchStep} (hle : since ≤ moment)
    (hlt : moment < since + FetchStep.durations steps) :
    ∃ taken duration later, steps = taken ++ .wait duration :: later
      ∧ since + FetchStep.durations taken ≤ moment
      ∧ moment < since + FetchStep.durations taken + duration := by
  induction steps generalizing since with
  | nil => exact absurd hlt (Nat.not_lt_of_le hle)
  | cons step steps ih =>
      rw [FetchStep.durations, ← Nat.add_assoc] at hlt
      by_cases hnow : moment < since + step.duration
      · cases step with
        | wait duration => exact ⟨[], duration, steps, rfl, hle, hnow⟩
        | overrides | failing => exact absurd hnow (Nat.not_lt_of_le hle)
      · obtain ⟨taken, duration, later, rfl, hle', hlt'⟩ := ih (Nat.le_of_not_lt hnow) hlt
        refine ⟨step :: taken, duration, later, rfl, ?_, ?_⟩
        · rw [FetchStep.durations, ← Nat.add_assoc]
          exact hle'
        · rw [FetchStep.durations, ← Nat.add_assoc]
          exact hlt'

theorem steps_wait {moment : Nat} (rest : List Fetch) (course : Trace)
    (hle : p.time ≤ moment) (h : s.WaitsAt fetch (p.due fetch) moment) :
    ∃ l points, l.place.Waits s.backoff moment ∧ Trace.fetchTimes points = [p.time]
      ∧ Steps s (.waiting p.time ⟨.turning, p.state, p.around, fetch :: rest⟩ course)
        (.waiting moment l (course ++ points)) := by
  have hdue := steps_due (s := s) p fetch rest course
  by_cases hlt : moment < p.due fetch
  · obtain ⟨taken, duration, later, hsteps, hle', hlt'⟩ := exists_wait hle hlt
    have htaken : Steps s
        (.waiting p.time ⟨.fetching p.time (taken ++ .wait duration :: later) fetch.ending, p.state,
          p.around, rest⟩ (course ++ p.begun)) _ :=
      steps_taken p.time p.around taken (.wait duration :: later) fetch.ending (course ++ p.begun)
    rw [← hsteps] at htaken
    have hbegun : Steps s (.waiting p.time ⟨.turning, p.state, p.around, fetch :: rest⟩ course) _ :=
      .head Move.begins.step htaken
    refine ⟨_, p.begun, ?_, Trace.fetchTimes_begun p, hbegun.trans (steps_pass _ _ _ hle' ?_)⟩
    · exact hlt'
    · exact ⟨rfl, Nat.le_of_lt hlt'⟩
  · have hlate : p.due fetch ≤ moment := Nat.le_of_not_lt hlt
    rcases h with hlt' | hend | ⟨⟨error, hend⟩, hlt'⟩
    · exact absurd hlt' hlt
    · rw [hend] at hdue
      exact ⟨⟨.fetching (p.due fetch) [] .hang, p.state, p.met fetch, rest⟩, p.begun, True.intro,
        Trace.fetchTimes_begun p, hdue.trans (steps_pass _ _ _ hlate rfl)⟩
    · rw [hend] at hdue
      have hfailed := hdue.tail Move.fails.step
      rw [List.append_assoc] at hfailed
      refine ⟨_, _, ?_, ?_, hfailed.trans (steps_pass _ _ _ hlate ⟨rfl, Nat.le_of_lt hlt'⟩)⟩
      · exact hlt'
      · rw [Trace.fetchTimes_append, Trace.fetchTimes_begun, Trace.fetchTimes_eventsAt]
        rfl

/-- The agent can come to every standing of the plain loop. -/
theorem reachable_of_trips {around : Surroundings} {passed : List Fetch} (rest : List Fetch)
    (h : Trips s (.fresh around) passed trace p)
    (hf : ∀ fetch ∈ passed, fetch.signals = false) :
    Reachable s around (passed ++ rest) (.waiting p.time ⟨.turning, p.state, p.around, rest⟩
      (eventsAt 0 [startEvent] ++ eventsAt 0 [s.startEvent] ++ trace)) :=
  .head Move.starts.step (steps_trips h rfl hf)

/-- **Wherever the plain loop waits, the agent can be caught waiting.** -/
theorem exists_waiting {around : Surroundings} {passed : List Fetch} {moment : Nat}
    (h : Trips s (.fresh around) passed trace p)
    (hf : ∀ fetch ∈ passed, fetch.signals = false) (hle : p.time ≤ moment)
    (hwaits : s.WaitsAt fetch (p.due fetch) moment) :
    ∃ c, Reachable s around (passed ++ fetch :: rest) c ∧ c.shell = .waiting
      ∧ c.loop.place.Waits s.backoff c.now ∧ c.now = moment
      ∧ Trace.fetchTimes c.course = Trace.fetchTimes trace ++ [p.time] := by
  have htrips := reachable_of_trips (fetch :: rest) h hf
  obtain ⟨l, points, hl, hpoints, hwait⟩ := steps_wait rest
    (eventsAt 0 [startEvent] ++ eventsAt 0 [s.startEvent] ++ trace) hle hwaits
  refine ⟨_, htrips.trans hwait, rfl, hl, rfl, ?_⟩
  show Trace.fetchTimes (_ ++ trace ++ points) = _
  rw [Trace.fetchTimes_append, Trace.fetchTimes_append, hpoints]
  rfl

/-- Where the plain loop panics, the loop of the agent does. -/
theorem exists_panicked {around : Surroundings} {passed : List Fetch} (rest : List Fetch)
    {message : String} (h : Trips s (.fresh around) passed trace p)
    (hf : ∀ fetch ∈ passed, fetch.signals = false) (hend : fetch.ending = .panic message) :
    ∃ c, Reachable s around (passed ++ fetch :: rest) c ∧ c.shell = .waiting
      ∧ c.loop.place = .panicked message ∧ c.now = p.due fetch := by
  have htrips := reachable_of_trips (fetch :: rest) h hf
  have hdue := steps_due (s := s) p fetch rest
    (eventsAt 0 [startEvent] ++ eventsAt 0 [s.startEvent] ++ trace)
  rw [hend] at hdue
  exact ⟨_, (htrips.trans hdue).tail Move.panics.silentStep, rfl, rfl, rfl⟩

end

end HostAgent.Agent
