import HostAgent.Proofs.Dispatch.Contract
import HostAgent.Proofs.Dispatch.Log
import Mathlib.Algebra.Ring.Nat

set_option autoImplicit false

/-! # The time of a dispatch

The tasks of a cycle wait side by side. A `Timetable` is an order of their turns in virtual time:
a task asks its questions at once, and an application takes effect when its delay is over. The
task of a domain then ends at `Domain.finish`, which is its delay if the domain is applied and the
start of the dispatch otherwise (`Cycle.exists_ended_at`).

The tasks are waited for one after another, and the outcome of each is taken into the report when
it has ended and those before it have been taken (`Dispatched.reportTimes`). Waiting for one task
uses up the waiting for all others that end in the meantime, so the time of the whole dispatch is
the longest delay and not the sum of the delays (`elapsed_eq_slowest_application`).
-/

namespace HostAgent

variable {S H : Type}

/-! ## Timetables -/

/-- An order of turns in virtual time. Only the turns that a task needs are bound to their times;
turns of a task that has ended may come at any time. -/
structure Timetable (domains : List (Domain H)) where
  turns : List Turn
  /-- Two questions at once, and the application after the delay. -/
  onTime : ∀ (i : Nat) (d : Domain H), domains[i]? = some d →
    ((turns.filter (·.task == i)).map (·.time)).take d.steps = [0, 0, d.delay].take d.steps

/-- No task of a timetable is left behind. -/
def Timetable.interleaving {domains : List (Domain H)} (table : Timetable domains) :
    Interleaving domains where
  turns := table.turns
  enough i d h := by
    have hlength := congrArg List.length (table.onTime i d h)
    have hsteps := d.steps_le
    rw [List.length_take, List.length_take, List.length_map] at hlength
    simp only [List.length_cons, List.length_nil] at hlength
    rw [List.countP_eq_length_filter]
    omega

theorem map_filter_eq_flatMap {α β : Type} (p : α → Bool) (f : α → β) (l : List α) :
    (l.filter p).map f = l.flatMap fun a => if p a then [f a] else [] := by
  induction l with
  | nil => rfl
  | cons a l ih =>
      rw [List.filter_cons, List.flatMap_cons, ← ih]
      split
      · rw [List.map_cons, List.singleton_append]
      · rw [List.nil_append]

/-- Of turns that are listed domain by domain, a task gets those of its own domain. -/
theorem filter_flatMap_mapIdx {domains : List (Domain H)} (turnsOf : Nat × Nat → List Turn)
    (hown : ∀ entry, ∀ turn ∈ turnsOf entry, turn.task = entry.1) {i : Nat} {d : Domain H}
    (h : domains[i]? = some d) :
    ((domains.mapIdx fun j domain => (j, domain.delay)).flatMap turnsOf).filter (·.task == i)
      = turnsOf (i, d.delay) := by
  have hself : (turnsOf (i, d.delay)).filter (·.task == i) = turnsOf (i, d.delay) := by
    refine List.filter_eq_self.mpr fun turn hturn => ?_
    rw [hown _ turn hturn]
    exact beq_self_eq_true i
  have hother : ∀ j delay, j ≠ i → (turnsOf (j, delay)).filter (·.task == i) = [] := by
    intro j delay hj
    refine List.filter_eq_nil_iff.mpr fun turn hturn => ?_
    rw [hown _ turn hturn]
    simpa using hj
  obtain ⟨hlt, heq⟩ := List.getElem?_eq_some_iff.mp h
  have hsplit : domains = domains.take i ++ d :: domains.drop (i + 1) := by
    rw [← heq, List.getElem_cons_drop hlt, List.take_append_drop]
  have hlength : (domains.take i).length = i := List.length_take_of_le (Nat.le_of_lt hlt)
  have hbefore : ((domains.take i).mapIdx fun j domain => (j, domain.delay)).flatMap
      (fun entry => (turnsOf entry).filter (·.task == i)) = [] := by
    refine List.flatMap_eq_nil_iff.mpr fun entry hentry => ?_
    obtain ⟨j, hj, rfl⟩ := List.mem_mapIdx.mp hentry
    exact hother j _ (by omega)
  have hafter : ((domains.drop (i + 1)).mapIdx
      fun j domain => (j + 1 + i, domain.delay)).flatMap
      (fun entry => (turnsOf entry).filter (·.task == i)) = [] := by
    refine List.flatMap_eq_nil_iff.mpr fun entry hentry => ?_
    obtain ⟨j, -, rfl⟩ := List.mem_mapIdx.mp hentry
    exact hother (j + 1 + i) _ (by omega)
  rw [hsplit, List.mapIdx_append, List.mapIdx_cons, hlength, List.filter_flatMap,
    List.flatMap_append, List.flatMap_cons, Nat.zero_add, hself, hbefore, hafter,
    List.nil_append, List.append_nil]

/-- The later turns of a schedule hold one turn at most for each task. -/
theorem filter_later {domains : List (Domain H)} {i : Nat} {d : Domain H}
    (h : domains[i]? = some d) :
    (((domains.mapIdx fun j domain => (j, domain.delay)).filter fun entry => entry.2 ≠ 0).map
      fun (j, delay) => Turn.mk delay j).filter (·.task == i)
      = if d.delay = 0 then [] else [⟨d.delay, i⟩] := by
  rw [map_filter_eq_flatMap, filter_flatMap_mapIdx _ _ h]
  · by_cases hzero : d.delay = 0
    · simp [hzero]
    · simp [hzero]
  · intro entry turn hturn
    split at hturn
    · rw [List.mem_singleton.mp hturn]
    · cases hturn

/-- The times of a task's turns in the schedule. -/
theorem map_time_schedule {domains : List (Domain H)} {i : Nat} {d : Domain H}
    (h : domains[i]? = some d) :
    ((schedule domains).filter (·.task == i)).map (·.time) = [0, 0, d.delay] := by
  have hnow := filter_flatMap_mapIdx
    (fun (j, delay) => List.replicate (if delay = 0 then 3 else 2) ⟨0, j⟩)
    (fun _ turn hturn => congrArg Turn.task (List.eq_of_mem_replicate hturn)) h
  have hlater := filter_later h
  have hperm := perm_foldl_insertTurn (((domains.mapIdx fun j domain =>
    (j, domain.delay)).filter fun entry => entry.2 ≠ 0).map
      fun (j, delay) => Turn.mk delay j) []
  rw [List.append_nil] at hperm
  have hordered := hperm.filter (·.task == i)
  rw [schedule, List.filter_append, hnow]
  -- putting the later turns in order moves no turn of a task past another one of it
  by_cases hzero : d.delay = 0
  · rw [hlater, if_pos hzero] at hordered
    rw [hordered.eq_nil, hzero]
    rfl
  · rw [hlater, if_neg hzero] at hordered
    rw [List.perm_singleton.mp hordered]
    simp only [hzero, if_false]
    rfl

/-- The schedule is a timetable. -/
def Timetable.scheduled (domains : List (Domain H)) : Timetable domains where
  turns := schedule domains
  onTime _ d h := congrArg (List.take d.steps) (map_time_schedule h)

/-! ## The end of a task -/

namespace Domain

theorem attempts_iff (d : Domain H) :
    d.attempts = true ↔ d.disabled = .ok false ∧ d.diff = .ok true := by
  have hanswers : ∀ (b : Bool) (r : Except String Bool), answers b r = true ↔ r = .ok b := by
    intro b r
    cases r <;> simp [answers]
  rw [attempts, Bool.and_eq_true, hanswers, hanswers]

/-- The time at which the task of a domain ends. -/
def finish (d : Domain H) : Nat := if d.attempts then d.delay else 0

/-- The last of the turns that a task needs comes when the domain has finished. -/
theorem getElem?_steps_sub_one (d : Domain H) : [0, 0, d.delay][d.steps - 1]? = some d.finish := by
  cases hasks : answers false d.disabled with
  | false => simp [steps, finish, attempts, hasks]
  | true =>
      cases hchanges : answers true d.diff with
      | false => simp [steps, finish, attempts, hasks, hchanges]
      | true => simp [steps, finish, attempts, hasks, hchanges]

end Domain

namespace Task

/-- The time at which a task ends if its next turns come at the given times. -/
def endsAt? (t : Task H) (times : List Nat) : Option Nat :=
  match t.stage with
  | .ended _ time => some time
  | _ => times[t.remaining - 1]?

/-- A move uses up the first of these times. -/
theorem Move.endsAt?_eq {time : Nat} {t t' : Task H} {s s' : Shared H} (h : Move time t s t' s')
    (ht : t.Regular) (times : List Nat) : t'.endsAt? times = t.endsAt? (time :: times) := by
  cases h with
  | disabledPanics hd => simp [endsAt?, remaining, Domain.steps, Domain.attempts, answers, hd]
  | disabled hd => simp [endsAt?, remaining, Domain.steps, Domain.attempts, answers, hd]
  | @admitted n d c s hd =>
      have hnext : (time :: times)[1 + d.attempts.toNat]? = times[d.attempts.toNat]? := by
        rw [Nat.add_comm, List.getElem?_cons_succ]
      simp [endsAt?, remaining, Domain.steps, answers, hd, hnext]
  | diffPanics hc => simp [endsAt?, remaining, Domain.attempts, answers, hc]
  | unchanged hc => simp [endsAt?, remaining, Domain.attempts, answers, hc]
  | applying hc =>
      obtain ⟨hd, -⟩ := ht
      simp only at hd
      simp [endsAt?, remaining, Domain.attempts, answers, hc, hd]
  | applied | failed | setPanics | idle => rfl

/-- A task that has ended ends at no other time. -/
theorem stage_of_endsAt? {t : Task H} {time : Nat} (h : t.endsAt? [] = some time) :
    ∃ outcome, t.stage = .ended outcome time := by
  obtain ⟨number, domain, stage, calls⟩ := t
  cases stage with
  | ready | admitted | applying => cases h
  | ended outcome ended =>
      obtain rfl : ended = time := Option.some.inj h
      exact ⟨outcome, rfl⟩

end Task

namespace Cycle

/-- **When a task ends depends on the times of its own turns alone.** -/
theorem endsAt?_run (c : Cycle H) (turns : List Turn) {i : Nat} {t t' : Task H}
    (h : c.tasks[i]? = some t) (ht : t.Regular) (h' : (c.run turns).tasks[i]? = some t') :
    t'.endsAt? [] = t.endsAt? ((turns.filter (·.task == i)).map (·.time)) := by
  induction turns generalizing c t with
  | nil =>
      obtain rfl : t = t' := Option.some.inj (h.symm.trans h')
      rfl
  | cons turn turns ih =>
      have hstep := getElem?_tasks_step c turn i
      rw [h, Option.map_some] at hstep
      by_cases hi : turn.task = i
      · rw [if_pos hi] at hstep
        have hm := Task.move_step turn.time t c.shared
        rw [ih (c.step turn) hstep (hm.regular ht) h', hm.endsAt?_eq ht,
          List.filter_cons_of_pos (by simpa using hi), List.map_cons]
      · rw [if_neg hi] at hstep
        rw [ih (c.step turn) hstep ht h', List.filter_cons_of_neg (by simpa using hi)]

/-- **By a timetable every task ends when its domain has finished.** -/
theorem exists_ended_at {domains : List (Domain H)} (table : Timetable domains) (host : H)
    (status : Dict Bool) (numbers : Nat → Nat) {i : Nat} {d : Domain H} (h : domains[i]? = some d) :
    ∃ t outcome, ((start domains host status numbers).run table.turns).tasks[i]? = some t
      ∧ t.domain = d ∧ t.stage = .ended outcome d.finish := by
  obtain ⟨t, ht, hd, -⟩ := exists_ended domains host status numbers table.interleaving h
  have hstart := getElem?_tasks_start domains host status numbers i
  rw [h, Option.map_some] at hstart
  have hends := endsAt?_run (start domains host status numbers) table.turns hstart rfl ht
  have htimes : ((table.turns.filter (·.task == i)).map (·.time))[d.steps - 1]?
      = some d.finish := by
    have hlast : d.steps - 1 < d.steps := Nat.sub_one_lt (Nat.ne_of_gt d.steps_pos)
    rw [← d.getElem?_steps_sub_one, ← List.getElem?_take_of_lt hlast, table.onTime i d h,
      List.getElem?_take_of_lt hlast]
  obtain ⟨outcome, hstage⟩ := Task.stage_of_endsAt? (hends.trans htimes)
  exact ⟨t, outcome, ht, hd, hstage⟩

/-- The times at which the tasks of a timetable end. -/
theorem map_endTime_run {domains : List (Domain H)} (table : Timetable domains) (host : H)
    (status : Dict Bool) (numbers : Nat → Nat) :
    ((start domains host status numbers).run table.turns).tasks.map (·.endTime)
      = domains.map Domain.finish := by
  refine List.ext_getElem? fun i => ?_
  rw [List.getElem?_map, List.getElem?_map]
  cases hd : domains[i]? with
  | some d =>
      obtain ⟨t, outcome, ht, -, hstage⟩ := exists_ended_at table host status numbers hd
      rw [ht, Option.map_some, Option.map_some, Task.endTime, hstage]
  | none =>
      rw [List.getElem?_eq_none_iff] at hd
      rw [List.getElem?_eq_none_iff.mpr (by simpa [start] using hd)]
      rfl

end Cycle

/-! ## Waiting for one task after another -/

namespace Dispatched

/-- The times at which the outcomes of tasks are taken into the report by one who waits for the
tasks one after another from time `now`. -/
def reportTimes (now : Nat) : List (Task H) → List Nat
  | [] => []
  | t :: rest => max now t.endTime :: reportTimes (max now t.endTime) rest

/-- The notice of a panic when its outcome is taken into the report. -/
def panicNotice? (t : Task H) (time : Nat) : Option Timed :=
  match t.outcome? with
  | some (.panicked text) => some (time, panicEvent t.domain.name text)
  | _ => none

/-- Panics are noticed when their outcomes are taken into the report, and the dispatch returns
when all outcomes have been taken. -/
theorem join_eq (now : Nat) (tasks : List (Task H)) :
    join now tasks = ((tasks.zip (reportTimes now tasks)).filterMap fun e => panicNotice? e.1 e.2,
      (tasks.map (·.endTime)).foldl max now) := by
  induction tasks generalizing now with
  | nil => rfl
  | cons t rest ih =>
      rw [join, ih, reportTimes, List.zip_cons_cons, List.filterMap_cons, panicNotice?,
        List.map_cons, List.foldl_cons]
      cases t.outcome? with
      | none => rfl
      | some outcome => cases outcome <;> rfl

theorem le_foldl_max (now : Nat) (times : List Nat) : now ≤ times.foldl max now := by
  rw [List.foldl_max]
  exact Nat.le_max_left _ _

/-- An outcome is taken when its task has ended, and before the dispatch returns. -/
theorem exists_getElem?_reportTimes (now : Nat) {tasks : List (Task H)} {i : Nat} {t : Task H}
    (h : tasks[i]? = some t) :
    ∃ time, (reportTimes now tasks)[i]? = some time ∧ t.endTime ≤ time
      ∧ time ≤ (tasks.map (·.endTime)).foldl max now := by
  induction tasks generalizing now i with
  | nil => cases h
  | cons u rest ih =>
      cases i with
      | zero =>
          obtain rfl : u = t := Option.some.inj h
          exact ⟨_, rfl, Nat.le_max_right _ _, le_foldl_max _ _⟩
      | succ i => exact ih (max now u.endTime) h

end Dispatched

/-! ## The longest of several times -/

theorem getD_max?_cons (time : Nat) (times : List Nat) :
    (time :: times).max?.getD 0 = max time (times.max?.getD 0) := by
  rw [List.max?_cons, Option.getD_some]
  cases times.max? with
  | none => exact (Nat.max_zero time).symm
  | some m => rfl

theorem foldl_max_zero (times : List Nat) : times.foldl max 0 = times.max?.getD 0 := by
  rw [List.foldl_max, Nat.zero_max]

theorem max?_le_sum (times : List Nat) : times.max?.getD 0 ≤ times.sum := by
  induction times with
  | nil => exact Nat.le_refl 0
  | cons time times ih =>
      rw [getD_max?_cons, List.sum_cons]
      omega

theorem le_max?_of_getElem? {times : List Nat} {i time : Nat} (h : times[i]? = some time) :
    time ≤ times.max?.getD 0 := by
  induction times generalizing i with
  | nil => cases h
  | cons a times ih =>
      rw [getD_max?_cons]
      cases i with
      | zero =>
          obtain rfl : a = time := Option.some.inj h
          exact Nat.le_max_left _ _
      | succ i => exact Nat.le_trans (ih h) (Nat.le_max_right _ _)

/-- The longest of several times is less than their sum if two of them are positive. -/
theorem max?_lt_sum {times : List Nat} {i j a b : Nat} (hne : i ≠ j) (hi : times[i]? = some a)
    (hj : times[j]? = some b) (ha : 0 < a) (hb : 0 < b) : times.max?.getD 0 < times.sum := by
  induction times generalizing i j with
  | nil => cases hi
  | cons time times ih =>
      have hrest := max?_le_sum times
      rw [getD_max?_cons, List.sum_cons]
      cases i with
      | zero =>
          obtain rfl : time = a := Option.some.inj hi
          cases j with
          | zero => exact absurd rfl hne
          | succ j =>
              have hother : times[j]? = some b := hj
              have hle := le_max?_of_getElem? hother
              omega
      | succ i =>
          cases j with
          | zero =>
              obtain rfl : time = b := Option.some.inj hj
              have hother : times[i]? = some a := hi
              have hle := le_max?_of_getElem? hother
              omega
          | succ j =>
              have hless := ih (i := i) (j := j) (fun h => hne (congrArg (· + 1) h)) hi hj
              omega

/-! ## The longest delay -/

/-- The delays of the domains that are applied. -/
def delays (domains : List (Domain H)) : List Nat := (domains.filter (·.attempts)).map (·.delay)

theorem delays_cons (d : Domain H) (domains : List (Domain H)) :
    delays (d :: domains) = if d.attempts then d.delay :: delays domains else delays domains := by
  rw [delays, List.filter_cons]
  split
  · rfl
  · rfl

/-- Domains that are not applied add nothing to the waiting. -/
theorem max?_map_finish (domains : List (Domain H)) :
    (domains.map Domain.finish).max?.getD 0 = (delays domains).max?.getD 0 := by
  induction domains with
  | nil => rfl
  | cons d domains ih =>
      rw [List.map_cons, getD_max?_cons, ih, Domain.finish, delays_cons]
      cases d.attempts with
      | true => exact (getD_max?_cons _ _).symm
      | false => exact Nat.zero_max _

theorem sum_map_finish (domains : List (Domain H)) :
    (domains.map Domain.finish).sum = (delays domains).sum := by
  induction domains with
  | nil => rfl
  | cons d domains ih =>
      rw [List.map_cons, List.sum_cons, ih, Domain.finish, delays_cons]
      cases d.attempts with
      | true => rfl
      | false => exact Nat.zero_add _

theorem max?_delays_congr {domains others : List (Domain H)}
    (h : (others.filter (·.attempts)).Perm (domains.filter (·.attempts))) :
    (delays others).max?.getD 0 = (delays domains).max?.getD 0 := by
  rw [← foldl_max_zero, ← foldl_max_zero]
  refine (h.map _).foldl_eq' (fun a _ b _ now => ?_) 0
  exact Nat.max_right_comm now a b

theorem Domain.set_calls_pos_iff (d : Domain H) : 0 < d.calls.set ↔ d.attempts = true := by
  show 0 < d.attempts.toNat ↔ _
  cases d.attempts <;> simp

/-- The delays of the domains whose `set` was called in a dispatch. -/
def Dispatched.invokedDelays (done : Dispatched H) (domains : List (Domain H)) : List Nat :=
  ((domains.zip done.calls).filter fun entry => 0 < entry.2.set).map fun entry => entry.1.delay

theorem filter_zip_calls (domains : List (Domain H)) :
    ((domains.zip (domains.map Domain.calls)).filter fun entry => 0 < entry.2.set).map
      (fun entry => entry.1.delay) = delays domains := by
  induction domains with
  | nil => rfl
  | cons d domains ih =>
      rw [List.map_cons, List.zip_cons_cons, List.filter_cons, delays_cons]
      simp only [decide_eq_true_eq, d.set_calls_pos_iff]
      split
      · rw [List.map_cons, ih]
      · exact ih

namespace Dispatched

variable {domains : List (Domain H)} (table : Timetable domains) (host : H) (status : Dict Bool)
  (numbers : Nat → Nat)

theorem calls_dispatchIn_eq_map :
    (dispatchIn table.turns domains host status numbers).calls = domains.map Domain.calls :=
  calls_eq_map table.interleaving host status numbers

theorem invokedDelays_dispatchIn :
    (dispatchIn table.turns domains host status numbers).invokedDelays domains
        = delays domains := by
  rw [invokedDelays, calls_dispatchIn_eq_map, filter_zip_calls]

/-- **A dispatch takes as long as the longest delay.** -/
theorem elapsed_dispatchIn :
    (dispatchIn table.turns domains host status numbers).elapsed
        = (delays domains).max?.getD 0 := by
  show (join 0 _).2 = _
  rw [join_eq, Cycle.map_endTime_run, foldl_max_zero, max?_map_finish]

/-- The report holds the outcome of each task in its place. -/
theorem getElem?_outcomes {i : Nat} {t : Task H} {outcome : Outcome}
    (ht : ((Cycle.start domains host status numbers).run table.turns).tasks[i]? = some t)
    (ho : t.outcome? = some outcome) :
    (dispatchIn table.turns domains host status numbers).report.outcomes[i]?
      = some (t.domain.name, outcome) := by
  have hi := congrArg (·[i]?) (map_some_outcomes table.interleaving host status numbers)
  have htask : ((Cycle.start domains host status numbers).run table.interleaving.turns).tasks[i]?
      = some t := ht
  simp only [List.getElem?_map, htask, Option.map_some, ho] at hi
  obtain ⟨entry, hentry, heq⟩ := Option.map_eq_some_iff.mp hi
  obtain rfl := Option.some.inj heq
  exact hentry

/-- A panic is in the log of the dispatch at the time when its outcome is taken. -/
theorem panicEvent_mem_log {turns : List Turn} {i time : Nat} {t : Task H} {text : String}
    (ht : ((Cycle.start domains host status numbers).run turns).tasks[i]? = some t)
    (htime : (reportTimes 0 ((Cycle.start domains host status numbers).run turns).tasks)[i]?
        = some time)
    (hpanic : t.outcome? = some (.panicked text)) :
    (time, panicEvent t.domain.name text) ∈ (dispatchIn turns domains host status numbers).log := by
  refine mem_foldl_insertEvent.mpr (.inl ?_)
  rw [join_eq]
  refine List.mem_filterMap.mpr ⟨(t, time), ?_, ?_⟩
  · refine List.mem_of_getElem? (i := i) ?_
    rw [List.getElem?_zip_eq_some]
    exact ⟨ht, htime⟩
  · rw [panicNotice?, hpanic]

end Dispatched

/-- **A dispatch returns when the slowest application ends.** In virtual time, whatever the order
of the turns, it takes the longest delay among the domains whose `set` was called, and no time if
there are none. A domain whose `set` was called ends when its delay is over, however that ends;
the others end at once. No outcome is taken into the report before its domain has ended, and all of
them have been taken when the dispatch returns. The time does not depend on the order of the
registration, on domains that are not applied, or on the order of the turns, and it is less than
the sum of the delays as soon as two of them are positive. -/
theorem elapsed_eq_slowest_application (registry : Registry S H) (inputs : Inputs S)
    (table : Timetable (registry.instantiate inputs)) (host : H) (status : Dict Bool)
    (numbers : Nat → Nat) :
    let domains := registry.instantiate inputs
    let done := dispatchIn table.turns domains host status numbers
    let tasks := ((Cycle.start domains host status numbers).run table.turns).tasks
    done.elapsed = (done.invokedDelays domains).max?.getD 0
      ∧ (dispatch domains host status).elapsed = done.elapsed
      ∧ (∀ (i : Nat) (d : Domain H), domains[i]? = some d →
          ∃ calls outcome finish reported,
            done.calls[i]? = some calls
              ∧ (0 < calls.set ↔ d.disabled = .ok false ∧ d.diff = .ok true)
              ∧ done.report.outcomes[i]? = some (d.name, outcome)
              ∧ (tasks[i]?).map (·.stage) = some (.ended outcome finish)
              ∧ finish = (if 0 < calls.set then d.delay else 0)
              ∧ (Dispatched.reportTimes 0 tasks)[i]? = some reported
              ∧ finish ≤ reported ∧ reported ≤ done.elapsed
              ∧ ∀ text, outcome = .panicked text →
                (reported, Dispatched.panicEvent d.name text) ∈ done.log)
      ∧ (∀ (others : List (Domain H)) (table' : Timetable others) (host' : H)
          (status' : Dict Bool) (numbers' : Nat → Nat),
          (others.filter (·.attempts)).Perm (domains.filter (·.attempts)) →
            (dispatchIn table'.turns others host' status' numbers').elapsed = done.elapsed)
      ∧ (∀ (i j : Nat) (d e : Domain H), i ≠ j → domains[i]? = some d → domains[j]? = some e →
          d.attempts = true → e.attempts = true → 0 < d.delay → 0 < e.delay →
            done.elapsed < (done.invokedDelays domains).sum) := by
  intro domains done tasks
  have helapsed : done.elapsed = (delays domains).max?.getD 0 :=
    Dispatched.elapsed_dispatchIn table host status numbers
  have hinvoked : done.invokedDelays domains = delays domains :=
    Dispatched.invokedDelays_dispatchIn table host status numbers
  refine ⟨by rw [helapsed, hinvoked], ?_, fun i d hd => ?_,
    fun others table' host' status' _ h => ?_,
    fun i j d e hne hd he hdattempts heattempts hdpos hepos => ?_⟩
  · rw [helapsed]
    exact Dispatched.elapsed_dispatchIn (Timetable.scheduled domains) host status _
  · obtain ⟨t, outcome, ht, rfl, hstage⟩ := Cycle.exists_ended_at table host status numbers hd
    have houtcome : t.outcome? = some outcome := by rw [Task.outcome?, hstage]
    have hend : t.endTime = t.domain.finish := by rw [Task.endTime, hstage]
    have hcalls : done.calls[i]? = some t.domain.calls := by
      rw [Dispatched.calls_dispatchIn_eq_map, List.getElem?_map, hd, Option.map_some]
    have hall : (tasks.map (·.endTime)).foldl max 0 = done.elapsed := by
      rw [Cycle.map_endTime_run, foldl_max_zero, max?_map_finish, helapsed]
    obtain ⟨reported, hreported, hafter, hbefore⟩ :=
      Dispatched.exists_getElem?_reportTimes 0 ht
    refine ⟨t.domain.calls, outcome, t.domain.finish, reported, hcalls, ?_,
      Dispatched.getElem?_outcomes table host status numbers ht houtcome, ?_, ?_, hreported,
      hend ▸ hafter, hall ▸ hbefore, fun text hpanic => ?_⟩
    · rw [t.domain.set_calls_pos_iff, t.domain.attempts_iff]
    · rw [ht, Option.map_some, hstage]
    · rw [Domain.finish]
      simp only [t.domain.set_calls_pos_iff]
    · subst hpanic
      exact Dispatched.panicEvent_mem_log host status numbers ht hreported houtcome
  · rw [helapsed, Dispatched.elapsed_dispatchIn]
    exact max?_delays_congr h
  · rw [helapsed, hinvoked, ← max?_map_finish, ← sum_map_finish]
    refine max?_lt_sum hne (a := d.delay) (b := e.delay) ?_ ?_ hdpos hepos
    · rw [List.getElem?_map, hd, Option.map_some, Domain.finish, if_pos hdattempts]
    · rw [List.getElem?_map, he, Option.map_some, Domain.finish, if_pos heattempts]

/-- Four domains: one is refused after a while, one panics after a shorter one, one is applied at
once, and one panics when it is asked whether it is switched off. -/
def slowRegistry : Registry Unit Nat := [
  ⟨"refused", fun _ =>
    ⟨"refused", .ok false, .ok true, 5, fun host => ⟨.refused (.host "busy"), host, []⟩⟩⟩,
  ⟨"crashing", fun _ =>
    ⟨"crashing", .ok false, .ok true, 2, fun host => ⟨.panicked "out of range", host, []⟩⟩⟩,
  ⟨"counter", fun _ =>
    ⟨"counter", .ok false, .ok true, 0, fun host => ⟨.completed, host + 1, []⟩⟩⟩,
  ⟨"broken", fun _ =>
    ⟨"broken", .error "no switch", .ok true, 9, fun host => ⟨.completed, host, []⟩⟩⟩]

/-- These domains take five together and not seven, also in the opposite order, and the panic that
comes after two is noticed after five. -/
theorem elapsed_of_slowRegistry :
    let domains := slowRegistry.instantiate (⟨(), (), ∅, ⟨0, 0⟩⟩ : Inputs Unit)
    let done := dispatch domains 0 ∅
    done.elapsed = 5
      ∧ (dispatch domains.reverse 0 ∅).elapsed = 5
      ∧ done.elapsed < (done.invokedDelays domains).sum
      ∧ ∃ finish reported, finish = 2 ∧ finish ≤ reported ∧ reported ≤ done.elapsed
        ∧ (Dispatched.reportTimes 0 ((Cycle.start domains 0 ∅).run (schedule domains)).tasks)[1]?
          = some reported := by
  intro domains done
  obtain ⟨hmax, -, hdomains, horder, hsum⟩ := elapsed_eq_slowest_application slowRegistry
    ⟨(), (), ∅, ⟨0, 0⟩⟩ (Timetable.scheduled domains) 0 ∅ (· + 1)
  have hfive : done.elapsed = 5 := hmax
  have hreversed : (dispatch domains.reverse 0 ∅).elapsed = done.elapsed :=
    horder domains.reverse (Timetable.scheduled domains.reverse) 0 ∅ (· + 1)
      ((List.reverse_perm domains).filter _)
  have hless : done.elapsed < (done.invokedDelays domains).sum :=
    hsum 0 1 _ _ (by decide) rfl rfl rfl rfl (by decide) (by decide)
  obtain ⟨calls, outcome, finish, reported, -, hset, -, -, hfinish, hreported, hafter, hbefore,
    -⟩ := hdomains 1 _ rfl
  rw [if_pos (hset.mpr ⟨rfl, rfl⟩)] at hfinish
  exact ⟨hfive, hreversed.trans hfive, hless, finish, reported, hfinish, hafter, hbefore, hreported⟩

end HostAgent
