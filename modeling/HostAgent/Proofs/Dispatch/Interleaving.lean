import HostAgent.Proofs.Dispatch.Behaviour

set_option autoImplicit false

/-! # Interleavings of the tasks of a cycle

The tasks of a cycle take their turns in any order. An `Interleaving` is such an order, the
only condition being that no task is left behind before its end: each gets at least the turns
that its domain needs, `Domain.steps`. Turns of a task that has ended do nothing, so a longer
list of turns is the same run.

What a task has done depends on the number of its own turns alone. `Task.Move` lists the rules
by which a task moves, one for each answer to each call; everything below is read off these
rules. `Task.Regular` says what is true of a task at each of its stages, and `Task.remaining`
counts the turns that it still needs. A move keeps the one and lowers the other by one, and
moves of other tasks touch neither (`Cycle.exists_tasks_run`).
-/

namespace HostAgent

variable {H : Type}

/-- An order in which the tasks of the given domains take turns until all of them have ended. -/
structure Interleaving (domains : List (Domain H)) where
  turns : List Turn
  /-- No task gets fewer turns than it needs. -/
  enough : ∀ (i : Nat) (d : Domain H), domains[i]? = some d →
    d.steps ≤ turns.countP (·.task == i)

/-! ## The moves of a task -/

namespace Task

/-- The moves of a task at the given time, and what each does to the shared state. -/
inductive Move (time : Nat) : Task H → Shared H → Task H → Shared H → Prop
  | disabledPanics {n d c s m} : d.disabled = .error m →
      Move time ⟨n, d, .ready, c⟩ s
        ⟨n, d, .ended (.panicked (panicText n m)) time, ⟨c.disabled + 1, c.diff, c.set⟩⟩ s
  | disabled {n d c s} : d.disabled = .ok true →
      Move time ⟨n, d, .ready, c⟩ s
        ⟨n, d, .ended .disabled time, ⟨c.disabled + 1, c.diff, c.set⟩⟩
        (s.observe time d.name true)
  | admitted {n d c s} : d.disabled = .ok false →
      Move time ⟨n, d, .ready, c⟩ s
        ⟨n, d, .admitted, ⟨c.disabled + 1, c.diff, c.set⟩⟩ (s.observe time d.name false)
  | diffPanics {n d c s m} : d.diff = .error m →
      Move time ⟨n, d, .admitted, c⟩ s
        ⟨n, d, .ended (.panicked (panicText n m)) time, ⟨c.disabled, c.diff + 1, c.set⟩⟩ s
  | unchanged {n d c s} : d.diff = .ok false →
      Move time ⟨n, d, .admitted, c⟩ s
        ⟨n, d, .ended .unchanged time, ⟨c.disabled, c.diff + 1, c.set⟩⟩ s
  | applying {n d c s} : d.diff = .ok true →
      Move time ⟨n, d, .admitted, c⟩ s
        ⟨n, d, .applying, ⟨c.disabled, c.diff + 1, c.set + 1⟩⟩
        (s.report time [startEvent d.name])
  | applied {n d c s} : (d.set s.host).ending = .completed →
      Move time ⟨n, d, .applying, c⟩ s ⟨n, d, .ended .applied time, c⟩
        ({ s with host := (d.set s.host).host }.report time (d.set s.host).log)
  | failed {n d c s e} : (d.set s.host).ending = .refused e →
      Move time ⟨n, d, .applying, c⟩ s ⟨n, d, .ended (.failed e.message) time, c⟩
        (({ s with host := (d.set s.host).host }.report time (d.set s.host).log).report time
          [refusalEvent d.name e])
  | setPanics {n d c s m} : (d.set s.host).ending = .panicked m →
      Move time ⟨n, d, .applying, c⟩ s
        ⟨n, d, .ended (.panicked (panicText n m)) time, c⟩
        ({ s with host := (d.set s.host).host }.report time (d.set s.host).log)
  | idle {n d c s outcome ended} :
      Move time ⟨n, d, .ended outcome ended, c⟩ s ⟨n, d, .ended outcome ended, c⟩ s

/-- A step of a task is one of its moves. -/
theorem move_step (time : Nat) (t : Task H) (s : Shared H) :
    Move time t s (t.step time s).1 (t.step time s).2 := by
  obtain ⟨number, domain, stage, calls⟩ := t
  cases stage with
  | ready =>
      rcases hd : domain.disabled with m | _ | _ <;> simp only [step, hd]
      · exact .disabledPanics hd
      · exact .admitted hd
      · exact .disabled hd
  | admitted =>
      rcases hc : domain.diff with m | _ | _ <;> simp only [step, hc]
      · exact .diffPanics hc
      · exact .unchanged hc
      · exact .applying hc
  | applying =>
      rcases he : (domain.set s.host).ending with _ | e | m <;> simp only [step, he]
      · exact .applied he
      · exact .failed he
      · exact .setPanics he
  | ended outcome ended => exact .idle

/-- What is true of a task at its stage: the calls that were made, and how they ended. -/
def Regular (t : Task H) : Prop :=
  match t.stage with
  | .ready => t.calls = {}
  | .admitted => t.domain.disabled = .ok false ∧ t.calls = ⟨1, 0, 0⟩
  | .applying => t.domain.disabled = .ok false ∧ t.domain.diff = .ok true ∧ t.calls = ⟨1, 1, 1⟩
  | .ended outcome _ => ∃ host,
      outcome = (t.domain.behaviourAt host).outcome t.number
        ∧ t.calls = (t.domain.behaviourAt host).calls

/-- The number of turns that a task still needs. -/
def remaining (t : Task H) : Nat :=
  match t.stage with
  | .ready => t.domain.steps
  | .admitted => 1 + t.domain.attempts.toNat
  | .applying => 1
  | .ended _ _ => 0

namespace Move

variable {time : Nat} {t t' : Task H} {s s' : Shared H}

theorem domain_eq (h : Move time t s t' s') : t'.domain = t.domain := by cases h <;> rfl

theorem number_eq (h : Move time t s t' s') : t'.number = t.number := by cases h <;> rfl

/-- A move keeps a task regular. The host in the table of a task that ends is the one that this
very move finds. -/
theorem regular (h : Move time t s t' s') (ht : t.Regular) : t'.Regular := by
  have ended : ∀ {n d o c} {b : Behaviour}, d.behaviourAt s.host = b → o = b.outcome n →
      c = b.calls → Regular ⟨n, d, .ended o time, c⟩ := by
    rintro n d o c b rfl ho hc
    exact ⟨s.host, ho, hc⟩
  cases h with
  | disabledPanics hd =>
      obtain rfl := ht
      exact ended (by rw [Domain.behaviourAt, hd]) rfl rfl
  | disabled hd =>
      obtain rfl := ht
      exact ended (by rw [Domain.behaviourAt, hd]) rfl rfl
  | admitted hd =>
      obtain rfl := ht
      exact ⟨hd, rfl⟩
  | diffPanics hc =>
      obtain ⟨hd, rfl⟩ := ht
      exact ended (by rw [Domain.behaviourAt, hd, hc]) rfl rfl
  | unchanged hc =>
      obtain ⟨hd, rfl⟩ := ht
      exact ended (by rw [Domain.behaviourAt, hd, hc]) rfl rfl
  | applying hc =>
      obtain ⟨hd, rfl⟩ := ht
      exact ⟨hd, hc, rfl⟩
  | applied he =>
      obtain ⟨hd, hc, rfl⟩ := ht
      exact ended (by rw [Domain.behaviourAt, hd, hc, he]) rfl rfl
  | failed he =>
      obtain ⟨hd, hc, rfl⟩ := ht
      exact ended (by rw [Domain.behaviourAt, hd, hc, he]) rfl rfl
  | setPanics he =>
      obtain ⟨hd, hc, rfl⟩ := ht
      exact ended (by rw [Domain.behaviourAt, hd, hc, he]) rfl rfl
  | idle => exact ht

/-- A move is one of the turns that a task needs. -/
theorem remaining_eq (h : Move time t s t' s') (ht : t.Regular) :
    t'.remaining = t.remaining - 1 := by
  cases h with
  | disabledPanics hd => simp [remaining, Domain.steps, Domain.attempts, answers, hd]
  | disabled hd => simp [remaining, Domain.steps, Domain.attempts, answers, hd]
  | admitted hd => simp [remaining, Domain.steps, answers, hd]
  | diffPanics hc => simp [remaining, Domain.attempts, answers, hc]
  | unchanged hc => simp [remaining, Domain.attempts, answers, hc]
  | applying hc =>
      obtain ⟨hd, -⟩ := ht
      simp only at hd
      simp [remaining, Domain.attempts, answers, hc, hd]
  | applied | failed | setPanics | idle => rfl

end Move

theorem remaining_eq_zero_iff {t : Task H} : t.remaining = 0 ↔ t.outcome?.isSome := by
  obtain ⟨number, domain, stage, calls⟩ := t
  cases stage with
  | ready =>
      have h := domain.steps_pos
      simp only [remaining, outcome?, Option.isSome_none, Bool.false_eq_true, iff_false]
      omega
  | admitted | applying | ended => simp [remaining, outcome?]

end Task

/-! ## Turns -/

namespace Cycle

/-- A turn is a move of the task whose turn it is, and leaves the other tasks alone. -/
theorem getElem?_tasks_step (c : Cycle H) (turn : Turn) (i : Nat) :
    (c.step turn).tasks[i]? =
      if turn.task = i then c.tasks[i]?.map fun t => (t.step turn.time c.shared).1
      else c.tasks[i]? := by
  by_cases hi : turn.task = i
  · subst hi
    rw [if_pos rfl]
    cases ht : c.tasks[turn.task]? with
    | none => simp only [step, ht, Option.map_none]
    | some t =>
        simp only [step, ht, Option.map_some]
        exact List.getElem?_set_self (List.getElem?_eq_some_iff.mp ht).1
  · rw [if_neg hi]
    cases ht : c.tasks[turn.task]? with
    | none => simp only [step, ht]
    | some t =>
        simp only [step, ht]
        exact List.getElem?_set_ne hi

/-- A turn changes what the tasks share as the move of its task does. -/
theorem shared_step (c : Cycle H) (turn : Turn) {t : Task H} (h : c.tasks[turn.task]? = some t) :
    (c.step turn).shared = (t.step turn.time c.shared).2 := by
  simp only [step, h]

/-- A turn is the move of one task between the others, or nothing at all. -/
theorem step_cases (c : Cycle H) (turn : Turn) :
    c.step turn = c ∨ ∃ before t t' after s', c.tasks = before ++ t :: after
      ∧ Task.Move turn.time t c.shared t' s' ∧ c.step turn = ⟨before ++ t' :: after, s'⟩ := by
  cases ht : c.tasks[turn.task]? with
  | none => exact .inl (by simp only [step, ht])
  | some t =>
      obtain ⟨hlt, heq⟩ := List.getElem?_eq_some_iff.mp ht
      obtain ⟨before, after, htasks, -, hset⟩ :=
        @List.exists_of_set _ _ (t.step turn.time c.shared).1 _ hlt
      rw [heq] at htasks
      refine .inr ⟨before, t, _, after, _, htasks, Task.move_step turn.time t c.shared, ?_⟩
      simp only [step, ht, hset]

@[simp] theorem length_tasks_step (c : Cycle H) (turn : Turn) :
    (c.step turn).tasks.length = c.tasks.length := by
  rw [step]
  split
  · rfl
  · exact List.length_set

@[simp] theorem length_tasks_run (c : Cycle H) (turns : List Turn) :
    (c.run turns).tasks.length = c.tasks.length := by
  induction turns generalizing c with
  | nil => rfl
  | cons turn turns ih =>
      show ((c.step turn).run turns).tasks.length = _
      rw [ih, length_tasks_step]

/-- **What a task has done depends on the number of its own turns alone.** -/
theorem exists_tasks_run (c : Cycle H) (turns : List Turn) {i : Nat} {t : Task H}
    (h : c.tasks[i]? = some t) (ht : t.Regular) :
    ∃ t', (c.run turns).tasks[i]? = some t' ∧ t'.domain = t.domain ∧ t'.number = t.number
      ∧ t'.Regular ∧ t'.remaining = t.remaining - turns.countP (·.task == i) := by
  induction turns generalizing c t with
  | nil => exact ⟨t, h, rfl, rfl, ht, rfl⟩
  | cons turn turns ih =>
      have hstep := getElem?_tasks_step c turn i
      rw [h, Option.map_some] at hstep
      by_cases hi : turn.task = i
      · -- a turn of its own is one of the turns that it needs
        rw [if_pos hi] at hstep
        have hm := Task.move_step turn.time t c.shared
        obtain ⟨t', h', hd, hn, hr, hk⟩ := ih (c.step turn) hstep (hm.regular ht)
        refine ⟨t', h', hd.trans hm.domain_eq, hn.trans hm.number_eq, hr, ?_⟩
        rw [hk, hm.remaining_eq ht, List.countP_cons_of_pos (by simpa using hi)]
        omega
      · -- a turn of another task neither moves it nor counts
        rw [if_neg hi] at hstep
        obtain ⟨t', h', hd, hn, hr, hk⟩ := ih (c.step turn) hstep ht
        refine ⟨t', h', hd, hn, hr, ?_⟩
        rw [hk, List.countP_cons_of_neg (by simpa using hi)]

theorem getElem?_tasks_start (domains : List (Domain H)) (host : H) (status : Dict Bool)
    (numbers : Nat → Nat) (i : Nat) :
    (start domains host status numbers).tasks[i]? =
      domains[i]?.map fun domain => { number := numbers i, domain } := by
  simp [start]

theorem map_domain_start (domains : List (Domain H)) (host : H) (status : Dict Bool)
    (numbers : Nat → Nat) :
    (start domains host status numbers).tasks.map (·.domain) = domains := by
  refine List.ext_getElem? fun i => ?_
  rw [List.getElem?_map, getElem?_tasks_start, Option.map_map]
  exact Option.map_id'

/-- After an interleaving every task has ended, and regularly so. -/
theorem exists_ended (domains : List (Domain H)) (host : H) (status : Dict Bool)
    (numbers : Nat → Nat) (order : Interleaving domains) {i : Nat} {d : Domain H} (h : domains[i]? = some d) :
    ∃ t, ((start domains host status numbers).run order.turns).tasks[i]? = some t ∧ t.domain = d
      ∧ ∃ found, t.outcome? = some ((d.behaviourAt found).outcome (numbers i))
        ∧ t.calls = (d.behaviourAt found).calls := by
  have hstart := getElem?_tasks_start domains host status numbers i
  rw [h, Option.map_some] at hstart
  obtain ⟨t, ht, rfl, hn, hr, hk⟩ := exists_tasks_run _ order.turns hstart rfl
  refine ⟨t, ht, rfl, ?_⟩
  -- it had all the turns that it needs, so no stage but the last is left
  have hended : t.outcome?.isSome := by
    rw [← Task.remaining_eq_zero_iff, hk]
    exact Nat.sub_eq_zero_of_le (order.enough i _ h)
  obtain ⟨number, domain, stage, calls⟩ := t
  cases stage with
  | ready | admitted | applying => simp [Task.outcome?] at hended
  | ended outcome ended =>
      obtain rfl : number = numbers i := hn
      obtain ⟨found, ho, hc⟩ := hr
      exact ⟨found, congrArg some ho, hc⟩

/-- An interleaving leaves no task without an outcome. -/
theorem isSome_outcome_of_mem {domains : List (Domain H)} (order : Interleaving domains)
    (host : H) (status : Dict Bool) (numbers : Nat → Nat) {t : Task H}
    (h : t ∈ ((start domains host status numbers).run order.turns).tasks) : t.outcome?.isSome := by
  obtain ⟨i, hi⟩ := List.getElem?_of_mem h
  have hlt : i < domains.length := by
    have := (List.getElem?_eq_some_iff.mp hi).1
    simpa [start] using this
  obtain ⟨t', ht', -, found, ho, -⟩ :=
    exists_ended domains host status numbers order (List.getElem?_eq_getElem hlt)
  obtain rfl : t' = t := Option.some.inj (ht'.symm.trans hi)
  rw [ho]
  rfl

end Cycle

/-! ## The schedule

The schedule that a dispatch follows is one of the interleavings. -/

theorem perm_insertTurn (turn : Turn) (turns : List Turn) :
    (insertTurn turn turns).Perm (turn :: turns) := by
  induction turns with
  | nil => exact .refl _
  | cons t turns ih =>
      rw [insertTurn]
      split
      · exact .refl _
      · exact (ih.cons t).trans (.swap turn t turns)

theorem perm_foldl_insertTurn (later turns : List Turn) :
    (later.foldl (fun turns turn => insertTurn turn turns) turns).Perm (later ++ turns) := by
  induction later generalizing turns with
  | nil => exact .refl _
  | cons turn later ih =>
      exact (ih (insertTurn turn turns)).trans
        (((perm_insertTurn turn turns).append_left later).trans List.perm_middle)

theorem countP_le_flatMap {α β : Type} {p : α → Bool} {f : β → List α} {l : List β} {b : β}
    (h : b ∈ l) : (f b).countP p ≤ (l.flatMap f).countP p :=
  (List.sublist_flatten_of_mem (List.mem_map_of_mem h)).countP_le

/-- The schedule gives every task three turns. -/
theorem three_le_countP_schedule {domains : List (Domain H)} {i : Nat} {d : Domain H}
    (h : domains[i]? = some d) : 3 ≤ (schedule domains).countP (·.task == i) := by
  have hmem : (i, d.delay) ∈ domains.mapIdx fun i domain => (i, domain.delay) :=
    List.mem_of_getElem? (by rw [List.getElem?_mapIdx, h, Option.map_some])
  have hturns : ∀ n, (List.replicate n (⟨0, i⟩ : Turn)).countP (·.task == i) = n := by
    intro n
    rw [List.countP_replicate, if_pos (beq_self_eq_true i)]
  rw [schedule, List.countP_append]
  by_cases hd : d.delay = 0
  · refine Nat.le_trans ?_ (Nat.le_trans (countP_le_flatMap hmem) (Nat.le_add_right _ _))
    show 3 ≤ (List.replicate (if d.delay = 0 then 3 else 2) (⟨0, i⟩ : Turn)).countP _
    exact Nat.le_of_eq (by rw [hturns, if_pos hd])
  · refine Nat.add_le_add (a := 2) (c := 1) ?_ ?_
    · refine Nat.le_trans ?_ (countP_le_flatMap hmem)
      show 2 ≤ (List.replicate (if d.delay = 0 then 3 else 2) (⟨0, i⟩ : Turn)).countP _
      exact Nat.le_of_eq (by rw [hturns, if_neg hd])
    · -- the third turn of a task that waits is in the later part
      rw [(perm_foldl_insertTurn _ []).countP_eq, List.append_nil]
      refine List.countP_pos_iff.mpr ⟨⟨d.delay, i⟩, ?_, beq_self_eq_true i⟩
      refine List.mem_map.mpr ⟨(i, d.delay), List.mem_filter.mpr ⟨hmem, ?_⟩, rfl⟩
      simpa using hd

/-- The interleaving in which tasks that need no time come first. -/
def Interleaving.scheduled (domains : List (Domain H)) : Interleaving domains where
  turns := schedule domains
  enough _ d h := Nat.le_trans d.steps_le (three_le_countP_schedule h)

/-- The same turns backwards. -/
def Interleaving.reversed {domains : List (Domain H)} (order : Interleaving domains) :
    Interleaving domains where
  turns := order.turns.reverse
  enough i d h := by
    rw [List.countP_reverse]
    exact order.enough i d h

end HostAgent
