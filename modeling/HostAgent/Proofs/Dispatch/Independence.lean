import HostAgent.Proofs.Dispatch.Contract
import HostAgent.Proofs.Dispatch.Ownership

set_option autoImplicit false

/-! # Domains that do not meet on the host

Two domains are *independent* if their applications lead to the same host in either order and
neither changes how the other one ends. The tasks of pairwise independent domains may take their
turns in any order: the host after the cycle is the one that the applications lead to one after
another in the order of registration, and every outcome is the one that the domain has on the
host before the cycle (`Dispatched.host_of_independent`, `Dispatched.outcomes_of_independent`).

Behind this are two views of a cycle in progress that no turn changes. `Cycle.completion` is the
host after the applications that are still to come, and `Cycle.fates` lists the outcomes that the
tasks have or will have. Before the first turn they speak of the domains alone, and after the last
one they are the host and the outcomes of the cycle.
-/

namespace HostAgent

variable {H : Type}

/-- The host after an application of a domain. -/
def Domain.applyTo (host : H) (d : Domain H) : H := (d.set host).host

/-- The applications of two domains do not meet on any host. -/
structure Domain.Independent (d e : Domain H) : Prop where
  comm : ∀ host, e.applyTo (d.applyTo host) = d.applyTo (e.applyTo host)
  ending_left : ∀ host, (d.set (e.applyTo host)).ending = (d.set host).ending
  ending_right : ∀ host, (e.set (d.applyTo host)).ending = (e.set host).ending

theorem Domain.applyTo_comm_of_mem {domains : List (Domain H)}
    (h : domains.Pairwise Domain.Independent) :
    ∀ d ∈ domains, ∀ e ∈ domains, ∀ host : H,
      e.applyTo (d.applyTo host) = d.applyTo (e.applyTo host) := by
  induction domains with
  | nil => exact fun d hd => nomatch hd
  | cons a domains ih =>
      obtain ⟨ha, hrest⟩ := List.pairwise_cons.mp h
      intro d hd e he host
      rcases List.mem_cons.mp hd with hda | hd <;> rcases List.mem_cons.mp he with hea | he
      · rw [hda, hea]
      · rw [hda]
        exact (ha e he).comm host
      · rw [hea]
        exact ((ha d hd).comm host).symm
      · exact ih hrest d hd e he host

/-! ## The fate of a task -/

namespace Task

/-- Whether the application of a task is still to come. -/
def isPending (t : Task H) : Bool := t.domain.attempts && !t.hasApplied

/-- The outcome of a task, or the one that it would have if it ran to its end on the host. -/
def fate (host : H) (t : Task H) : Outcome :=
  t.outcome?.getD ((t.domain.behaviourAt host).outcome t.number)

/-- The fate of a task depends on how its application would end. -/
theorem fate_congr {t : Task H} {host host' : H}
    (h : (t.domain.set host').ending = (t.domain.set host).ending) :
    t.fate host' = t.fate host := by
  rw [fate, fate, Domain.behaviourAt, Domain.behaviourAt, h]

theorem isPending_eq_false_of_outcome {t : Task H} (h : t.outcome?.isSome) :
    t.isPending = false := by
  rw [isPending, hasApplied, h, Bool.and_true, Bool.and_not_self]

namespace Move

variable {time : Nat} {t t' : Task H} {s s' : Shared H}

/-- A task moves towards its fate. -/
theorem fate_eq (h : Move time t s t' s') (ht : t.Regular) : t'.fate s'.host = t.fate s.host := by
  have hhost := h.host_eq
  cases h with
  | disabledPanics hd | disabled hd =>
      simp [fate, outcome?, Behaviour.outcome, Domain.behaviourAt, hd]
  | diffPanics hc | unchanged hc =>
      obtain ⟨hd, -⟩ := ht
      simp only at hd
      simp [fate, outcome?, Behaviour.outcome, Domain.behaviourAt, hd, hc]
  | applied he | failed he | setPanics he =>
      obtain ⟨hd, hc, -⟩ := ht
      simp only at hd hc
      simp [fate, outcome?, Behaviour.outcome, Domain.behaviourAt, hd, hc, he]
  | admitted | applying =>
      -- the host is the same, and the task has not ended
      rw [if_neg (by simp)] at hhost
      rw [hhost]
      rfl
  | idle => rfl

theorem isPending_of_applying (h : Move time t s t' s') (ht : t.Regular)
    (hs : t.stage = .applying) : t.isPending = true ∧ t'.isPending = false := by
  obtain ⟨hbefore, hafter⟩ := h.hasApplied_of_applying ht hs
  have hattempts : t'.domain.attempts = true := (Bool.and_eq_true_iff.mp hafter).1
  rw [isPending, isPending, hbefore, hafter, ← h.domain_eq, hattempts]
  exact ⟨rfl, rfl⟩

theorem isPending_of_ne (h : Move time t s t' s') (ht : t.Regular) (hs : t.stage ≠ .applying) :
    t'.isPending = t.isPending := by
  rw [isPending, isPending, h.hasApplied_of_ne ht hs, h.domain_eq]

end Move

end Task

/-! ## Views that no turn changes -/

namespace Cycle

/-- The domains whose applications are still to come. -/
def pending (c : Cycle H) : List (Domain H) := (c.tasks.filter (·.isPending)).map (·.domain)

/-- The host after the applications that are still to come, one after another. -/
def completion (c : Cycle H) : H := c.pending.foldl Domain.applyTo c.shared.host

/-- The names and the fates of the tasks. -/
def fates (c : Cycle H) : List (String × Outcome) :=
  c.tasks.map fun t => (t.domain.name, t.fate c.shared.host)

/-- What every turn keeps: the domains are independent, and their tasks are regular. -/
structure Orderly (c : Cycle H) : Prop where
  independent : (c.tasks.map (·.domain)).Pairwise Domain.Independent
  regular : ∀ t ∈ c.tasks, t.Regular

theorem Orderly.step {c : Cycle H} (h : c.Orderly) (turn : Turn) : (c.step turn).Orderly := by
  refine ⟨by rw [c.map_domain_step turn]; exact h.independent, ?_⟩
  obtain hsame | ⟨before, t, t', after, s', htasks, hm, hstep⟩ := c.step_cases turn
  · rw [hsame]
    exact h.regular
  · rw [hstep]
    intro u hu
    rcases List.mem_append.mp hu with hu | hu
    · exact h.regular u (htasks ▸ List.mem_append_left _ hu)
    · rcases List.mem_cons.mp hu with rfl | hu
      · exact hm.regular (h.regular t (htasks ▸ by simp))
      · exact h.regular u (htasks ▸ by simp [hu])

/-- The application that reaches the host is the next one of those to come. -/
theorem completion_step {c : Cycle H} (h : c.Orderly) (turn : Turn) :
    (c.step turn).completion = c.completion := by
  obtain hsame | ⟨before, t, t', after, s', htasks, hm, hstep⟩ := c.step_cases turn
  · rw [hsame]
  · have hr : t.Regular := h.regular t (htasks ▸ by simp)
    have hhost := hm.host_eq
    rw [hstep, completion, completion, pending, pending, htasks]
    by_cases hs : t.stage = .applying
    · obtain ⟨hp, hp'⟩ := hm.isPending_of_applying hr hs
      rw [if_pos hs] at hhost
      simp only [List.filter_append, List.filter_cons, hp, hp', if_true, Bool.false_eq_true,
        if_false, List.map_append, List.map_cons, hhost]
      -- it may be taken before the others, since their order does not matter
      refine (List.perm_middle.foldl_eq' (fun d hd e he host => ?_) c.shared.host).symm
      have hsub : ∀ d ∈ (before.filter (·.isPending)).map (·.domain)
          ++ t.domain :: (after.filter (·.isPending)).map (·.domain),
          d ∈ c.tasks.map (·.domain) := by
        intro d hd
        rw [htasks]
        simp only [List.mem_append, List.mem_cons, List.mem_map, List.mem_filter,
          List.map_append, List.map_cons] at hd ⊢
        rcases hd with ⟨u, ⟨hu, -⟩, rfl⟩ | rfl | ⟨u, ⟨hu, -⟩, rfl⟩
        · exact .inl ⟨u, hu, rfl⟩
        · exact .inr (.inl rfl)
        · exact .inr (.inr ⟨u, hu, rfl⟩)
      exact Domain.applyTo_comm_of_mem h.independent d (hsub d hd) e (hsub e he) host
    · rw [if_neg hs] at hhost
      simp only [List.filter_append, List.filter_cons, hm.isPending_of_ne hr hs,
        List.map_append, hhost]
      split
      · rw [List.map_cons, List.map_cons, hm.domain_eq]
      · rfl

/-- A turn leaves the fates of all tasks as they are. -/
theorem fates_step {c : Cycle H} (h : c.Orderly) (turn : Turn) :
    (c.step turn).fates = c.fates := by
  obtain hsame | ⟨before, t, t', after, s', htasks, hm, hstep⟩ := c.step_cases turn
  · rw [hsame]
  · have hr : t.Regular := h.regular t (htasks ▸ by simp)
    have hhost := hm.host_eq
    have hi := h.independent
    rw [htasks, List.map_append, List.map_cons, List.pairwise_append, List.pairwise_cons] at hi
    obtain ⟨-, ⟨hafter, -⟩, hbefore⟩ := hi
    have hother : ∀ u ∈ before ++ after, u.fate s'.host = u.fate c.shared.host := by
      intro u hu
      refine Task.fate_congr ?_
      rw [hhost]
      split
      · rcases List.mem_append.mp hu with hu | hu
        · exact (hbefore _ (List.mem_map_of_mem hu) _ List.mem_cons_self).ending_left _
        · exact (hafter _ (List.mem_map_of_mem hu)).ending_right _
      · rfl
    rw [hstep, fates, fates, htasks, List.map_append, List.map_append, List.map_cons,
      List.map_cons, hm.domain_eq, hm.fate_eq hr]
    congr 1
    · exact List.map_congr_left fun u hu => by rw [hother u (List.mem_append_left _ hu)]
    · congr 1
      exact List.map_congr_left fun u hu => by rw [hother u (List.mem_append_right _ hu)]

theorem completion_and_fates_run {c : Cycle H} (h : c.Orderly) (turns : List Turn) :
    (c.run turns).completion = c.completion ∧ (c.run turns).fates = c.fates := by
  induction turns generalizing c with
  | nil => exact ⟨rfl, rfl⟩
  | cons turn turns ih =>
      obtain ⟨hcompletion, hfates⟩ := ih (h.step turn)
      exact ⟨hcompletion.trans (completion_step h turn), hfates.trans (fates_step h turn)⟩

/-! ## The first turn and the last -/

theorem orderly_start {domains : List (Domain H)} (h : domains.Pairwise Domain.Independent)
    (host : H) (status : Dict Bool) (numbers : Nat → Nat) :
    (start domains host status numbers).Orderly := by
  refine ⟨by rwa [map_domain_start], fun t ht => ?_⟩
  obtain ⟨i, hi, rfl⟩ := List.mem_mapIdx.mp ht
  rfl

theorem completion_start (domains : List (Domain H)) (host : H) (status : Dict Bool)
    (numbers : Nat → Nat) :
    (start domains host status numbers).completion
      = (domains.filter (·.attempts)).foldl Domain.applyTo host := by
  have hpending : ∀ t ∈ (start domains host status numbers).tasks,
      t.isPending = ((·.attempts) ∘ (·.domain)) t := by
    intro t ht
    obtain ⟨i, hi, rfl⟩ := List.mem_mapIdx.mp ht
    simp [Task.isPending, Task.hasApplied, Task.outcome?]
  have h : (start domains host status numbers).pending = domains.filter (·.attempts) := by
    rw [pending, List.filter_congr hpending, ← List.filter_map, map_domain_start]
  rw [completion, h]
  rfl

theorem fates_start (domains : List (Domain H)) (host : H) (status : Dict Bool)
    (numbers : Nat → Nat) :
    (start domains host status numbers).fates
      = domains.mapIdx fun i d => (d.name, (d.behaviourAt host).outcome (numbers i)) := by
  refine List.ext_getElem? fun i => ?_
  rw [fates, List.getElem?_map, getElem?_tasks_start, List.getElem?_mapIdx, Option.map_map]
  rfl

end Cycle

namespace Dispatched

variable {domains : List (Domain H)}

/-- **The host after a cycle of independent domains**, in whatever order their tasks take turns. -/
theorem host_of_independent (h : domains.Pairwise Domain.Independent)
    (order : Interleaving domains) (host : H) (status : Dict Bool) (numbers : Nat → Nat) :
    (dispatchIn order.turns domains host status numbers).host
      = (domains.filter (·.attempts)).foldl Domain.applyTo host := by
  obtain ⟨hcompletion, -⟩ :=
    Cycle.completion_and_fates_run (Cycle.orderly_start h host status numbers) order.turns
  rw [← Cycle.completion_start domains host status numbers, ← hcompletion, Cycle.completion,
    Cycle.pending, List.filter_eq_nil_iff.mpr fun t ht => ?_]
  · rfl
  · rw [Task.isPending_eq_false_of_outcome
      (Cycle.isSome_outcome_of_mem order host status numbers ht)]
    exact Bool.false_ne_true

/-- **The outcomes of a cycle of independent domains**, in whatever order their tasks take
turns. -/
theorem outcomes_of_independent (h : domains.Pairwise Domain.Independent)
    (order : Interleaving domains) (host : H) (status : Dict Bool) (numbers : Nat → Nat) :
    (dispatchIn order.turns domains host status numbers).report.outcomes
      = domains.mapIdx fun i d => (d.name, (d.behaviourAt host).outcome (numbers i)) := by
  obtain ⟨-, hfates⟩ :=
    Cycle.completion_and_fates_run (Cycle.orderly_start h host status numbers) order.turns
  rw [← Cycle.fates_start domains host status numbers, ← hfates]
  refine (List.map_inj_right fun _ _ => Option.some.inj).mp ?_
  rw [map_some_outcomes, Cycle.fates, List.map_map]
  refine List.map_congr_left fun t ht => ?_
  obtain ⟨o, ho⟩ :=
    Option.isSome_iff_exists.mp (Cycle.isSome_outcome_of_mem order host status numbers ht)
  rw [Function.comp_apply, Task.fate, ho]
  rfl

end Dispatched

end HostAgent
