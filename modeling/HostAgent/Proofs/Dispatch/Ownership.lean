import HostAgent.Proofs.Dispatch.Interleaving

set_option autoImplicit false

/-! # Parts of the host that one domain owns

The tasks of a cycle share one host, and the order in which their applications reach it is
open. A domain *owns* a part of the host if its application determines the part and no
application of another domain touches it. The part after an interleaving then depends on its
owner alone: it is changed once if the owner's `set` is called, and not at all otherwise
(`Owns.view_dispatchIn`).

The invariant behind this is that the part has changed exactly if the owner's task has ended
in an application (`Task.hasApplied`).
-/

namespace HostAgent

variable {H α : Type}

/-- The domain at place `i` owns what `view` shows of a host, as long as the host is `Kept`. -/
structure Owns (domains : List (Domain H)) (Kept : H → Prop) (view : H → α) (i : Nat)
    (d : Domain H) (effect : α → α) : Prop where
  owner : domains[i]? = some d
  kept : ∀ e ∈ domains, ∀ h, Kept h → Kept (e.set h).host
  owned : ∀ h, Kept h → view (d.set h).host = effect (view h)
  untouched : ∀ (j : Nat) (e : Domain H), domains[j]? = some e → j ≠ i →
    ∀ h, Kept h → view (e.set h).host = view h

namespace Task

/-- Whether the task has ended in an application. -/
def hasApplied (t : Task H) : Bool := t.domain.attempts && t.outcome?.isSome

namespace Move

variable {time : Nat} {t t' : Task H} {s s' : Shared H}

/-- Only the move that ends an application reaches the host. -/
theorem host_eq (h : Move time t s t' s') :
    s'.host = if t.stage = .applying then (t.domain.set s.host).host else s.host := by
  cases h with
  | disabled | admitted =>
      simp only [reduceCtorEq, if_false, Shared.observe]
      split <;> rfl
  | _ => rfl

theorem hasApplied_of_applying (h : Move time t s t' s') (ht : t.Regular)
    (hs : t.stage = .applying) : t.hasApplied = false ∧ t'.hasApplied = true := by
  cases h with
  | applied | failed | setPanics =>
      obtain ⟨hd, hc, -⟩ := ht
      simp only at hd hc
      simp [hasApplied, outcome?, Domain.attempts, answers, hd, hc]
  | _ => cases hs

theorem hasApplied_of_ne (h : Move time t s t' s') (ht : t.Regular)
    (hs : t.stage ≠ .applying) : t'.hasApplied = t.hasApplied := by
  cases h with
  | disabledPanics hd | disabled hd =>
      simp [hasApplied, outcome?, Domain.attempts, answers, hd]
  | diffPanics hc | unchanged hc =>
      simp [hasApplied, outcome?, Domain.attempts, answers, hc]
  | admitted | applying | idle => simp [hasApplied, outcome?]
  | applied | failed | setPanics => exact absurd rfl hs

end Move

end Task

namespace Cycle

/-- The tasks keep their domains. -/
theorem map_domain_step (c : Cycle H) (turn : Turn) :
    (c.step turn).tasks.map (·.domain) = c.tasks.map (·.domain) := by
  refine List.ext_getElem? fun i => ?_
  rw [List.getElem?_map, List.getElem?_map, getElem?_tasks_step]
  split
  · cases c.tasks[i]? with
    | none => rfl
    | some t => exact congrArg some (Task.move_step turn.time t c.shared).domain_eq
  · rfl

theorem map_domain_run (c : Cycle H) (turns : List Turn) :
    (c.run turns).tasks.map (·.domain) = c.tasks.map (·.domain) := by
  induction turns generalizing c with
  | nil => rfl
  | cons turn turns ih => exact (ih (c.step turn)).trans (c.map_domain_step turn)

end Cycle

namespace Owns

variable {domains : List (Domain H)} {Kept : H → Prop} {view : H → α} {i : Nat} {d : Domain H}
  {effect : α → α}

/-- What holds throughout a cycle that began with `v` in the owned part. -/
structure Invariant (domains : List (Domain H)) (Kept : H → Prop) (view : H → α) (i : Nat)
    (d : Domain H) (effect : α → α) (v : α) (c : Cycle H) : Prop where
  domains_eq : c.tasks.map (·.domain) = domains
  kept : Kept c.shared.host
  part : ∃ t, c.tasks[i]? = some t ∧ t.domain = d ∧ t.Regular
    ∧ view c.shared.host = if t.hasApplied then effect v else v

theorem invariant_start (o : Owns domains Kept view i d effect) {host : H} (h : Kept host)
    (status : Dict Bool) (numbers : Nat → Nat) :
    Invariant domains Kept view i d effect (view host) (.start domains host status numbers) where
  domains_eq := by
    refine List.ext_getElem? fun j => ?_
    rw [List.getElem?_map, Cycle.getElem?_tasks_start, Option.map_map]
    exact Option.map_id'
  kept := h
  part := by
    refine ⟨{ number := numbers i, domain := d }, ?_, rfl, rfl, ?_⟩
    · rw [Cycle.getElem?_tasks_start, o.owner]
      rfl
    · simp [Task.hasApplied, Task.outcome?, Cycle.start]

/-- A turn keeps the invariant: the owner's own turn applies the configuration or leaves the
part, and the turns of the others leave it. -/
theorem invariant_step (o : Owns domains Kept view i d effect) {v : α} {c : Cycle H}
    (h : Invariant domains Kept view i d effect v c) (turn : Turn) :
    Invariant domains Kept view i d effect v (c.step turn) := by
  cases hturn : c.tasks[turn.task]? with
  | none =>
      have : c.step turn = c := by simp only [Cycle.step, hturn]
      rwa [this]
  | some u =>
      have hu : domains[turn.task]? = some u.domain := by
        rw [← h.domains_eq, List.getElem?_map, hturn]
        rfl
      have hm := Task.move_step turn.time u c.shared
      have hhost : (c.step turn).shared.host =
          if u.stage = .applying then (u.domain.set c.shared.host).host else c.shared.host := by
        rw [Cycle.shared_step c turn hturn]
        exact hm.host_eq
      refine ⟨(c.map_domain_step turn).trans h.domains_eq, ?_, ?_⟩
      · rw [hhost]
        split
        · exact o.kept _ (List.mem_of_getElem? hu) _ h.kept
        · exact h.kept
      · obtain ⟨t, ht, rfl, hr, hv⟩ := h.part
        have hstep := c.getElem?_tasks_step turn i
        rw [ht, Option.map_some] at hstep
        by_cases hi : turn.task = i
        · -- the owner's turn: only the one that ends an application changes the part
          obtain rfl : u = t := by
            rw [hi, ht] at hturn
            exact (Option.some.inj hturn).symm
          rw [if_pos hi] at hstep
          refine ⟨_, hstep, hm.domain_eq, hm.regular hr, ?_⟩
          rw [hhost]
          by_cases hs : u.stage = .applying
          · obtain ⟨hbefore, hafter⟩ := hm.hasApplied_of_applying hr hs
            rw [if_pos hs, hafter, if_pos rfl, o.owned _ h.kept, hv, hbefore]
            rfl
          · rw [if_neg hs, hm.hasApplied_of_ne hr hs, hv]
        · -- another task's turn: whatever it applies, the part is not touched
          rw [if_neg hi] at hstep
          refine ⟨t, hstep, rfl, hr, ?_⟩
          rw [hhost]
          split
          · rw [o.untouched _ _ hu hi _ h.kept, hv]
          · exact hv

theorem invariant_run (o : Owns domains Kept view i d effect) {v : α} {c : Cycle H}
    (h : Invariant domains Kept view i d effect v c) (turns : List Turn) :
    Invariant domains Kept view i d effect v (c.run turns) := by
  induction turns generalizing c with
  | nil => exact h
  | cons turn turns ih => exact ih (o.invariant_step h turn)

/-- **What a cycle does to an owned part depends on its owner alone**, in whatever order the
tasks take their turns. -/
theorem view_dispatchIn (o : Owns domains Kept view i d effect) (order : Interleaving domains)
    {host : H} (h : Kept host) (status : Dict Bool) (numbers : Nat → Nat) :
    Kept (dispatchIn order.turns domains host status numbers).host
      ∧ view (dispatchIn order.turns domains host status numbers).host
        = if d.attempts then effect (view host) else view host := by
  have hrun := o.invariant_run (o.invariant_start h status numbers) order.turns
  obtain ⟨t, ht, rfl, -, hv⟩ := hrun.part
  obtain ⟨t', ht', -, found, ho, -⟩ := Cycle.exists_ended domains host status numbers order o.owner
  obtain rfl : t' = t := Option.some.inj (ht'.symm.trans ht)
  refine ⟨hrun.kept, hv.trans ?_⟩
  rw [Task.hasApplied, ho, Option.isSome_some, Bool.and_true]

end Owns

end HostAgent
