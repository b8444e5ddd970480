import HostAgent.Proofs.Dispatch.StatusLines

set_option autoImplicit false

/-! # The memory of the statuses

A dispatch leaves in the memory of the statuses what it observes
(`Dispatched.told_dispatchIn`). If the memory holds all of this already, it stays as it is, down to
the order of its entries (`Dispatched.status_of_observed`).
-/

namespace HostAgent

variable {H : Type}

/-- The memory holds the switch of a domain. -/
def Domain.NotedIn (d : Domain H) (status : Dict Bool) : Prop :=
  ∀ disabled, d.disabled = .ok disabled → status.get? d.name = some disabled

namespace Task.Move

variable {time : Nat} {t t' : Task H} {s s' : Shared H}

/-- A move leaves the memory alone or notes the switch of its own domain. -/
theorem status_cases (h : Move time t s t' s') :
    s'.status = s.status
      ∨ ∃ disabled, t.domain.disabled = .ok disabled
        ∧ s'.status = s.status.insert t.domain.name disabled := by
  cases h with
  | disabled hd => exact .inr ⟨true, hd, Shared.status_observe _ _ _ _⟩
  | admitted hd => exact .inr ⟨false, hd, Shared.status_observe _ _ _ _⟩
  | disabledPanics | diffPanics | unchanged | applying | applied | failed | setPanics | idle =>
      exact .inl rfl

end Task.Move

namespace Cycle

/-- A turn of a task whose switch is in the memory leaves the memory as it is. -/
theorem status_step {c : Cycle H} (h : ∀ t ∈ c.tasks, t.domain.NotedIn c.shared.status)
    (turn : Turn) : (c.step turn).shared.status = c.shared.status := by
  obtain hsame | ⟨before, t, t', after, s', htasks, hm, hstep⟩ := c.step_cases turn
  · rw [hsame]
  · rw [hstep]
    rcases hm.status_cases with heq | ⟨disabled, hd, heq⟩
    · exact heq
    · have hnoted := h t (htasks ▸ by simp) disabled hd
      rw [heq, Dict.insert_of_get? hnoted]

theorem status_run {c : Cycle H} (h : ∀ t ∈ c.tasks, t.domain.NotedIn c.shared.status)
    (turns : List Turn) : (c.run turns).shared.status = c.shared.status := by
  induction turns generalizing c with
  | nil => rfl
  | cons turn turns ih =>
      have hfirst := c.status_step h turn
      have hrest : ∀ t ∈ (c.step turn).tasks, t.domain.NotedIn (c.step turn).shared.status := by
        intro t ht
        have hmem : t.domain ∈ c.tasks.map (·.domain) :=
          c.map_domain_step turn ▸ List.mem_map_of_mem ht
        obtain ⟨u, hu, hdomain⟩ := List.mem_map.mp hmem
        rw [← hdomain, hfirst]
        exact h u hu
      exact (ih hrest).trans hfirst

end Cycle

namespace Dispatched

/-- **A dispatch that observes what the memory holds leaves it as it is.** -/
theorem status_of_observed {domains : List (Domain H)} {status : Dict Bool}
    (hnames : (domains.map (·.name)).Nodup)
    (h : ∀ name disabled, observed domains name = some disabled → status.get? name = some disabled)
    (order : Interleaving domains) (host : H) (numbers : Nat → Nat) :
    (dispatchIn order.turns domains host status numbers).status = status := by
  refine Cycle.status_run (fun t ht disabled hdisabled => ?_) order.turns
  have hmem : t.domain ∈ (Cycle.start domains host status numbers).tasks.map (·.domain) :=
    List.mem_map_of_mem ht
  rw [Cycle.map_domain_start] at hmem
  exact h _ _ ((observed_eq_some_iff hnames).mpr ⟨t.domain, hmem, rfl, hdisabled⟩)

end Dispatched

end HostAgent
