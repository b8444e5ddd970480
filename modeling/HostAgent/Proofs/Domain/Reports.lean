import HostAgent.Domain.Registry

set_option autoImplicit false

/-! # What the domains report

Whatever the domains of the agent report while they apply something, they report in their own names
(`Registry.isOfDomain_of_mem_agent`), and not in that of the watch loop or of the dispatcher.
-/

namespace HostAgent

/-- An event that is reported in the name of a domain. -/
def Event.IsOfDomain (e : Event) : Prop := ∃ name, e.component = .domain name

theorem Event.isOfDomain_of_mem_singleton {event : Event} {name : String}
    (h : event.component = .domain name) : ∀ e ∈ [event], e.IsOfDomain := by
  intro e he
  obtain rfl := List.mem_singleton.mp he
  exact ⟨name, h⟩

theorem HostOperation.isOfDomain_report (op : HostOperation) : op.report.IsOfDomain := by
  cases op <;> exact ⟨_, rfl⟩

/-- An operation adds its report to a log at most. -/
theorem Host.isOfDomain_of_mem_attempt {h : Host} {op : HostOperation} {log : Log}
    (hlog : ∀ e ∈ log, e.IsOfDomain) :
    ∀ e ∈ ((h.attempt op).after log).log, e.IsOfDomain := by
  intro e he
  rcases List.mem_append.mp he with he | he
  · exact hlog e he
  · simp only [attempt, perform] at he
    by_cases hf : op.domain ∈ h.failing
    · rw [if_pos hf] at he
      cases he
    · rw [if_neg hf] at he
      by_cases hn : op.applyTo h.state = h.state
      · rw [if_pos hn] at he
        cases he
      · rw [if_neg hn] at he
        obtain rfl := List.mem_singleton.mp he
        exact op.isOfDomain_report

theorem AccountKey.isOfDomain_of_mem_readAll {raw : String} {now : Instant} :
    ∀ e ∈ (readAll raw now).2, e.IsOfDomain := by
  intro e he
  obtain ⟨line, -, hline⟩ := List.mem_flatMap.mp he
  cases line with
  | usable => cases hline
  | malformed | nameless | expired =>
      obtain rfl := List.mem_singleton.mp hline
      exact ⟨_, rfl⟩

theorem Diagnostics.isOfDomain_of_mem_apply {i : Inputs Snapshot} {h : Host} :
    ∀ e ∈ (apply i h).log, e.IsOfDomain := by
  intro e he
  rw [apply] at he
  split at he
  · cases he
  · split at he
    · cases he
    · split at he
      · exact Event.isOfDomain_of_mem_singleton rfl e he
      · exact Host.isOfDomain_of_mem_attempt (Event.isOfDomain_of_mem_singleton rfl) e he

/-- **The domains of the agent report in the names of domains.** -/
theorem Registry.isOfDomain_of_mem_agent {i : Inputs Snapshot} {d : Domain Host}
    (hd : d ∈ Registry.agent.instantiate i) (h : Host) : ∀ e ∈ (d.set h).log, e.IsOfDomain := by
  intro e he
  simp only [instantiate, agent, List.map_cons, List.map_nil, List.mem_cons, List.not_mem_nil,
    or_false] at hd
  rcases hd with rfl | rfl | rfl | rfl
  · exact Host.isOfDomain_of_mem_attempt (Event.isOfDomain_of_mem_singleton rfl) e he
  · refine Host.isOfDomain_of_mem_attempt (fun e he => ?_) e he
    rcases List.mem_append.mp he with hread | hlast
    · exact AccountKey.isOfDomain_of_mem_readAll e hread
    · exact Event.isOfDomain_of_mem_singleton rfl e hlast
  · exact Host.isOfDomain_of_mem_attempt (Event.isOfDomain_of_mem_singleton rfl) e he
  · exact Diagnostics.isOfDomain_of_mem_apply e he

end HostAgent
