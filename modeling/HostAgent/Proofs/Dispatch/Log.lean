import HostAgent.Proofs.Dispatch.Interleaving

set_option autoImplicit false

/-! # Who reports in a dispatch

Whatever the log of a dispatch holds was reported by the dispatch itself or by an application of
one of its domains (`Dispatched.reported_of_mem_log`). A turn adds to the log what its task
reports, and the panics that are noticed in the end are reported by the dispatch.
-/

namespace HostAgent

variable {H : Type}

/-- An event of the dispatch itself, or of an application of one of the domains. -/
def Reported (domains : List (Domain H)) (e : Event) : Prop :=
  e.component = .dispatch ∨ ∃ d ∈ domains, ∃ host, e ∈ (d.set host).log

theorem Shared.mem_log_report {s : Shared H} {time : Nat} {log : Log} {entry : Timed} :
    entry ∈ (s.report time log).log ↔ entry ∈ s.log ∨ ∃ e ∈ log, entry = (time, e) := by
  simp only [report, List.mem_append, List.mem_map, eq_comm]

theorem Shared.mem_log_observe {s : Shared H} {time : Nat} {name : String} {disabled : Bool}
    {entry : Timed} (h : entry ∈ (s.observe time name disabled).log) :
    entry ∈ s.log ∨ entry.2.component = .dispatch := by
  rw [observe] at h
  split at h
  · exact .inl h
  · rcases mem_log_report.mp h with h | ⟨e, he, rfl⟩
    · exact .inl h
    · obtain rfl := List.mem_singleton.mp he
      exact .inr rfl

/-- What a task adds to the log when it moves. -/
theorem Task.Move.reported {time : Nat} {t t' : Task H} {s s' : Shared H}
    (h : Move time t s t' s') {entry : Timed} (he : entry ∈ s'.log) :
    entry ∈ s.log ∨ Reported [t.domain] entry.2 := by
  -- the report of an application is added to a log with the same entries
  have applied {d : Domain H} {host : H}
      (he : entry ∈ ({ s with host }.report time (d.set s.host).log).log) :
      entry ∈ s.log ∨ Reported [d] entry.2 := by
    rcases Shared.mem_log_report.mp he with hold | ⟨e, hlog, rfl⟩
    · exact .inl hold
    · exact .inr (.inr ⟨d, List.mem_singleton_self d, s.host, hlog⟩)
  cases h with
  | disabledPanics | diffPanics | unchanged | idle => exact .inl he
  | disabled | admitted => exact (Shared.mem_log_observe he).imp_right .inl
  | applying =>
      rcases Shared.mem_log_report.mp he with hold | ⟨e, hlog, rfl⟩
      · exact .inl hold
      · obtain rfl := List.mem_singleton.mp hlog
        exact .inr (.inl rfl)
  | applied | setPanics => exact applied he
  | failed =>
      rcases Shared.mem_log_report.mp he with hold | ⟨e, hlog, rfl⟩
      · exact applied hold
      · obtain rfl := List.mem_singleton.mp hlog
        exact .inr (.inl rfl)

namespace Cycle

/-- The tasks are those of the domains, and only they and the dispatch have reported. -/
structure Accounted (domains : List (Domain H)) (c : Cycle H) : Prop where
  domain_mem : ∀ t ∈ c.tasks, t.domain ∈ domains
  reported : ∀ entry ∈ c.shared.log, Reported domains entry.2

variable {domains : List (Domain H)} {c : Cycle H}

theorem accounted_start (domains : List (Domain H)) (host : H) (status : Dict Bool)
    (numbers : Nat → Nat) :
    Accounted domains (start domains host status numbers) where
  domain_mem t ht := by
    rw [← map_domain_start domains host status numbers]
    exact List.mem_map_of_mem ht
  reported entry he := nomatch he

theorem Accounted.step (h : Accounted domains c) (turn : Turn) :
    Accounted domains (c.step turn) := by
  obtain hsame | ⟨before, t, t', after, s', htasks, hm, hstep⟩ := c.step_cases turn
  · rw [hsame]
    exact h
  · have ht : t.domain ∈ domains := h.domain_mem t (htasks ▸ by simp)
    rw [hstep]
    refine ⟨fun u hu => ?_, fun entry he => ?_⟩
    · rcases List.mem_append.mp hu with hu | hu
      · exact h.domain_mem u (htasks ▸ List.mem_append_left _ hu)
      · rcases List.mem_cons.mp hu with rfl | hu
        · exact hm.domain_eq ▸ ht
        · exact h.domain_mem u (htasks ▸ by simp [hu])
    · rcases hm.reported he with he | hdispatch | ⟨d, hd, host, hlog⟩
      · exact h.reported entry he
      · exact .inl hdispatch
      · exact .inr ⟨d, List.mem_singleton.mp hd ▸ ht, host, hlog⟩

theorem Accounted.run (h : Accounted domains c) (turns : List Turn) :
    Accounted domains (c.run turns) := by
  induction turns generalizing c with
  | nil => exact h
  | cons turn turns ih => exact ih (h.step turn)

end Cycle

namespace Dispatched

/-- What is reported in the end are panics. -/
theorem exists_eq_panicEvent_of_mem_join {now : Nat} {tasks : List (Task H)} {entry : Timed}
    (h : entry ∈ (join now tasks).1) : ∃ name text, entry.2 = panicEvent name text := by
  induction tasks generalizing now with
  | nil => cases h
  | cons t rest ih =>
      simp only [join] at h
      cases ho : t.outcome? with
      | none =>
          rw [ho] at h
          exact ih h
      | some outcome =>
          rw [ho] at h
          cases outcome with
          | panicked text =>
              rcases List.mem_cons.mp h with rfl | hrest
              · exact ⟨t.domain.name, text, rfl⟩
              · exact ih hrest
          | _ => exact ih h

theorem mem_insertEvent {event entry : Timed} {log : List Timed} :
    entry ∈ insertEvent event log ↔ entry = event ∨ entry ∈ log := by
  induction log with
  | nil => simp [insertEvent]
  | cons e log ih =>
      rw [insertEvent]
      split
      · rw [List.mem_cons]
      · rw [List.mem_cons, ih, List.mem_cons]
        exact or_left_comm

theorem mem_foldl_insertEvent {entry : Timed} {events log : List Timed} :
    entry ∈ events.foldl (fun log event => insertEvent event log) log
      ↔ entry ∈ events ∨ entry ∈ log := by
  induction events generalizing log with
  | nil => simp
  | cons event events ih =>
      rw [List.foldl_cons, ih, mem_insertEvent, List.mem_cons, ← or_assoc]
      exact or_congr_left or_comm

/-- **Only the dispatch and its domains report in a dispatch**, in whatever turns. -/
theorem reported_of_mem_log {turns : List Turn} {domains : List (Domain H)} {host : H}
    {status : Dict Bool} {numbers : Nat → Nat} {entry : Timed}
    (h : entry ∈ (dispatchIn turns domains host status numbers).log) :
    Reported domains entry.2 := by
  rcases mem_foldl_insertEvent.mp h with hpanic | hlog
  · obtain ⟨name, text, heq⟩ := exists_eq_panicEvent_of_mem_join hpanic
    exact .inl (heq ▸ rfl)
  · exact ((Cycle.accounted_start domains host status numbers).run turns).reported entry hlog

end Dispatched

end HostAgent
