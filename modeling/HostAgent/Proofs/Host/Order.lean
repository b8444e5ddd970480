import HostAgent.Proofs.Dispatch.Independence
import HostAgent.Proofs.Host.Part

set_option autoImplicit false

/-! # The order of the domains does not matter

Operations of different domains commute on every host, the count of mutations included: an
operation counts as a mutation if the record is not as it wants it (`HostOperation.Holds`), and
no operation of another domain has a say in that.

An application of a domain of the agent is one operation of its own or none at all
(`Domain.Acts`), and which operations fail is not changed by any. So the domains of the agent are
independent, and the host and the outcomes of a cycle are the same for every order of its tasks
(`host_and_outcomes_of_any_order`).
-/

namespace HostAgent

namespace HostOperation

/-- Whether the record is as an operation wants it. -/
def Holds (s : HostState) : HostOperation → Prop
  | .addresses list => s.addresses = list
  | .accounts keys => s.accounts = sortTexts (keys.map (·.userName))
  | .diagnostics request => request.signedUrl ∈ s.uploads
  | .cluster settings => s.cluster = some settings

theorem applyTo_eq_self_iff (op : HostOperation) (s : HostState) :
    op.applyTo s = s ↔ op.Holds s := by
  obtain ⟨addresses, accounts, uploads, cluster, mutations⟩ := s
  cases op with
  | addresses list => simp [applyTo, Holds, eq_comm]
  | accounts keys => simp [applyTo, Holds, eq_comm]
  | diagnostics request =>
      simp only [applyTo, Holds]
      split <;> simp_all
  | cluster settings => simp [applyTo, Holds, eq_comm]

/-- The record after an operation that does not fail, the count of mutations included. -/
def settle (s : HostState) (op : HostOperation) : HostState :=
  if op.applyTo s = s then s else { op.applyTo s with mutations := s.mutations + 1 }

theorem settle_of_holds {op : HostOperation} {s : HostState} (h : op.Holds s) :
    op.settle s = s := by
  rw [settle, if_pos ((applyTo_eq_self_iff op s).mpr h)]

theorem settle_of_not_holds {op : HostOperation} {s : HostState} (h : ¬op.Holds s) :
    op.settle s = { op.applyTo s with mutations := s.mutations + 1 } := by
  rw [settle, if_neg fun heq => h ((applyTo_eq_self_iff op s).mp heq)]

/-- The count of mutations plays no part in what an operation makes of the rest. -/
theorem applyTo_mutations (op : HostOperation) (s : HostState) (n : Nat) :
    op.applyTo { s with mutations := n } = { op.applyTo s with mutations := n } := by
  cases op with
  | diagnostics request =>
      simp only [applyTo]
      split <;> rfl
  | _ => rfl

variable {op op' : HostOperation}

theorem applyTo_comm (h : op.domain ≠ op'.domain) (s : HostState) :
    op'.applyTo (op.applyTo s) = op.applyTo (op'.applyTo s) := by
  cases op with
  | diagnostics request =>
      -- whether the upload is a new one is asked before and after the other operation
      by_cases hm : request.signedUrl ∈ s.uploads <;> cases op' <;>
        first
          | exact absurd rfl h
          | simp only [applyTo, hm, if_true, if_false]
  | addresses | accounts | cluster =>
      cases op' with
      | diagnostics request =>
          by_cases hm : request.signedUrl ∈ s.uploads <;>
            simp only [applyTo, hm, if_true, if_false]
      | addresses | accounts | cluster => first | exact absurd rfl h | rfl

/-- An operation leaves it to another domain whether the record is as that one wants it. -/
theorem holds_settle_iff (h : op.domain ≠ op'.domain) (s : HostState) :
    op'.Holds (op.settle s) ↔ op'.Holds s := by
  by_cases hop : op.Holds s
  · rw [settle_of_holds hop]
  · obtain ⟨haddresses, haccounts, huploads, hcluster, -⟩ := op.applyTo_frame s
    rw [settle_of_not_holds hop]
    cases op' with
    | addresses list => simp only [Holds, haddresses h]
    | accounts keys => simp only [Holds, haccounts h]
    | diagnostics request => simp only [Holds, huploads h]
    | cluster settings => simp only [Holds, hcluster h]

theorem settle_comm (h : op.domain ≠ op'.domain) (s : HostState) :
    op'.settle (op.settle s) = op.settle (op'.settle s) := by
  have hop := holds_settle_iff h.symm s
  have hop' := holds_settle_iff h s
  by_cases hs : op.Holds s <;> by_cases hs' : op'.Holds s
  · rw [settle_of_holds hs, settle_of_holds hs', settle_of_holds hs]
  · rw [settle_of_holds hs, settle_of_holds (hop.mpr hs)]
  · rw [settle_of_holds hs', settle_of_holds (hop'.mpr hs')]
  · -- both count, in whatever order they come
    rw [settle_of_not_holds (mt hop'.mp hs'), settle_of_not_holds (mt hop.mp hs),
      settle_of_not_holds hs, settle_of_not_holds hs']
    simp only [applyTo_mutations, applyTo_comm h]

end HostOperation

namespace Host

theorem host_perform (h : Host) (op : HostOperation) :
    (h.perform op).2.1
      = if op.domain ∈ h.failing then h else { h with state := op.settle h.state } := by
  simp only [perform, HostOperation.settle]
  split
  · rfl
  · split <;> rfl

/-- **Operations of different domains commute.** -/
theorem perform_comm {op op' : HostOperation} (hne : op.domain ≠ op'.domain) (h : Host) :
    ((h.perform op).2.1.perform op').2.1 = ((h.perform op').2.1.perform op).2.1 := by
  simp only [host_perform]
  by_cases hop : op.domain ∈ h.failing <;> by_cases hop' : op'.domain ∈ h.failing
  · simp only [hop, hop', if_true]
  · simp only [hop, hop', if_true, if_false]
  · simp only [hop, hop', if_true, if_false]
  · simp only [hop, hop', if_false, HostOperation.settle_comm hne]

/-- How an operation ends depends on which ones fail. -/
theorem ending_attempt (h : Host) (op : HostOperation) :
    (h.attempt op).ending
      = if op.domain ∈ h.failing
        then .refused (.host ("mock host configured to fail " ++ op.domain)) else .completed := by
  by_cases hop : op.domain ∈ h.failing
  · simp only [attempt, perform, hop, if_true]
  · by_cases hs : op.applyTo h.state = h.state
    · simp only [attempt, perform, hop, if_false, hs, if_true]
    · simp only [attempt, perform, hop, if_false, hs]

end Host

/-! ## The domains of the agent -/

/-- An application ends without an operation, or is one operation of its domain, the same one on
every host. -/
def Domain.Acts (d : Domain Host) : Prop :=
  (∃ ending log, ∀ h : Host, d.set h = (h.untouched ending).after log)
    ∨ ∃ (op : HostOperation) (log : Log), op.domain = d.name
      ∧ ∀ h : Host, d.set h = (h.attempt op).after log

theorem Diagnostics.acts_domain (i : Inputs Snapshot) : (Diagnostics.domain i).Acts := by
  simp only [Domain.Acts, domain, apply]
  split
  · exact .inl ⟨.completed, [], fun _ => rfl⟩
  · split
    · exact .inl ⟨_, [], fun _ => rfl⟩
    · split
      · exact .inl ⟨_, _, fun _ => rfl⟩
      · exact .inr ⟨_, _, rfl, fun _ => rfl⟩

theorem Accounts.acts_domain (i : Inputs Snapshot) : (Accounts.domain i).Acts := by
  simp only [Domain.Acts, domain, apply]
  exact .inr ⟨_, _, rfl, fun _ => rfl⟩

theorem Registry.acts_of_mem_agent {i : Inputs Snapshot} :
    ∀ d ∈ Registry.agent.instantiate i, d.Acts := by
  refine forall_mem_agent ?_ ?_ ?_ ?_
  · exact .inr ⟨_, _, rfl, fun _ => rfl⟩
  · exact Accounts.acts_domain i
  · exact .inr ⟨_, _, rfl, fun _ => rfl⟩
  · exact Diagnostics.acts_domain i

theorem Domain.Acts.ending_eq {d e : Domain Host} (hd : d.Acts) (he : e.Acts) (h : Host) :
    (d.set (e.applyTo h)).ending = (d.set h).ending := by
  have hfailing : (e.applyTo h).failing = h.failing := by
    obtain ⟨ending, log, he⟩ | ⟨op, log, -, he⟩ := he
    · rw [applyTo, he]
      rfl
    · rw [applyTo, he, Attempt.host_after, Host.host_attempt, Host.failing_perform]
  obtain ⟨ending, log, hd⟩ | ⟨op, log, -, hd⟩ := hd
  · rw [hd, hd]
    rfl
  · rw [hd, hd]
    simp only [Attempt.after, Host.ending_attempt, hfailing]

theorem Domain.Acts.independent {d e : Domain Host} (hd : d.Acts) (he : e.Acts)
    (hne : d.name ≠ e.name) : d.Independent e where
  comm h := by
    obtain ⟨ending, log, hset⟩ | ⟨op, log, hop, hset⟩ := hd
    · simp only [applyTo, hset]
      rfl
    · obtain ⟨ending', log', hset'⟩ | ⟨op', log', hop', hset'⟩ := he
      · simp only [applyTo, hset']
        rfl
      · simp only [applyTo, hset, hset', Attempt.host_after, Host.host_attempt]
        exact Host.perform_comm (by rwa [hop, hop']) h
  ending_left := hd.ending_eq he
  ending_right := he.ending_eq hd

theorem Registry.independent_agent (i : Inputs Snapshot) :
    (Registry.agent.instantiate i).Pairwise Domain.Independent := by
  have hnames : ((Registry.agent.instantiate i).map (·.name)).Pairwise (· ≠ ·) :=
    nodup_names_agent
  refine (List.pairwise_map.mp hnames).imp_of_mem fun hd he hne => ?_
  exact (acts_of_mem_agent _ hd).independent (acts_of_mem_agent _ he) hne

theorem Host.ending_attempt_ne_panicked (h : Host) (op : HostOperation) (message : String) :
    (h.attempt op).ending ≠ .panicked message := by
  rw [ending_attempt]
  split
  · exact fun heq => nomatch heq
  · exact fun heq => nomatch heq

namespace Registry

variable {i : Inputs Snapshot}

theorem neverPanics_agent : ∀ d ∈ Registry.agent.instantiate i, d.NeverPanics := by
  refine forall_mem_agent ?_ ?_ ?_ ?_
  · exact ⟨⟨_, rfl⟩, ⟨_, rfl⟩, fun h => h.ending_attempt_ne_panicked _⟩
  · exact ⟨⟨_, rfl⟩, ⟨_, rfl⟩, fun h => h.ending_attempt_ne_panicked _⟩
  · exact ⟨⟨_, rfl⟩, ⟨_, rfl⟩, fun h => h.ending_attempt_ne_panicked _⟩
  · refine ⟨⟨_, rfl⟩, ⟨_, rfl⟩, fun h message => ?_⟩
    show (Diagnostics.apply i h).ending ≠ _
    unfold Diagnostics.apply
    split
    · exact fun heq => nomatch heq
    · split
      · exact fun heq => nomatch heq
      · split
        · exact fun heq => nomatch heq
        · exact h.ending_attempt_ne_panicked _ message

/-- The numbers of the tasks do not show in the outcomes of the agent. -/
theorem outcomes_congr (host : Host) (numbers numbers' : Nat → Nat) :
    (Registry.agent.instantiate i).mapIdx
        (fun k d => (d.name, (d.behaviourAt host).outcome (numbers k)))
      = (Registry.agent.instantiate i).mapIdx
        fun k d => (d.name, (d.behaviourAt host).outcome (numbers' k)) := by
  refine List.mapIdx_eq_mapIdx_iff.mpr fun k hk => ?_
  have hnever := neverPanics_agent _ (List.getElem_mem hk)
  rw [hnever.outcome_eq host (numbers k) (numbers' k)]

end Registry

/-- **Host and outcomes of a cycle do not depend on the order of its domains.** For all snapshots
and overrides, every host, whichever domains are made to fail on it, and every two orders in which
the tasks of the agent's domains take their turns, whatever their numbers, the cycle ends with the
same record, the count of mutations included, and the same outcomes. They are those of the domains
that have something to apply, taken one after another in the order of registration. -/
theorem host_and_outcomes_of_any_order (i : Inputs Snapshot) (host : Host) (status : Dict Bool)
    (order order' : Interleaving (Registry.agent.instantiate i)) (numbers numbers' : Nat → Nat) :
    let domains := Registry.agent.instantiate i
    let done := dispatchIn order.turns domains host status numbers
    let done' := dispatchIn order'.turns domains host status numbers'
    done.host = done'.host ∧ done.report = done'.report
      ∧ done.host = (domains.filter (·.attempts)).foldl (fun h d => (d.set h).host) host
      ∧ done.report.outcomes
        = domains.mapIdx fun k d => (d.name, (d.behaviourAt host).outcome (numbers k)) := by
  intro domains done done'
  have hi : domains.Pairwise Domain.Independent := Registry.independent_agent i
  have hhost := Dispatched.host_of_independent hi order host status numbers
  have houtcomes := Dispatched.outcomes_of_independent hi order host status numbers
  refine ⟨?_, ?_, hhost, houtcomes⟩
  · exact hhost.trans (Dispatched.host_of_independent hi order' host status numbers').symm
  · have houtcomes' := Dispatched.outcomes_of_independent hi order' host status numbers'
    have hnumbers := Registry.outcomes_congr (i := i) host numbers numbers'
    exact congrArg Report.mk ((houtcomes.trans hnumbers).trans houtcomes'.symm)

end HostAgent
