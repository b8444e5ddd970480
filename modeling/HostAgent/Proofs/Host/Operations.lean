import HostAgent.Proofs.Host.Order
import HostAgent.Proofs.Watch.Loop

set_option autoImplicit false

/-! # What a cycle asks of the host

A domain of the agent asks one operation of the host at most, and which one follows from the
inputs of the cycle alone (`Duty`). So a cycle comes down to a list of operations, at most one for
each domain: those of the domains that are not switched off and see a change
(`Registry.operations`). The ones that do not fail settle the record one after another, whatever
the order in which the tasks take their turns (`Loop.host_cycle`).

After the operations of a list the record is as each of them wants it, since they belong to
different domains, and so asking for all of them again changes nothing
(`HostOperation.settleAll_settleAll`).
-/

namespace HostAgent

/-! ## Lists of operations -/

namespace HostOperation

/-- The record after operations that do not fail. -/
def settleAll (s : HostState) (ops : List HostOperation) : HostState := ops.foldl settle s

/-- No two of the operations belong to one domain. -/
def Distinct (ops : List HostOperation) : Prop := ops.Pairwise fun a b => a.domain ≠ b.domain

/-- An operation that does not fail makes the record as it wants it. -/
theorem holds_settle (op : HostOperation) (s : HostState) : op.Holds (op.settle s) := by
  by_cases h : op.Holds s
  · rw [settle_of_holds h]
    exact h
  · rw [settle_of_not_holds h]
    cases op with
    | addresses list => rfl
    | accounts keys => rfl
    | cluster settings => rfl
    | diagnostics request =>
        have hnew : request.signedUrl ∉ s.uploads := h
        simp only [Holds, applyTo, hnew, if_false]
        exact List.mem_concat_self

theorem holds_settleAll_iff {op : HostOperation} {ops : List HostOperation}
    (h : ∀ other ∈ ops, other.domain ≠ op.domain) (s : HostState) :
    op.Holds (settleAll s ops) ↔ op.Holds s := by
  induction ops generalizing s with
  | nil => exact Iff.rfl
  | cons first ops ih =>
      have hrest := ih (fun other ho => h other (List.mem_cons_of_mem _ ho)) (first.settle s)
      exact hrest.trans (holds_settle_iff (h first List.mem_cons_self) s)

theorem holds_settleAll {ops : List HostOperation} (h : Distinct ops) (s : HostState) :
    ∀ op ∈ ops, op.Holds (settleAll s ops) := by
  induction ops generalizing s with
  | nil => exact fun op hop => nomatch hop
  | cons first ops ih =>
      obtain ⟨hfirst, hrest⟩ := List.pairwise_cons.mp h
      intro op hop
      rcases List.mem_cons.mp hop with rfl | hop
      · -- the later operations are those of other domains
        have hlater := holds_settleAll_iff (fun other ho => (hfirst other ho).symm) (op.settle s)
        exact hlater.mpr (holds_settle op s)
      · exact ih hrest (first.settle s) op hop

theorem settleAll_of_holds {ops : List HostOperation} {s : HostState}
    (h : ∀ op ∈ ops, op.Holds s) : settleAll s ops = s := by
  induction ops with
  | nil => rfl
  | cons first ops ih =>
      have hfirst : first.settle s = s := settle_of_holds (h first List.mem_cons_self)
      show settleAll (first.settle s) ops = s
      rw [hfirst]
      exact ih fun op hop => h op (List.mem_cons_of_mem first hop)

/-- **Asking again changes nothing**, the count of mutations included. -/
theorem settleAll_settleAll {ops : List HostOperation} (h : Distinct ops) (s : HostState) :
    settleAll (settleAll s ops) ops = settleAll s ops :=
  settleAll_of_holds (holds_settleAll h s)

end HostOperation

namespace Host

/-- The host after an operation. -/
def after (h : Host) (op : HostOperation) : Host := (h.perform op).2.1

theorem after_of_failing {h : Host} {op : HostOperation} (hop : op.domain ∈ h.failing) :
    h.after op = h := by
  rw [after, host_perform, if_pos hop]

theorem after_of_not_failing {h : Host} {op : HostOperation} (hop : op.domain ∉ h.failing) :
    h.after op = { h with state := op.settle h.state } := by
  rw [after, host_perform, if_neg hop]

/-- The operations of a list that do not fail on a host. -/
def admitted (h : Host) (ops : List HostOperation) : List HostOperation :=
  ops.filter fun op => op.domain ∉ h.failing

theorem foldl_after (h : Host) (ops : List HostOperation) :
    ops.foldl after h = { h with state := HostOperation.settleAll h.state (h.admitted ops) } := by
  induction ops generalizing h with
  | nil => rfl
  | cons op ops ih =>
      by_cases hop : op.domain ∈ h.failing
      · have hadmitted : h.admitted (op :: ops) = h.admitted ops :=
          List.filter_cons_of_neg (by simpa using hop)
        rw [List.foldl_cons, after_of_failing hop, hadmitted, ih]
      · have hadmitted : h.admitted (op :: ops) = op :: h.admitted ops :=
          List.filter_cons_of_pos (by simpa using hop)
        rw [List.foldl_cons, after_of_not_failing hop, hadmitted, ih]
        rfl

end Host

/-! ## The duties of the domains -/

/-- A domain within a cycle, and the operation that its application asks of the host, if it asks
any. -/
structure Duty where
  domain : Domain Host
  operation? : Option HostOperation
  own : ∀ op ∈ operation?, op.domain = domain.name
  applyTo_eq : ∀ h : Host, domain.applyTo h = operation?.elim h h.after

namespace Duty

/-- The operations that the domains with something to apply ask for. -/
def asked (duties : List Duty) : List HostOperation :=
  (duties.filter fun duty => duty.domain.attempts).filterMap (·.operation?)

theorem mem_asked {duties : List Duty} {op : HostOperation} :
    op ∈ asked duties
      ↔ ∃ duty ∈ duties, duty.domain.attempts = true ∧ duty.operation? = some op := by
  simp only [asked, List.mem_filterMap, List.mem_filter, and_assoc]

theorem asked_cons_of_attempts {duty : Duty} (h : duty.domain.attempts = true)
    (duties : List Duty) : asked (duty :: duties) = duty.operation?.toList ++ asked duties := by
  simp only [asked, List.filter_cons, h, if_true, List.filterMap_cons]
  cases duty.operation? with
  | none => rfl
  | some op => rfl

theorem asked_cons_of_not_attempts {duty : Duty} (h : duty.domain.attempts = false)
    (duties : List Duty) : asked (duty :: duties) = asked duties := by
  simp only [asked, List.filter_cons, h, Bool.false_eq_true, if_false]

/-- The applications of the domains, one after another, are the operations they ask for. -/
theorem foldl_applyTo (duties : List Duty) (h : Host) :
    ((duties.map (·.domain)).filter (·.attempts)).foldl Domain.applyTo h
      = (asked duties).foldl Host.after h := by
  induction duties generalizing h with
  | nil => rfl
  | cons duty duties ih =>
      rw [List.map_cons, List.filter_cons]
      cases ha : duty.domain.attempts with
      | true =>
          rw [if_pos rfl, List.foldl_cons, ih, asked_cons_of_attempts ha, List.foldl_append,
            duty.applyTo_eq]
          cases duty.operation? with
          | none => rfl
          | some op => rfl
      | false => rw [if_neg Bool.false_ne_true, ih, asked_cons_of_not_attempts ha]

theorem distinct_asked {duties : List Duty}
    (h : duties.Pairwise fun a b => a.domain.name ≠ b.domain.name) :
    HostOperation.Distinct (asked duties) := by
  refine List.pairwise_filterMap.mpr ((h.filter _).imp ?_)
  intro a b hab op hop op' hop'
  rw [a.own op hop, b.own op' hop']
  exact hab

end Duty

/-- The request that a snapshot publishes, if it can be read and has not expired at `now`. -/
def DiagnosticsRequest.due? (snapshot : Snapshot) (now : Instant) : Option DiagnosticsRequest :=
  match published? snapshot with
  | none => none
  | some text =>
    match parse text with
    | .error _ => none
    | .ok request => if hasExpired request.expireOn now then none else some request

theorem DiagnosticsRequest.due?_eq_some_iff {snapshot : Snapshot} {now : Instant}
    {request : DiagnosticsRequest} :
    due? snapshot now = some request ↔ ∃ text, published? snapshot = some text
      ∧ parse text = .ok request ∧ hasExpired request.expireOn now = false := by
  unfold due?
  constructor
  · intro h
    cases hpublished : published? snapshot with
    | none => simp [hpublished] at h
    | some text =>
        cases hparse : parse text with
        | error fault => simp [hpublished, hparse] at h
        | ok read =>
            simp only [hpublished, hparse, Option.ite_none_left_eq_some, Option.some.injEq] at h
            obtain ⟨hexpired, rfl⟩ := h
            exact ⟨text, rfl, hparse, Bool.not_eq_true _ ▸ hexpired⟩
  · rintro ⟨text, hpublished, hparse, hexpired⟩
    simp [hpublished, hparse, hexpired]

theorem Diagnostics.host_apply (i : Inputs Snapshot) (h : Host) :
    (Diagnostics.apply i h).host
      = ((DiagnosticsRequest.due? i.current i.now).map .diagnostics).elim h h.after := by
  unfold apply DiagnosticsRequest.due?
  cases DiagnosticsRequest.published? i.current with
  | none => rfl
  | some text =>
      cases hparse : DiagnosticsRequest.parse text with
      | error fault =>
          simp only [hparse]
          rfl
      | ok request =>
          by_cases hexpired : hasExpired request.expireOn i.now = true
          · simp only [hparse, hexpired, if_true]
            rfl
          · simp only [hparse, hexpired, Bool.false_eq_true, if_false, Attempt.host_after,
              Host.host_attempt]
            rfl

namespace Duty

/-- The duty of the addresses domain. -/
def addresses (i : Inputs Snapshot) : Duty where
  domain := Addresses.domain i
  operation? := some (.addresses (desiredAddresses i.current i.overrides))
  own _ h := Option.some.inj h ▸ rfl
  applyTo_eq h := Addresses.host_apply i h

/-- The duty of the accounts domain. -/
def accounts (i : Inputs Snapshot) : Duty where
  domain := Accounts.domain i
  operation? := some (.accounts
    (AccountKey.readAll ((Accounts.publishedKeys? i.current).getD "") i.now).1)
  own _ h := Option.some.inj h ▸ rfl
  applyTo_eq h := Accounts.host_apply i h

/-- The duty of the cluster domain. -/
def cluster (i : Inputs Snapshot) : Duty where
  domain := Cluster.domain i
  operation? := some (.cluster (ClusterSettings.resolve i.current i.overrides))
  own _ h := Option.some.inj h ▸ rfl
  applyTo_eq h := Cluster.host_apply i h

/-- The duty of the diagnostics domain. -/
def diagnostics (i : Inputs Snapshot) : Duty where
  domain := Diagnostics.domain i
  operation? := (DiagnosticsRequest.due? i.current i.now).map .diagnostics
  own op h := by
    obtain ⟨request, -, rfl⟩ := Option.map_eq_some_iff.mp h
    rfl
  applyTo_eq h := Diagnostics.host_apply i h

end Duty

namespace Registry

/-- The duties of the agent's domains, in the order of registration. -/
def duties (i : Inputs Snapshot) : List Duty :=
  [.addresses i, .accounts i, .cluster i, .diagnostics i]

/-- The operations that a cycle of the agent asks for. -/
def operations (i : Inputs Snapshot) : List HostOperation := Duty.asked (duties i)

theorem map_domain_duties (i : Inputs Snapshot) :
    (duties i).map (·.domain) = Registry.agent.instantiate i := rfl

theorem distinct_operations (i : Inputs Snapshot) :
    HostOperation.Distinct (operations i) := by
  have hnames : ((duties i).map (·.domain.name)).Pairwise (· ≠ ·) := nodup_names_agent
  exact Duty.distinct_asked (List.pairwise_map.mp hnames)

/-- **What a cycle of the agent does to the host**, in whatever order its tasks take turns. -/
theorem host_dispatchIn (i : Inputs Snapshot) (order : Interleaving (Registry.agent.instantiate i))
    (host : Host) (status : Dict Bool) (numbers : Nat → Nat) :
    (dispatchIn order.turns (Registry.agent.instantiate i) host status numbers).host
      = { host with
          state := HostOperation.settleAll host.state (host.admitted (operations i)) } := by
  rw [Dispatched.host_of_independent (independent_agent i) order host status numbers,
    ← map_domain_duties, Duty.foldl_applyTo, Host.foldl_after]
  rfl

end Registry

namespace Loop

/-- The operations that a cycle asks for and that do not fail. -/
def operations (path : String) (l : Loop) (o : Occasion) : List HostOperation :=
  (l.hostAt o).admitted (Registry.operations (l.cycle path o).inputs)

theorem distinct_operations (path : String) (l : Loop) (o : Occasion) :
    HostOperation.Distinct (l.operations path o) :=
  (Registry.distinct_operations _).filter _

/-- **A cycle settles the operations that it asks for and that do not fail.** -/
theorem host_cycle (path : String) (l : Loop) (o : Occasion) :
    (l.cycle path o).dispatched.host = { l.hostAt o with
      state := HostOperation.settleAll l.host.state (l.operations path o) } := by
  rw [← l.state_hostAt o]
  exact Registry.host_dispatchIn (l.cycle path o).inputs (o.order _) (l.hostAt o) l.state.status
    o.numbers

/-- It is the applications of its domains one after another. -/
theorem host_cycle_eq_foldl (path : String) (l : Loop) (o : Occasion) :
    (l.cycle path o).dispatched.host
      = ((Registry.agent.instantiate (l.cycle path o).inputs).filter (·.attempts)).foldl
          Domain.applyTo (l.hostAt o) :=
  Dispatched.host_of_independent (Registry.independent_agent _) (o.order _) (l.hostAt o)
    l.state.status o.numbers

/-- The outcomes of a cycle are those that the domains have on the host it finds. -/
theorem outcomes_cycle (path : String) (l : Loop) (o : Occasion) :
    (l.cycle path o).dispatched.report.outcomes
      = (Registry.agent.instantiate (l.cycle path o).inputs).mapIdx fun k d =>
          (d.name, (d.behaviourAt (l.hostAt o)).outcome (o.numbers k)) :=
  Dispatched.outcomes_of_independent (Registry.independent_agent _) (o.order _) (l.hostAt o)
    l.state.status o.numbers

theorem calls_cycle (path : String) (l : Loop) (o : Occasion) :
    (l.cycle path o).dispatched.calls
      = (Registry.agent.instantiate (l.cycle path o).inputs).map Domain.calls :=
  Dispatched.calls_eq_map (o.order _) (l.hostAt o) l.state.status o.numbers

theorem state_next (path : String) (l : Loop) (o : Occasion) :
    (l.next path o).host.state
      = HostOperation.settleAll l.host.state (l.operations path o) := by
  rw [next, host_cycle]

end Loop

end HostAgent
