import HostAgent.Proofs.Addresses
import HostAgent.Proofs.Watch.Convergence
import HostAgent.Proofs.Watch.OverrideChange

set_option autoImplicit false

/-! # Who carries a published address

Two domains share the published addresses. The addresses domain leaves out those that the
resolved cluster settings take charge of, and the cluster domain puts the host into the cluster
that is to carry them. The settings do not say whether the cluster domain is switched off, which
only the override file can do, by a key that the addresses domain does not ask for. So in a
steady run a published address is carried by somebody unless the settings take charge of it
while the file keeps the host out of the cluster (`published_address_carried_iff`).
-/

namespace HostAgent

/-- An address is carried by the machine, or by an enabled cluster that the host belongs to. -/
def HostState.Carries (s : HostState) (address : String) : Prop :=
  address ∈ s.addresses
    ∨ ∃ membership ∈ s.cluster, membership.enabled = true ∧ address ∈ membership.addresses

instance (s : HostState) (address : String) : Decidable (s.Carries address) :=
  inferInstanceAs (Decidable (_ ∨ _))

/-- Whether the override file keeps the agent from joining or leaving a cluster. -/
def Overrides.switchOffCluster (overrides : Overrides) : Bool :=
  (overrides.switch? "wsfc" "disable").getD false

theorem Cluster.isDisabled_eq (i : Inputs Snapshot) :
    Cluster.isDisabled i = i.overrides.switchOffCluster := rfl

namespace HostState

variable {state : HostState} {s : Snapshot} {overrides : Overrides} {address : String}

/-- A host in the cluster of the settings carries every published address. -/
theorem carries_of_member (haddresses : state.addresses = desiredAddresses s overrides)
    (hcluster : state.cluster = some (ClusterSettings.resolve s overrides))
    (h : address ∈ s.publishedAddresses) : state.Carries address := by
  cases howns : (ClusterSettings.resolve s overrides).owns address with
  | false => exact .inl (haddresses ▸ (mem_desiredAddresses h).mpr howns)
  | true => exact .inr ⟨_, hcluster, (ClusterSettings.owns_eq_true_iff _ _).mp howns⟩

/-- A host without a membership carries what the settings leave to the machine. -/
theorem carries_iff_of_no_membership (haddresses : state.addresses = desiredAddresses s overrides)
    (hcluster : state.cluster = none) (h : address ∈ s.publishedAddresses) :
    state.Carries address ↔ (ClusterSettings.resolve s overrides).owns address = false := by
  have hmachine : state.Carries address ↔ address ∈ state.addresses := by
    rw [Carries, hcluster]
    exact or_iff_left fun ⟨_, hm, _⟩ => nomatch hm
  rw [hmachine, haddresses, mem_desiredAddresses h]

end HostState

/-- A part whose domain is switched off in all cycles stays as it is. -/
theorem Part.view_of_mem_history_of_disabled {α : Type} (p : Part α) {path : String} {l : Loop}
    {occasions : List Occasion} (hl : l.host.failing = []) (ho : ∀ o ∈ occasions, o.toggles = [])
    (hd : ∀ c ∈ Loop.history path l occasions, p.isDisabled c.inputs = true) :
    ∀ c ∈ Loop.history path l occasions,
      p.view c.dispatched.host.state = p.view l.host.state := by
  induction occasions generalizing l with
  | nil => exact fun c hc => nomatch hc
  | cons o occasions ih =>
      have ho' := ho o List.mem_cons_self
      have hfirst : p.view (l.cycle path o).dispatched.host.state = p.view l.host.state := by
        rw [p.view_cycle_of_failing path hl ho', applies, hd _ List.mem_cons_self]
        rfl
      intro c hc
      rcases List.mem_cons.mp hc with rfl | hc
      · exact hfirst
      · have hrest := ih (Loop.failing_next path hl ho')
          (fun o' h => ho o' (List.mem_cons_of_mem o h))
          (fun c h => hd c (List.mem_cons_of_mem _ h)) c hc
        exact hrest.trans hfirst

section

variable {path : String} {overrides : Overrides} {occasions : List Occasion}

/-- In a steady run under overrides that keep the host out of clusters it never gets a
membership. -/
theorem Steady.cluster_eq_none (h : Steady path overrides occasions)
    (hoff : overrides.switchOffCluster = true) :
    ∀ c ∈ Loop.history path {} occasions, c.dispatched.host.state.cluster = none := by
  refine Part.cluster.view_of_mem_history_of_disabled rfl (fun o ho => (h o ho).2) fun c hc => ?_
  show c.inputs.overrides.switchOffCluster = true
  rw [h.overrides_eq c hc, hoff]

/-- Who carries a published address in a steady run. -/
theorem Steady.carries_iff (h : Steady path overrides occasions)
    (he : EnabledIn Addresses.isDisabled (Loop.history path {} occasions)) :
    ∀ c ∈ Loop.history path {} occasions, ∀ address ∈ c.inputs.current.publishedAddresses,
      (c.dispatched.host.state.Carries address ↔
        overrides.switchOffCluster = false
          ∨ (ClusterSettings.resolve c.inputs.current overrides).owns address = false) := by
  intro c hc address ha
  have haddresses := h.addresses_eq he c hc
  cases hoff : overrides.switchOffCluster with
  | false =>
      have henabled : EnabledIn Cluster.isDisabled (Loop.history path {} occasions) := by
        intro c hc
        rw [Cluster.isDisabled_eq, h.overrides_eq c hc, hoff]
      have hcluster := h.cluster_eq henabled c hc
      exact iff_of_true (HostState.carries_of_member haddresses hcluster ha) (.inl rfl)
  | true =>
      have hcluster := h.cluster_eq_none hoff c hc
      rw [HostState.carries_iff_of_no_membership haddresses hcluster ha]
      simp

end

/-- **When a published address is carried.** After every cycle of a run of the agent on a fresh
host whose cycles all read the same overrides and without injected failures, if the addresses
domain was not switched off so far, an address that the snapshot publishes is carried by the
machine or by the cluster of the host if and only if the overrides do not switch off the cluster
domain or the settings in force do not take charge of the address. -/
theorem published_address_carried_iff (path : String) (overrides : Overrides)
    (occasions : List Occasion) (hsteady : Steady path overrides occasions)
    {k : Nat} {o : Occasion} (ho : occasions[k]? = some o) :
    ∃ earlier done, (Loop.history path {} occasions).take (k + 1) = earlier ++ [done]
      ∧ done.inputs.current = o.snapshot
      ∧ (EnabledIn Addresses.isDisabled (earlier ++ [done]) →
          ∀ address ∈ o.snapshot.publishedAddresses,
            (done.dispatched.host.state.Carries address ↔
              overrides.switchOffCluster = false
                ∨ (ClusterSettings.resolve o.snapshot overrides).owns address = false)) := by
  obtain ⟨done, hdone, hcurrent, -⟩ := Loop.exists_getElem?_history path {} ho
  have hcycles : (Loop.history path {} occasions).take (k + 1)
      = (Loop.history path {} occasions).take k ++ [done] := by
    rw [List.take_add_one, hdone]
    rfl
  have hcarries := (hsteady.take (k + 1)).carries_iff
  rw [Loop.history_take, hcycles] at hcarries
  rw [← hcurrent]
  exact ⟨_, done, hcycles, rfl, fun he => hcarries he done List.mem_concat_self⟩

/-- An address that the settings take charge of is carried after an interruption by a snapshot
without content: the file sets a port only. -/
theorem published_address_carried_after_interruption :
    Steady "" portOverrides interruptedRun
      ∧ ∃ o earlier done, interruptedRun[3]? = some o
        ∧ (Loop.history "" {} interruptedRun).take 4 = earlier ++ [done]
        ∧ (ClusterSettings.resolve o.snapshot portOverrides).owns "10.0.0.1" = true
        ∧ done.dispatched.host.state.Carries "10.0.0.1" := by
  have hsteady : Steady "" portOverrides interruptedRun := by unfold Steady; decide +kernel
  have henabled : EnabledIn Addresses.isDisabled ((Loop.history "" {} interruptedRun).take 4) := by
    unfold EnabledIn
    decide +kernel
  obtain ⟨earlier, done, hcycles, -, hcarries⟩ :=
    published_address_carried_iff "" portOverrides interruptedRun hsteady (k := 3) rfl
  rw [hcycles] at henabled
  have hcarried := hcarries henabled "10.0.0.1" (by decide +kernel)
  refine ⟨hsteady, _, earlier, done, rfl, hcycles, by decide +kernel, hcarried.mpr (.inl ?_)⟩
  decide +kernel

/-- **An address that nobody carries.** The file switches the cluster domain off, so that the host
stays out of the cluster whose list the address is on, and the machine leaves it to that
cluster. -/
theorem published_address_not_carried :
    let done := Loop.cycle "" {} (memberCycle "[wsfc]\ndisable = true")
    Steady "" ((memberCycle "[wsfc]\ndisable = true").overrides "")
        [memberCycle "[wsfc]\ndisable = true"]
      ∧ EnabledIn Addresses.isDisabled (Loop.history "" {} [memberCycle "[wsfc]\ndisable = true"])
      ∧ "10.0.0.1" ∈ clusterMember.publishedAddresses
      ∧ ¬done.dispatched.host.state.Carries "10.0.0.1" := by
  unfold Steady EnabledIn
  decide +kernel

end HostAgent
