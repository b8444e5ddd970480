import HostAgent.Proofs.Watch.Loop

set_option autoImplicit false

/-! # Changes of the override file

The override file is read afresh for every cycle, but a domain compares the last snapshot and
the new one under the *same* file, the one read last. A change of the file is therefore no
change to a domain unless the two snapshots differ under it, or the last one had no content.
Where neither is the case the part of the host keeps the value that was applied last, under
whatever file was in force then, or the value of a fresh host if none was applied yet
(`Part.recorded`).

`up_to_date_iff` says exactly when a cycle leaves the addresses and the cluster membership up
to date with the file that it reads. That a domain takes part in the cycle is not enough:
`membership_not_joined` is a domain that was switched off, is switched on again, and is left
as it was.
-/

namespace HostAgent

namespace Part

variable {α : Type} (p : Part α)

/-- The inputs of the last of the cycles in which the domain in charge applied its
configuration. -/
def lastApplied? (cycles : List CycleDone) : Option (Inputs Snapshot) :=
  (cycles.map (·.inputs)).reverse.find? p.applies

/-- The value that a fresh host's part has after the given cycles, if none of them failed. -/
def recorded (cycles : List CycleDone) : α :=
  ((p.lastApplied? cycles).map p.desired).getD (p.view Host.fresh.state)

/-- The last application is the one of a later cycle, if there is one, and else that of the
first cycle, if it applied anything. -/
theorem lastApplied?_cons (c : CycleDone) (cycles : List CycleDone) :
    p.lastApplied? (c :: cycles) =
      (p.lastApplied? cycles).or (if p.applies c.inputs then some c.inputs else none) := by
  simp only [lastApplied?, List.map_cons, List.reverse_cons, List.find?_append,
    List.find?_singleton]

variable (path : String) {l : Loop}

/-- A part of a host without failures is as the last cycle that applied it left it. -/
theorem view_run {occasions : List Occasion} (hl : l.host.failing = [])
    (ho : ∀ o ∈ occasions, o.toggles = []) :
    p.view (Loop.run path l occasions).host.state =
      ((p.lastApplied? (Loop.history path l occasions)).map p.desired).getD
        (p.view l.host.state) := by
  induction occasions generalizing l with
  | nil => rfl
  | cons o occasions ih =>
      have ho' := ho o List.mem_cons_self
      have hrest := ih (Loop.failing_next path hl ho')
        fun o' h => ho o' (List.mem_cons_of_mem o h)
      show p.view (Loop.run path (l.next path o) occasions).host.state = _
      rw [hrest, Loop.history, lastApplied?_cons]
      cases p.lastApplied? (Loop.history path (l.next path o) occasions) with
      | some i => rfl
      | none =>
          -- nothing was applied since, so it is the first cycle that counts
          show p.view (l.cycle path o).dispatched.host.state = _
          rw [p.view_cycle_of_failing path hl ho']
          split <;> rfl

theorem view_run_fresh {occasions : List Occasion} (ho : ∀ o ∈ occasions, o.toggles = []) :
    p.view (Loop.run path {} occasions).host.state
      = p.recorded (Loop.history path {} occasions) :=
  p.view_run path rfl ho

/-- A cycle that its domain takes part in leaves the part up to date if the domain sees a
change, and otherwise if the part was up to date before. -/
theorem view_cycle_eq_desired_iff {o : Occasion} (hl : l.host.failing = [])
    (ho : o.toggles = []) (he : p.isDisabled (l.cycle path o).inputs = false) :
    p.view (l.cycle path o).dispatched.host.state = p.desired (l.cycle path o).inputs ↔
      p.hasChanged (l.cycle path o).inputs = true
        ∨ p.view l.host.state = p.desired (l.cycle path o).inputs := by
  rw [p.view_cycle_of_failing path hl ho, applies, he]
  cases hc : p.hasChanged (l.cycle path o).inputs <;> simp

end Part

/-- **When a cycle honours the override file that it reads.** After any cycles of the agent on a
fresh host without injected failures, under any override files, a domain that is not switched
off leaves its part of the host up to date with the snapshot and the file of the cycle if and
only if the last snapshot had no content, or the two snapshots differ in their desired values
under the new file, or the value applied last happens to be the one desired. -/
theorem up_to_date_iff (path : String) (earlier : List Occasion) (o : Occasion)
    (h : ∀ o' ∈ earlier ++ [o], o'.toggles = []) :
    let l := Loop.run path {} earlier
    let done := l.cycle path o
    let overrides := o.overrides path
    (Addresses.isDisabled done.inputs = false →
        (done.dispatched.host.state.addresses = desiredAddresses o.snapshot overrides ↔
          l.state.previous.isEmpty = true
            ∨ desiredAddresses l.state.previous overrides ≠ desiredAddresses o.snapshot overrides
            ∨ Part.addresses.recorded (Loop.history path {} earlier)
              = desiredAddresses o.snapshot overrides))
      ∧ (Cluster.isDisabled done.inputs = false →
        (done.dispatched.host.state.cluster
            = some (ClusterSettings.resolve o.snapshot overrides) ↔
          l.state.previous.isEmpty = true
            ∨ ClusterSettings.resolve l.state.previous overrides
              ≠ ClusterSettings.resolve o.snapshot overrides
            ∨ Part.cluster.recorded (Loop.history path {} earlier)
              = some (ClusterSettings.resolve o.snapshot overrides))) := by
  intro l done overrides
  have hearlier : ∀ o' ∈ earlier, o'.toggles = [] := fun o' h' => h o' (List.mem_append_left _ h')
  have ho : o.toggles = [] := h o List.mem_concat_self
  have hl : l.host.failing = [] := Loop.failing_run path rfl hearlier
  refine ⟨fun he => ?_, fun he => ?_⟩
  · have hiff := Part.addresses.view_cycle_eq_desired_iff path hl ho he
    rw [Part.addresses.view_run_fresh path hearlier] at hiff
    refine hiff.trans ?_
    simp only [Part.addresses, Addresses.hasChanged, Bool.or_eq_true, bne_iff_ne, or_assoc]
    rfl
  · have hiff := Part.cluster.view_cycle_eq_desired_iff path hl ho he
    rw [Part.cluster.view_run_fresh path hearlier] at hiff
    refine hiff.trans ?_
    simp only [Part.cluster, Cluster.hasChanged, Bool.or_eq_true, bne_iff_ne, or_assoc]
    rfl

/-- A machine with two addresses, one of which belongs to its cluster. -/
def clusterMember : Snapshot where
  machine := {
    attributes := Dict.ofList [("wsfc-addrs", "10.0.0.1")]
    interfaces := [{ forwardedIps := ["10.0.0.2", " 10.0.0.1 "] }] }

/-- A cycle for the same machine every time, with an override file of the given text. -/
def memberCycle (text : String) : Occasion where
  snapshot := clusterMember
  file := .bytes text.toUTF8.toList
  now := ⟨0, 0⟩

/-- Another port alone is not applied, while the addresses, which do not depend on it, are up to
date. -/
theorem up_to_date_iff_of_new_port :
    (∀ o ∈ [memberCycle "[wsfc]\nport = 7", memberCycle "[wsfc]\nport = 8"], o.toggles = [])
      ∧ ((Loop.run "" {} [memberCycle "[wsfc]\nport = 7"]).cycle ""
          (memberCycle "[wsfc]\nport = 8")).dispatched.host.state.addresses
        = desiredAddresses clusterMember (Overrides.ofEntries [⟨"wsfc", "port", "8"⟩])
      ∧ ((Loop.run "" {} [memberCycle "[wsfc]\nport = 7"]).cycle ""
          (memberCycle "[wsfc]\nport = 8")).dispatched.host.state.cluster
        ≠ some (ClusterSettings.resolve clusterMember
            (Overrides.ofEntries [⟨"wsfc", "port", "8"⟩])) := by
  have hfile : Overrides.ofEntries [⟨"wsfc", "port", "8"⟩]
      = (memberCycle "[wsfc]\nport = 8").overrides "" := by decide +kernel
  have h : ∀ o ∈ [memberCycle "[wsfc]\nport = 7", memberCycle "[wsfc]\nport = 8"],
      o.toggles = [] := by decide
  obtain ⟨haddresses, hcluster⟩ := up_to_date_iff "" [memberCycle "[wsfc]\nport = 7"]
    (memberCycle "[wsfc]\nport = 8") h
  rw [hfile]
  refine ⟨h, (haddresses (by decide +kernel)).mpr ?_, fun hup => ?_⟩
  · exact .inr (.inr (by decide +kernel))
  · rcases (hcluster (by decide +kernel)).mp hup with hempty | hne | hrecorded
    · exact absurd hempty (by decide +kernel)
    · exact hne (by decide +kernel)
    · exact absurd hrecorded (by decide +kernel)

/-- **A domain that is switched on again is not brought up to date.** Its first cycle was under a
file that switches it off, its second one, for the same snapshot, is under no such file. -/
theorem membership_not_joined :
    (memberCycle "[wsfc]\ndisable = true").overrides ""
        ≠ (memberCycle "").overrides ""
      ∧ Cluster.isDisabled ((Loop.run "" {} [memberCycle "[wsfc]\ndisable = true"]).cycle ""
          (memberCycle "")).inputs = false
      ∧ ((Loop.run "" {} [memberCycle "[wsfc]\ndisable = true"]).cycle ""
          (memberCycle "")).dispatched.host.state.cluster
        ≠ some (ClusterSettings.resolve clusterMember ((memberCycle "").overrides "")) := by
  decide +kernel

end HostAgent
