import HostAgent.Proofs.Addresses
import HostAgent.Proofs.Host.Operations

set_option autoImplicit false

/-! # What the agent reads of a snapshot

A snapshot is full of things that do not concern the agent: the identity of the machine, its
hardware addresses, how the published addresses are spread over the interfaces, attributes for
other programs. Two snapshots are alike (`Snapshot.Alike`) if they publish the same set of
addresses and have the same values for the attributes that the agent reads, on the machine and on
the project.

For alike snapshots the domains of a cycle are the same (`Registry.instantiate_of_alike`), hence
its outcomes, its calls and what it does to the host. Two runs over alike snapshots therefore go
the same way in every cycle if they read the same overrides in it (`churn_is_invisible`). That they
have the same file is not enough (`churn_seen_through_reading`).
-/

namespace HostAgent

/-- The attributes that the domains of the agent read. -/
def attributesRead : List String :=
  ["windows-keys", "diagnostics", "wsfc-addrs", "wsfc-agent-port", "enable-wsfc",
    "enable-diagnostics", "disable-address-manager", "disable-account-manager"]

/-- Two snapshots agree on all that the agent reads. -/
structure Snapshot.Alike (s t : Snapshot) : Prop where
  content : s.isEmpty = t.isEmpty
  addresses : ∀ a, a ∈ s.publishedAddresses ↔ a ∈ t.publishedAddresses
  machine : ∀ name ∈ attributesRead,
    s.machine.attributes.get? name = t.machine.attributes.get? name
  project : ∀ name ∈ attributesRead,
    s.project.attributes.get? name = t.project.attributes.get? name

namespace Snapshot.Alike

variable {s t : Snapshot} {name : String}

theorem refl (s : Snapshot) : s.Alike s where
  content := rfl
  addresses _ := Iff.rfl
  machine _ _ := rfl
  project _ _ := rfl

theorem attribute?_eq (h : s.Alike t) (hname : name ∈ attributesRead) :
    s.attribute? name = t.attribute? name := by
  rw [attribute?, attribute?, h.machine name hname, h.project name hname]

theorem switch?_eq (h : s.Alike t) (hname : name ∈ attributesRead) :
    s.switch? name = t.switch? name := by
  rw [switch?, switch?, h.machine name hname, h.project name hname]

/-- They make the same cluster membership. -/
theorem resolve_eq (h : s.Alike t) (overrides : Overrides) :
    ClusterSettings.resolve s overrides = ClusterSettings.resolve t overrides := by
  have haddresses : s.attribute? "wsfc-addrs" = t.attribute? "wsfc-addrs" :=
    h.attribute?_eq (by decide)
  have hport : s.attribute? "wsfc-agent-port" = t.attribute? "wsfc-agent-port" :=
    h.attribute?_eq (by decide)
  have henabled : s.switch? "enable-wsfc" = t.switch? "enable-wsfc" := h.switch?_eq (by decide)
  rw [ClusterSettings.resolve, ClusterSettings.resolve, haddresses, hport, henabled]

/-- They leave the same addresses to the machine, in the same order. -/
theorem desiredAddresses_eq (h : s.Alike t) (overrides : Overrides) :
    desiredAddresses s overrides = desiredAddresses t overrides :=
  desiredAddresses_congr (h.resolve_eq overrides) h.addresses

theorem publishedKeys?_eq (h : s.Alike t) :
    Accounts.publishedKeys? s = Accounts.publishedKeys? t :=
  h.attribute?_eq (by decide)

theorem publishedRequest?_eq (h : s.Alike t) :
    DiagnosticsRequest.published? s = DiagnosticsRequest.published? t := by
  have hattribute : s.attribute? "diagnostics" = t.attribute? "diagnostics" :=
    h.attribute?_eq (by decide)
  rw [DiagnosticsRequest.published?, DiagnosticsRequest.published?, hattribute]

end Snapshot.Alike

/-! ## Cycles for alike snapshots -/

/-- Cycles for alike snapshots after alike snapshots, all else being equal. -/
structure Inputs.Alike (i j : Inputs Snapshot) : Prop where
  previous : i.previous.Alike j.previous
  current : i.current.Alike j.current
  overrides : i.overrides = j.overrides
  now : i.now = j.now

namespace Inputs.Alike

variable {i j : Inputs Snapshot}

theorem addresses_eq (h : i.Alike j) : Addresses.domain i = Addresses.domain j := by
  have hdisabled : Addresses.isDisabled i = Addresses.isDisabled j := by
    unfold Addresses.isDisabled
    rw [h.overrides, h.current.switch?_eq (by decide)]
  have hchanged : Addresses.hasChanged i = Addresses.hasChanged j := by
    unfold Addresses.hasChanged
    rw [h.previous.content, h.overrides, h.previous.desiredAddresses_eq,
      h.current.desiredAddresses_eq]
  have hset : Addresses.apply i = Addresses.apply j := by
    unfold Addresses.apply
    rw [h.overrides, h.current.desiredAddresses_eq]
  rw [Addresses.domain, Addresses.domain, hdisabled, hchanged, hset]

theorem accounts_eq (h : i.Alike j) : Accounts.domain i = Accounts.domain j := by
  have hdisabled : Accounts.isDisabled i = Accounts.isDisabled j := by
    unfold Accounts.isDisabled
    rw [h.overrides, h.current.switch?_eq (by decide)]
  have hchanged : Accounts.hasChanged i = Accounts.hasChanged j := by
    unfold Accounts.hasChanged
    rw [h.previous.content, h.previous.publishedKeys?_eq, h.current.publishedKeys?_eq]
  have hset : Accounts.apply i = Accounts.apply j := by
    unfold Accounts.apply
    rw [h.now, h.current.publishedKeys?_eq]
  rw [Accounts.domain, Accounts.domain, hdisabled, hchanged, hset]

theorem cluster_eq (h : i.Alike j) : Cluster.domain i = Cluster.domain j := by
  have hdisabled : Cluster.isDisabled i = Cluster.isDisabled j := by
    unfold Cluster.isDisabled
    rw [h.overrides]
  have hchanged : Cluster.hasChanged i = Cluster.hasChanged j := by
    unfold Cluster.hasChanged
    rw [h.previous.content, h.overrides, h.previous.resolve_eq, h.current.resolve_eq]
  have hset : Cluster.apply i = Cluster.apply j := by
    unfold Cluster.apply
    rw [h.overrides, h.current.resolve_eq]
  rw [Cluster.domain, Cluster.domain, hdisabled, hchanged, hset]

theorem diagnostics_eq (h : i.Alike j) : Diagnostics.domain i = Diagnostics.domain j := by
  have hdisabled : Diagnostics.isDisabled i = Diagnostics.isDisabled j := by
    unfold Diagnostics.isDisabled
    rw [h.overrides, h.current.switch?_eq (by decide)]
  have hchanged : Diagnostics.hasChanged i = Diagnostics.hasChanged j := by
    unfold Diagnostics.hasChanged
    rw [h.previous.publishedRequest?_eq, h.current.publishedRequest?_eq]
  have hset : Diagnostics.apply i = Diagnostics.apply j := by
    unfold Diagnostics.apply
    rw [h.now, h.current.publishedRequest?_eq]
  rw [Diagnostics.domain, Diagnostics.domain, hdisabled, hchanged, hset]

end Inputs.Alike

/-- **For alike snapshots the domains of a cycle are the same.** -/
theorem Registry.instantiate_of_alike {i j : Inputs Snapshot} (h : i.Alike j) :
    Registry.agent.instantiate i = Registry.agent.instantiate j := by
  simp only [instantiate, agent, List.map_cons, List.map_nil, h.addresses_eq, h.accounts_eq,
    h.cluster_eq, h.diagnostics_eq]

/-! ## Runs over alike snapshots -/

/-- Two cycles meet alike snapshots and override files that are read alike, and all else the same;
only the tasks may take their turns in other orders and have other numbers.

That the two files are one is not enough if its names differ only in case, for then each cycle may
read something else. -/
structure Occasion.Alike (path : String) (o o' : Occasion) : Prop where
  snapshot : o.snapshot.Alike o'.snapshot
  overrides : o.overrides path = o'.overrides path
  toggles : o.toggles = o'.toggles
  now : o.now = o'.now

/-- What a cycle shows of itself: the outcomes of its domains, how often each of their calls was
made, and the host after it. -/
def CycleDone.effect (c : CycleDone) : List (String × Outcome) × List Calls × Host :=
  (c.dispatched.report.outcomes, c.dispatched.calls, c.dispatched.host)

/-- Two loops that work on equal hosts and have seen alike snapshots last. -/
structure Loop.Alike (l l' : Loop) : Prop where
  previous : l.state.previous.Alike l'.state.previous
  host : l.host = l'.host

namespace Loop.Alike

variable {path : String} {l l' : Loop} {o o' : Occasion}

theorem inputs_cycle (h : l.Alike l') (ho : o.Alike path o') :
    (l.cycle path o).inputs.Alike (l'.cycle path o').inputs where
  previous := h.previous
  current := ho.snapshot
  overrides := ho.overrides
  now := ho.now

theorem hostAt_eq (h : l.Alike l') (ho : o.Alike path o') : l.hostAt o = l'.hostAt o' := by
  rw [hostAt, hostAt, h.host, ho.toggles]

theorem effect_cycle (h : l.Alike l') (ho : o.Alike path o') :
    (l.cycle path o).effect = (l'.cycle path o').effect := by
  have hdomains := Registry.instantiate_of_alike (h.inputs_cycle ho)
  have houtcomes : (l.cycle path o).dispatched.report.outcomes
      = (l'.cycle path o').dispatched.report.outcomes := by
    rw [outcomes_cycle, outcomes_cycle, hdomains, h.hostAt_eq ho,
      Registry.outcomes_congr _ o.numbers o'.numbers]
  have hcalls : (l.cycle path o).dispatched.calls = (l'.cycle path o').dispatched.calls := by
    rw [calls_cycle, calls_cycle, hdomains]
  have hhost : (l.cycle path o).dispatched.host = (l'.cycle path o').dispatched.host := by
    rw [host_cycle_eq_foldl, host_cycle_eq_foldl, hdomains, h.hostAt_eq ho]
  rw [CycleDone.effect, CycleDone.effect, houtcomes, hcalls, hhost]

theorem next (h : l.Alike l') (ho : o.Alike path o') :
    (l.next path o).Alike (l'.next path o') where
  previous := ho.snapshot
  host := congrArg (fun effect => effect.2.2) (h.effect_cycle ho)

theorem effects_history {occasions occasions' : List Occasion} (h : l.Alike l')
    (ho : List.Forall₂ (Occasion.Alike path) occasions occasions') :
    (history path l occasions).map CycleDone.effect
      = (history path l' occasions').map CycleDone.effect := by
  induction ho generalizing l l' with
  | nil => rfl
  | cons hfirst hrest ih =>
      rw [history, history, List.map_cons, List.map_cons, h.effect_cycle hfirst, ih (h.next hfirst)]

end Loop.Alike

/-- **Unrelated churn is invisible.** Two runs of the agent, each on a fresh host, read the same
overrides and meet the same failures and readings of the clock, and snapshots that are alike, cycle
by cycle. Then in every cycle the domains have the same outcomes, each of their calls is made as
often, and the host is the same, its count of mutations included. -/
theorem churn_is_invisible (path : String) {occasions occasions' : List Occasion}
    (h : List.Forall₂ (Occasion.Alike path) occasions occasions') :
    (Loop.history path {} occasions).map CycleDone.effect
      = (Loop.history path {} occasions').map CycleDone.effect := by
  have hstart : ({} : Loop).Alike {} := ⟨Snapshot.Alike.refl _, rfl⟩
  exact hstart.effects_history h

/-- A machine with two addresses on one interface, as its metadata describe it. -/
def describedMachine : Snapshot where
  machine := {
    id := 7
    hostname := "web-1"
    attributes := Dict.ofList [("wsfc-addrs", "10.0.0.1"), ("startup-script", "echo up")]
    interfaces := [{ mac := "42:01", forwardedIps := ["10.0.0.2", " 10.0.0.1 "] }] }
  project := { projectId := "shop", attributes := Dict.ofList [("enable-diagnostics", "true")] }

/-- The machine after a move: another identity, the addresses on two interfaces, in other lists
and in another order, and other attributes besides. -/
def movedMachine : Snapshot where
  machine := {
    id := 8
    hostname := "web-2"
    attributes := Dict.ofList [("wsfc-addrs", "10.0.0.1"), ("shutdown-script", "echo down")]
    interfaces := [{ mac := "42:02", ipAliases := ["10.0.0.1", ""] },
      { targetInstanceIps := ["10.0.0.2"], forwardedIps := ["10.0.0.1"] }] }
  project := { projectId := "shop", attributes := Dict.ofList [("enable-diagnostics", "true")] }

theorem describedMachine_alike : describedMachine.Alike movedMachine where
  content := by decide +kernel
  addresses a := by
    have hsorted : sortDistinct describedMachine.publishedAddresses
        = sortDistinct movedMachine.publishedAddresses := by decide +kernel
    rw [← mem_sortDistinct, hsorted, mem_sortDistinct]
  machine := by decide +kernel
  project := by decide +kernel

/-- A cycle in which the addresses are refused, and a later one, whose override file is listed in
the given order. -/
def refusedThen (later : Snapshot) (walk : Ini.Walk) : List Occasion := [
  { snapshot := describedMachine, toggles := [("addresses", true)], now := ⟨0, 0⟩ },
  { snapshot := later, file := .bytes "[wsfc]\nport = 7\n[x]\ny = 1".toUTF8.toList, walk
    toggles := [("addresses", false)], now := ⟨60, 0⟩ }]

/-- Shorter names first. -/
def shortNamesFirst : Ini.Walk := { names := String.length, groups := String.length }

/-- The move of the machine does not show: the cycle after it is as if nothing had happened. -/
theorem churn_is_invisible_of_move :
    let stays := refusedThen describedMachine {}
    let moves := refusedThen movedMachine shortNamesFirst
    List.Forall₂ (Occasion.Alike "") stays moves
      ∧ ((Loop.history "" {} moves).map CycleDone.effect).length = 2
      ∧ (Loop.history "" {} stays).map CycleDone.effect
        = (Loop.history "" {} moves).map CycleDone.effect := by
  intro stays moves
  have halike : List.Forall₂ (Occasion.Alike "") stays moves := by
    refine .cons ?_ (.cons ?_ .nil)
    · exact ⟨Snapshot.Alike.refl _, rfl, rfl, rfl⟩
    · exact ⟨describedMachine_alike, by decide +kernel, rfl, rfl⟩
  exact ⟨halike, rfl, churn_is_invisible "" halike⟩

/-- A cycle for a machine under the file that gives two ports. -/
def portRead (s : Snapshot) (walk : Ini.Walk) : Occasion :=
  { snapshot := s, file := twoPortsFile, now := ⟨0, 0⟩, walk }

/-- **Under one file the move of the machine may seem to show**, for each run reads another port. -/
theorem churn_seen_through_reading :
    ¬∀ o o' : Occasion, o.snapshot.Alike o'.snapshot → o.file = o'.file → o.toggles = o'.toggles →
      o.now = o'.now → (({} : Loop).cycle "" o).effect = (({} : Loop).cycle "" o').effect := by
  intro h
  have heffects := h (portRead describedMachine {}) (portRead movedMachine capitalsLast)
    describedMachine_alike rfl rfl rfl
  have hclusters := congrArg (fun effect => effect.2.2.state.cluster) heffects
  revert hclusters
  decide +kernel

end HostAgent
