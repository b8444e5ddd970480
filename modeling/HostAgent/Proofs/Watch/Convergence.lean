import HostAgent.Proofs.Account.Key
import HostAgent.Proofs.Addresses
import HostAgent.Proofs.Watch.Loop

set_option autoImplicit false

/-! # Convergence of the host

A domain applies its configuration only in cycles in which it sees a change, and it sees one by
comparing two snapshots, not by looking at the host. The host is right all the same after every
cycle, as long as every cycle reads the same overrides and the domain is not switched off
(`host_eq_desired_of_enabled`).

That the override file stays as it is does not suffice. If names of the file differ only in case,
each reading picks one of them, and a domain does not see that it was another one than before
(`host_left_behind_by_reading`).

The invariant that carries this is `Part.Settled`: once a snapshot with content was seen, the
part has the value wanted for the last snapshot. A cycle keeps it if its domain is `Attentive`,
that is, if it sees a change whenever the value wanted changes. The snapshot without content
needs no exception: after it every cycle is a change.
-/

namespace HostAgent

namespace Part

variable {α : Type} (p : Part α)

/-- Once a snapshot with content was seen, the part has the value wanted for the last one. -/
def Settled (want : Snapshot → α) (l : Loop) : Prop :=
  l.state.previous.isEmpty = false → p.view l.host.state = want l.state.previous

/-- The domain in charge is not switched off, gives the value wanted for the snapshot, and
overlooks no change of that value. -/
structure Attentive (want : Snapshot → α) (i : Inputs Snapshot) : Prop where
  enabled : p.isDisabled i = false
  desired_eq : p.desired i = want i.current
  of_unchanged : p.hasChanged i = false →
    i.previous.isEmpty = false ∧ want i.previous = want i.current

theorem settled_fresh {want : Snapshot → α} : p.Settled want {} := fun h => nomatch h

variable {p} {want : Snapshot → α} {path : String} {l : Loop}

theorem Attentive.view_cycle {o : Occasion} (ha : p.Attentive want (l.cycle path o).inputs)
    (hl : l.host.failing = []) (ho : o.toggles = []) (hs : p.Settled want l) :
    p.view (l.cycle path o).dispatched.host.state = want o.snapshot := by
  rw [p.view_cycle_of_failing path hl ho, applies, ha.enabled]
  by_cases hc : p.hasChanged (l.cycle path o).inputs = true
  · rw [hc]
    exact ha.desired_eq
  · -- nothing is applied, but the value wanted is still the one of the last snapshot
    rw [Bool.not_eq_true] at hc
    obtain ⟨hne, heq⟩ := ha.of_unchanged hc
    rw [hc]
    exact (hs hne).trans heq

theorem Attentive.settled_next {o : Occasion} (ha : p.Attentive want (l.cycle path o).inputs)
    (hl : l.host.failing = []) (ho : o.toggles = []) (hs : p.Settled want l) :
    p.Settled want (l.next path o) :=
  fun _ => ha.view_cycle hl ho hs

/-- In a run of attentive cycles the part has the value wanted after each of them. -/
theorem view_of_mem_history {occasions : List Occasion} (hl : l.host.failing = [])
    (ho : ∀ o ∈ occasions, o.toggles = []) (hs : p.Settled want l)
    (ha : ∀ c ∈ Loop.history path l occasions, p.Attentive want c.inputs) :
    ∀ c ∈ Loop.history path l occasions, p.view c.dispatched.host.state
      = want c.inputs.current := by
  induction occasions generalizing l with
  | nil => exact fun c hc => nomatch hc
  | cons o occasions ih =>
      have hfirst := ha _ List.mem_cons_self
      have ho' := ho o List.mem_cons_self
      intro c hc
      rcases List.mem_cons.mp hc with rfl | hc
      · exact hfirst.view_cycle hl ho' hs
      · exact ih (Loop.failing_next path hl ho') (fun o' h => ho o' (List.mem_cons_of_mem o h))
          (hfirst.settled_next hl ho' hs) (fun c h => ha c (List.mem_cons_of_mem _ h)) c hc

end Part

/-! ## The parts of the agent -/

/-- A domain is not switched off in any of the cycles. -/
def EnabledIn (isDisabled : Inputs Snapshot → Bool) (cycles : List CycleDone) : Prop :=
  ∀ c ∈ cycles, isDisabled c.inputs = false

/-- No expiry instant that is published in one of the cycles falls between their readings of
the clock: each is before all of the readings or before none. -/
def ExpiresNothing (cycles : List CycleDone) : Prop :=
  ∀ c ∈ cycles, ∀ t ∈ AccountKey.expiries ((Accounts.publishedKeys? c.inputs.current).getD ""),
    ∀ a ∈ cycles, ∀ b ∈ cycles, t.before a.inputs.now = t.before b.inputs.now

/-- The names of the accounts that a snapshot publishes at a reading of the clock. -/
def Snapshot.accountNames (s : Snapshot) (now : Instant) : List String :=
  (AccountKey.readAll ((Accounts.publishedKeys? s).getD "") now).1.map (·.userName)

theorem Part.desired_accounts (i : Inputs Snapshot) :
    Part.accounts.desired i = i.current.accountNames i.now := by
  have h : Part.accounts.desired i = sortTexts (i.current.accountNames i.now) := by
    rw [Part.accounts, Snapshot.accountNames]
  rw [h, sortTexts_eq_self]
  exact AccountKey.pairwise_map_userName_readAll _ _

namespace Loop

/-- What the cycles of a run read in common are the overrides of all of them. -/
theorem overrides_of_mem_history {path : String} {overrides : Overrides} {l : Loop}
    {occasions : List Occasion} (h : ∀ o ∈ occasions, o.overrides path = overrides) :
    ∀ c ∈ history path l occasions, c.inputs.overrides = overrides := by
  induction occasions generalizing l with
  | nil => exact fun c hc => nomatch hc
  | cons o occasions ih =>
      intro c hc
      rcases List.mem_cons.mp hc with rfl | hc
      · rw [inputs_cycle, h o List.mem_cons_self]
      · exact ih (fun o' ho' => h o' (List.mem_cons_of_mem o ho')) c hc

theorem exists_getElem?_history (path : String) (l : Loop) {occasions : List Occasion} {k : Nat}
    {o : Occasion} (h : occasions[k]? = some o) :
    ∃ done, (history path l occasions)[k]? = some done ∧ done.inputs.current = o.snapshot
      ∧ done.inputs.now = o.now := by
  induction occasions generalizing l k with
  | nil => cases h
  | cons o' occasions ih =>
      cases k with
      | zero =>
          obtain rfl : o' = o := Option.some.inj h
          exact ⟨_, rfl, rfl, rfl⟩
      | succ k => exact ih _ h

end Loop

section

variable {path : String} {overrides : Overrides} {occasions : List Occasion}

/-- All cycles read the same overrides, and no failures are injected. -/
def Steady (path : String) (overrides : Overrides) (occasions : List Occasion) : Prop :=
  ∀ o ∈ occasions, o.overrides path = overrides ∧ o.toggles = []

theorem Steady.take (h : Steady path overrides occasions) (k : Nat) :
    Steady path overrides (occasions.take k) :=
  fun o ho => h o (List.mem_of_mem_take ho)

theorem Steady.overrides_eq (h : Steady path overrides occasions) :
    ∀ c ∈ Loop.history path {} occasions, c.inputs.overrides = overrides :=
  Loop.overrides_of_mem_history fun o ho => (h o ho).1

/-- In a steady run of attentive cycles the part has the value wanted after each of them. -/
theorem Steady.view_eq {α : Type} (h : Steady path overrides occasions) (p : Part α)
    (want : Snapshot → α)
    (ha : ∀ c ∈ Loop.history path {} occasions, p.Attentive want c.inputs) :
    ∀ c ∈ Loop.history path {} occasions, p.view c.dispatched.host.state = want c.inputs.current :=
  Part.view_of_mem_history rfl (fun o ho => (h o ho).2) p.settled_fresh ha

theorem Steady.addresses_eq (h : Steady path overrides occasions)
    (he : EnabledIn Addresses.isDisabled (Loop.history path {} occasions)) :
    ∀ c ∈ Loop.history path {} occasions, c.dispatched.host.state.addresses
      = desiredAddresses c.inputs.current overrides := by
  refine h.view_eq .addresses (desiredAddresses · _) fun c hc => ?_
  have ho := h.overrides_eq c hc
  refine ⟨he c hc, congrArg (desiredAddresses _ ·) ho, fun hch => ?_⟩
  simpa only [Part.addresses, Addresses.hasChanged, Bool.or_eq_false_iff, bne_eq_false_iff_eq,
    ho] using hch

theorem Steady.cluster_eq (h : Steady path overrides occasions)
    (he : EnabledIn Cluster.isDisabled (Loop.history path {} occasions)) :
    ∀ c ∈ Loop.history path {} occasions, c.dispatched.host.state.cluster
      = some (ClusterSettings.resolve c.inputs.current overrides) := by
  refine h.view_eq .cluster (some <| ClusterSettings.resolve · _) fun c hc => ?_
  have ho := h.overrides_eq c hc
  refine ⟨he c hc, congrArg (some <| ClusterSettings.resolve _ ·) ho, fun hch => ?_⟩
  simp only [Part.cluster, Cluster.hasChanged, Bool.or_eq_false_iff, bne_eq_false_iff_eq,
    ho] at hch
  exact ⟨hch.1, congrArg some hch.2⟩

/-- Where nothing expires, the names wanted are the same at every reading of the clock. -/
theorem Steady.accounts_eq (h : Steady path overrides occasions)
    (he : EnabledIn Accounts.isDisabled (Loop.history path {} occasions))
    (hq : ExpiresNothing (Loop.history path {} occasions)) :
    ∀ c ∈ Loop.history path {} occasions, c.dispatched.host.state.accounts
      = c.inputs.current.accountNames c.inputs.now := by
  intro last hlast
  refine h.view_eq .accounts (·.accountNames last.inputs.now) (fun c hc => ?_)
    last hlast
  refine ⟨he c hc, ?_, fun hch => ?_⟩
  · rw [Part.desired_accounts, Snapshot.accountNames,
      AccountKey.fst_readAll_congr fun t ht => hq c hc t ht c hc last hlast]
    rfl
  · simp only [Part.accounts, Accounts.hasChanged, Bool.or_eq_false_iff,
      bne_eq_false_iff_eq] at hch
    refine ⟨hch.1, ?_⟩
    simp only [Snapshot.accountNames, hch.2]

end

/-- The machine carries the published addresses that an enabled cluster does not list. -/
theorem mem_desiredAddresses_of_enabled {s : Snapshot} {overrides : Overrides}
    (h : (ClusterSettings.resolve s overrides).enabled = true) (a : String) :
    a ∈ desiredAddresses s overrides ↔
      a ∈ s.publishedAddresses ∧ a ∉ (ClusterSettings.resolve s overrides).addresses := by
  rw [mem_desiredAddresses_iff, ClusterSettings.owns_eq_true_iff, and_iff_right h]

/-- **After every cycle the host is as the snapshot and the overrides want it**, although most
cycles apply nothing. This holds of every run of the agent on a fresh host whose cycles all read the
same overrides and without injected failures, for the addresses, the cluster membership and the
accounts each as long as its domain was not switched off so far; for the accounts also no expiry may
have passed since the first cycle. In an enabled cluster the machine then carries exactly the
published addresses that the cluster does not list. -/
theorem host_eq_desired_of_enabled (path : String) (overrides : Overrides)
    (occasions : List Occasion) (hsteady : Steady path overrides occasions)
    {k : Nat} {o : Occasion} (ho : occasions[k]? = some o) :
    ∃ earlier done, (Loop.history path {} occasions).take (k + 1) = earlier ++ [done]
      ∧ done.inputs.current = o.snapshot ∧ done.inputs.now = o.now
      ∧ (EnabledIn Addresses.isDisabled (earlier ++ [done]) →
          done.dispatched.host.state.addresses
            = desiredAddresses o.snapshot overrides)
      ∧ (EnabledIn Cluster.isDisabled (earlier ++ [done]) →
          done.dispatched.host.state.cluster
            = some (ClusterSettings.resolve o.snapshot overrides))
      ∧ (EnabledIn Accounts.isDisabled (earlier ++ [done]) → ExpiresNothing (earlier ++ [done]) →
          done.dispatched.host.state.accounts = o.snapshot.accountNames o.now)
      ∧ (EnabledIn Addresses.isDisabled (earlier ++ [done]) →
          EnabledIn Cluster.isDisabled (earlier ++ [done]) →
          ∀ membership, done.dispatched.host.state.cluster = some membership →
            membership.enabled = true →
            ∀ a, a ∈ done.dispatched.host.state.addresses ↔
              a ∈ o.snapshot.publishedAddresses ∧ a ∉ membership.addresses) := by
  obtain ⟨done, hdone, hcurrent, hnow⟩ := Loop.exists_getElem?_history path {} ho
  have hcycles : (Loop.history path {} occasions).take (k + 1)
      = (Loop.history path {} occasions).take k ++ [done] := by
    rw [List.take_add_one, hdone]
    rfl
  have hlast : done ∈ (Loop.history path {} occasions).take k ++ [done] := List.mem_concat_self
  have hrun := hsteady.take (k + 1)
  have haddresses := hrun.addresses_eq
  have hcluster := hrun.cluster_eq
  have haccounts := hrun.accounts_eq
  rw [Loop.history_take, hcycles] at haddresses hcluster haccounts
  rw [← hcurrent, ← hnow]
  refine ⟨_, done, hcycles, rfl, rfl, (haddresses · done hlast), (hcluster · done hlast),
    (haccounts · · done hlast), fun ha hc membership hm henabled a => ?_⟩
  -- both parts are known, and so is the membership on the host
  obtain rfl := Option.some.inj ((hcluster hc done hlast).symm.trans hm)
  rw [haddresses ha done hlast]
  exact mem_desiredAddresses_of_enabled henabled a

/-- A machine in a cluster, with an account that expires in 2030. -/
def memberWithAccount : Snapshot where
  machine := {
    attributes := Dict.ofList [("wsfc-addrs", "10.0.0.1"),
      ("windows-keys", "\x7b\"userName\":\"ann\",\"modulus\":\"m\",\"exponent\":\"e\","
        ++ "\"expireOn\":\"2030-01-01T00:00:00Z\"\x7d")]
    interfaces := [{ forwardedIps := ["10.0.0.2", " 10.0.0.1 "] }] }

/-- An override file that sets the port of the cluster. -/
def portFile : FileContents := .bytes "[wsfc]\nport = 7".toUTF8.toList

/-- The overrides that this file holds. -/
def portOverrides : Overrides := Overrides.ofEntries [⟨"wsfc", "port", "7"⟩]

/-- The snapshot without content comes between cycles for one machine, and of the last two
cycles the second one is for the same snapshot as the first; its tasks run backwards, and the file
is listed in another order. -/
def interruptedRun : List Occasion := [
  { snapshot := memberWithAccount, file := portFile, now := ⟨0, 0⟩ },
  { snapshot := Snapshot.empty, file := portFile, now := ⟨60, 0⟩ },
  { snapshot := memberWithAccount, file := portFile, now := ⟨120, 0⟩ },
  { snapshot := memberWithAccount, file := portFile, now := ⟨180, 0⟩,
    order := fun domains => (Interleaving.scheduled domains).reversed
    walk := { names := String.length, groups := String.length } }]

theorem host_eq_desired_after_interruption :
    Steady "" portOverrides interruptedRun
      ∧ ∃ o earlier done, interruptedRun[3]? = some o
        ∧ (Loop.history "" {} interruptedRun).take 4 = earlier ++ [done]
        ∧ done.dispatched.host.state.addresses = ["10.0.0.2"]
        ∧ done.dispatched.host.state.cluster = some ⟨true, ["10.0.0.1"], 7⟩
        ∧ done.dispatched.host.state.accounts = ["ann"] := by
  have hsteady : Steady "" portOverrides interruptedRun := by unfold Steady; decide +kernel
  obtain ⟨earlier, done, hcycles, -, -, haddresses, hcluster, haccounts, -⟩ :=
    host_eq_desired_of_enabled "" portOverrides interruptedRun hsteady (k := 3) rfl
  rw [← hcycles] at haddresses hcluster haccounts
  refine ⟨hsteady, _, earlier, done, rfl, hcycles, ?_, ?_, ?_⟩
  · rw [haddresses (by unfold EnabledIn; decide +kernel)]
    decide +kernel
  · rw [hcluster (by unfold EnabledIn; decide +kernel)]
    decide +kernel
  · rw [haccounts (by unfold EnabledIn; decide +kernel) (by unfold ExpiresNothing; decide +kernel)]
    decide +kernel

/-- Two cycles for one snapshot and one file. Of its two groups each cycle lists another one
last. -/
def twoReadings : List Occasion := [
  { snapshot := memberWithAccount, file := twoPortsFile, now := ⟨0, 0⟩ },
  { snapshot := memberWithAccount, file := twoPortsFile, now := ⟨60, 0⟩,
    walk := capitalsLast }]

/-- **A file that stays as it is may leave the host behind.** In the second cycle the other one of
two ports is in force, but the domain sees no change and the host keeps the port of the first. -/
theorem host_left_behind_by_reading :
    ¬∀ (path : String) (file : FileContents) (occasions : List Occasion),
      (∀ o ∈ occasions, o.file = file ∧ o.toggles = []) →
        EnabledIn Cluster.isDisabled (Loop.history path {} occasions) →
          ∀ c ∈ Loop.history path {} occasions, c.dispatched.host.state.cluster
            = some (ClusterSettings.resolve c.inputs.current c.inputs.overrides) := by
  intro h
  have hall := h "" twoPortsFile twoReadings (by decide +kernel)
    (by unfold EnabledIn; decide +kernel)
  revert hall
  decide +kernel

end HostAgent
