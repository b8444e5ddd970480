import HostAgent.Domain.Registry
import HostAgent.Proofs.Dispatch.Ownership

set_option autoImplicit false

/-! # Parts of the record of a host

Each domain of the agent is in charge of one part of what is recorded of a host. A `Part` is
such a part with the domain in charge: its switch, its question for changes, and the value that
its application gives to the part. An operation of another domain leaves the part alone, and so
does the count of mutations.

A cycle of the agent gives the part its desired value if the domain in charge is not switched
off, sees a change and is not made to fail; otherwise it leaves the part as it is
(`Part.view_dispatchIn`). This holds for every order in which the tasks take their turns.
-/

namespace HostAgent

/-- An operation changes the part of its own domain only. -/
theorem HostOperation.applyTo_frame (op : HostOperation) (s : HostState) :
    (op.domain ≠ "addresses" → (op.applyTo s).addresses = s.addresses)
      ∧ (op.domain ≠ "accounts" → (op.applyTo s).accounts = s.accounts)
      ∧ (op.domain ≠ "diagnostics" → (op.applyTo s).uploads = s.uploads)
      ∧ (op.domain ≠ "cluster" → (op.applyTo s).cluster = s.cluster)
      ∧ (op.applyTo s).mutations = s.mutations := by
  cases op with
  | addresses list => exact ⟨fun h => absurd rfl h, fun _ => rfl, fun _ => rfl, fun _ => rfl, rfl⟩
  | accounts keys => exact ⟨fun _ => rfl, fun h => absurd rfl h, fun _ => rfl, fun _ => rfl, rfl⟩
  | cluster settings =>
      exact ⟨fun _ => rfl, fun _ => rfl, fun _ => rfl, fun h => absurd rfl h, rfl⟩
  | diagnostics request =>
      simp only [applyTo]
      split
      · exact ⟨fun _ => rfl, fun _ => rfl, fun _ => rfl, fun _ => rfl, rfl⟩
      · exact ⟨fun _ => rfl, fun _ => rfl, fun h => absurd rfl h, fun _ => rfl, rfl⟩

namespace Host

/-- No operation changes which domains fail. -/
@[simp] theorem failing_perform (h : Host) (op : HostOperation) :
    (h.perform op).2.1.failing = h.failing := by
  simp only [perform]
  split
  · rfl
  · split <;> rfl

/-- What an operation makes of anything that the count of mutations does not occur in. -/
theorem view_perform {α : Type} {view : HostState → α}
    (hview : ∀ s n, view { s with mutations := n } = view s) (h : Host) (op : HostOperation) :
    view (h.perform op).2.1.state =
      if op.domain ∈ h.failing then view h.state else view (op.applyTo h.state) := by
  simp only [perform]
  by_cases hf : op.domain ∈ h.failing
  · rw [if_pos hf, if_pos hf]
  · rw [if_neg hf, if_neg hf]
    by_cases hn : op.applyTo h.state = h.state
    · rw [if_pos hn, hn]
    · rw [if_neg hn]
      exact hview _ _

@[simp] theorem host_attempt (h : Host) (op : HostOperation) :
    (h.attempt op).host = (h.perform op).2.1 := by
  simp only [attempt]
  split <;> simp_all

end Host

@[simp] theorem Attempt.host_after {H : Type} (a : Attempt H) (log : Log) :
    (a.after log).host = a.host := rfl

/-! ## Domains that perform one operation -/

/-- An application reaches the host by one operation of its own domain at most. -/
def Domain.Performs (d : Domain Host) : Prop :=
  ∀ h, (d.set h).host = h ∨ ∃ op : HostOperation, op.domain = d.name
    ∧ (d.set h).host = (h.perform op).2.1

theorem Diagnostics.performs_domain (i : Inputs Snapshot) : (Diagnostics.domain i).Performs := by
  intro h
  simp only [domain, apply]
  split
  · exact .inl rfl
  · split
    · exact .inl rfl
    · next request _ =>
      split
      · exact .inl rfl
      · exact .inr ⟨.diagnostics request, rfl, Host.host_attempt h _⟩

theorem Addresses.host_apply (i : Inputs Snapshot) (h : Host) :
    (Addresses.apply i h).host
      = (h.perform (.addresses (desiredAddresses i.current i.overrides))).2.1 := by
  rw [apply, Attempt.host_after, Host.host_attempt]

theorem Accounts.host_apply (i : Inputs Snapshot) (h : Host) :
    (Accounts.apply i h).host = (h.perform (.accounts
      (AccountKey.readAll ((Accounts.publishedKeys? i.current).getD "") i.now).1)).2.1 := by
  rw [apply]
  cases AccountKey.readAll ((Accounts.publishedKeys? i.current).getD "") i.now with
  | mk keys log => rw [Attempt.host_after, Host.host_attempt]

theorem Cluster.host_apply (i : Inputs Snapshot) (h : Host) :
    (Cluster.apply i h).host
      = (h.perform (.cluster (ClusterSettings.resolve i.current i.overrides))).2.1 := by
  rw [apply, Attempt.host_after, Host.host_attempt]

/-- What holds of the four domains of the agent holds of every instance in a cycle. -/
theorem Registry.forall_mem_agent {i : Inputs Snapshot} {P : Domain Host → Prop}
    (haddresses : P (Addresses.domain i)) (haccounts : P (Accounts.domain i))
    (hcluster : P (Cluster.domain i)) (hdiagnostics : P (Diagnostics.domain i)) :
    ∀ d ∈ Registry.agent.instantiate i, P d := by
  intro d hd
  simp only [instantiate, agent, List.map_cons, List.map_nil, List.mem_cons, List.not_mem_nil,
    or_false] at hd
  rcases hd with rfl | rfl | rfl | rfl
  · exact haddresses
  · exact haccounts
  · exact hcluster
  · exact hdiagnostics

theorem Registry.performs_of_mem_agent {i : Inputs Snapshot} :
    ∀ d ∈ Registry.agent.instantiate i, d.Performs := by
  refine forall_mem_agent ?_ ?_ ?_ ?_
  · exact fun h => .inr ⟨_, rfl, Addresses.host_apply i h⟩
  · exact fun h => .inr ⟨_, rfl, Accounts.host_apply i h⟩
  · exact fun h => .inr ⟨_, rfl, Cluster.host_apply i h⟩
  · exact Diagnostics.performs_domain i

theorem Registry.name_of_agent {i : Inputs Snapshot} {j : Nat} {d : Domain Host}
    (h : (Registry.agent.instantiate i)[j]? = some d) : Registry.agent.names[j]? = some d.name := by
  rcases j with _ | _ | _ | _ | j
  · cases h; rfl
  · cases h; rfl
  · cases h; rfl
  · cases h; rfl
  · cases h

theorem Registry.nodup_names_agent : Registry.agent.names.Nodup := by decide

theorem Domain.Performs.failing_set {d : Domain Host} (hd : d.Performs) (h : Host) :
    (d.set h).host.failing = h.failing := by
  rcases hd h with he | ⟨op, -, he⟩
  · rw [he]
  · rw [he, Host.failing_perform]

/-! ## Parts -/

/-- A part of the record of a host, and the domain of the agent that is in charge of it. -/
structure Part (α : Type) where
  view : HostState → α
  /-- The place of the domain in the order of registration. -/
  place : Nat
  domain : Inputs Snapshot → Domain Host
  isDisabled : Inputs Snapshot → Bool
  hasChanged : Inputs Snapshot → Bool
  /-- The value that the domain gives to the part. -/
  desired : Inputs Snapshot → α
  registered : ∀ i, (Registry.agent.instantiate i)[place]? = some (domain i)
  disabled_eq : ∀ i, (domain i).disabled = .ok (isDisabled i)
  diff_eq : ∀ i, (domain i).diff = .ok (hasChanged i)
  set_eq : ∀ i h, ∃ op : HostOperation, op.domain = (domain i).name
    ∧ ((domain i).set h).host = (h.perform op).2.1 ∧ ∀ s, view (op.applyTo s) = desired i
  view_mutations : ∀ s n, view { s with mutations := n } = view s
  view_applyTo : ∀ i (op : HostOperation) s, op.domain ≠ (domain i).name →
    view (op.applyTo s) = view s

namespace Part

variable {α : Type} (p : Part α)

/-- The name of the domain in charge. -/
def name (i : Inputs Snapshot) : String := (p.domain i).name

/-- Whether the domain in charge applies its configuration. -/
def applies (i : Inputs Snapshot) : Bool := !p.isDisabled i && p.hasChanged i

/-- The domain in charge owns its part, among the hosts on which the same domains fail. -/
theorem owns (i : Inputs Snapshot) (failing : List String) :
    Owns (Registry.agent.instantiate i) (fun h => h.failing = failing) (fun h => p.view h.state)
      p.place (p.domain i) fun v => if p.name i ∈ failing then v else p.desired i where
  owner := p.registered i
  kept _ he h hf := by rw [(Registry.performs_of_mem_agent _ he).failing_set, hf]
  owned h hf := by
    obtain ⟨op, hname, hset, hv⟩ := p.set_eq i h
    rw [hset, Host.view_perform p.view_mutations, hv, hname, hf, name]
  untouched j e he hj h _ := by
    -- names are distinct, so the operation of `e` is not one of the domain in charge
    have hne : e.name ≠ (p.domain i).name := by
      intro heq
      have hmine := Registry.name_of_agent (p.registered i)
      rw [← heq, ← Registry.name_of_agent he] at hmine
      have hlt := (List.getElem?_eq_some_iff.mp (Registry.name_of_agent he)).1
      exact hj ((List.getElem?_inj hlt Registry.nodup_names_agent).mp hmine.symm)
    rcases Registry.performs_of_mem_agent _ (List.mem_of_getElem? he) h with hs | ⟨op, hop, hs⟩
    · rw [hs]
    · rw [hs, Host.view_perform p.view_mutations, p.view_applyTo i op h.state (hop ▸ hne),
        ite_self]

theorem attempts_domain (i : Inputs Snapshot) : (p.domain i).attempts = p.applies i := by
  rw [Domain.attempts, p.disabled_eq, p.diff_eq]
  simp [answers, applies]

/-- **A cycle of the agent gives the part its desired value, or leaves it.** -/
theorem view_dispatchIn (i : Inputs Snapshot) (order : Interleaving (Registry.agent.instantiate i))
    (host : Host) (status : Dict Bool) (numbers : Nat → Nat) :
    p.view (dispatchIn order.turns (Registry.agent.instantiate i) host status numbers).host.state =
      if p.applies i = true ∧ p.name i ∉ host.failing then p.desired i else p.view host.state := by
  rw [((p.owns i host.failing).view_dispatchIn order rfl status numbers).2, attempts_domain]
  by_cases ha : p.applies i = true
  · by_cases hf : p.name i ∈ host.failing
    · rw [if_pos ha, if_pos hf, if_neg fun h => h.2 hf]
    · rw [if_pos ha, if_neg hf, if_pos ⟨ha, hf⟩]
  · rw [if_neg ha, if_neg fun h => ha h.1]

/-- The addresses of the host. -/
def addresses : Part (List String) where
  view := HostState.addresses
  place := 0
  domain := Addresses.domain
  isDisabled := Addresses.isDisabled
  hasChanged := Addresses.hasChanged
  desired i := desiredAddresses i.current i.overrides
  registered _ := rfl
  disabled_eq _ := rfl
  diff_eq _ := rfl
  set_eq i h := ⟨_, rfl, Addresses.host_apply i h, fun _ => rfl⟩
  view_mutations _ _ := rfl
  view_applyTo _ op s := (op.applyTo_frame s).1

/-- The accounts of the host. -/
def accounts : Part (List String) where
  view := HostState.accounts
  place := 1
  domain := Accounts.domain
  isDisabled := Accounts.isDisabled
  hasChanged := Accounts.hasChanged
  desired i := sortTexts ((AccountKey.readAll ((Accounts.publishedKeys? i.current).getD "")
    i.now).1.map (·.userName))
  registered _ := rfl
  disabled_eq _ := rfl
  diff_eq _ := rfl
  set_eq i h := ⟨_, rfl, Accounts.host_apply i h, fun s => by rw [HostOperation.applyTo]⟩
  view_mutations _ _ := rfl
  view_applyTo _ op s := (op.applyTo_frame s).2.1

/-- The cluster membership of the host. -/
def cluster : Part (Option ClusterSettings) where
  view := HostState.cluster
  place := 2
  domain := Cluster.domain
  isDisabled := Cluster.isDisabled
  hasChanged := Cluster.hasChanged
  desired i := some (ClusterSettings.resolve i.current i.overrides)
  registered _ := rfl
  disabled_eq _ := rfl
  diff_eq _ := rfl
  set_eq i h := ⟨_, rfl, Cluster.host_apply i h, fun _ => rfl⟩
  view_mutations _ _ := rfl
  view_applyTo _ op s := (op.applyTo_frame s).2.2.2.1

end Part

end HostAgent
