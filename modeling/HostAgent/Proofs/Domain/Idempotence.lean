import HostAgent.Proofs.Account.Key
import HostAgent.Proofs.Host.Fields

set_option autoImplicit false

/-! # Applying a configuration again

An application of a domain of the agent comes down to a plan, which is made from the inputs
before the host is touched: the application ends at once, or it performs one operation
(`Factory.Follows`). Every call reads the clock anew, but as long as no published expiry passes
(`Snapshot.NoExpiryBetween`) the plan stays the same.

Following a plan again changes nothing (`Plan.attempt_again`): an operation that fails will fail
again, and one that was carried out has nothing left to change. So however often a domain is
called, every call leaves the host as the first one did, and ends in the same way
(`Registry.set_idempotent`).
-/

namespace HostAgent

/-- Two attempts end in the same way and leave the same host. Their reports may differ. -/
structure Attempt.Agrees {H : Type} (a b : Attempt H) : Prop where
  host : a.host = b.host
  ending : a.ending = b.ending

namespace Attempt.Agrees

variable {H : Type} {a b c : Attempt H}

theorem symm (h : a.Agrees b) : b.Agrees a := ⟨h.host.symm, h.ending.symm⟩

theorem trans (h : a.Agrees b) (h' : b.Agrees c) : a.Agrees c :=
  ⟨h.host.trans h'.host, h.ending.trans h'.ending⟩

end Attempt.Agrees

/-! ## Plans -/

/-- What an application comes down to: it ends without an operation, or performs one. -/
inductive Plan
  | ends (ending : Ending)
  | performs (op : HostOperation)
deriving DecidableEq

namespace Plan

/-- The attempt that follows a plan. -/
def attempt (h : Host) : Plan → Attempt Host
  | .ends ending => h.untouched ending
  | .performs op => h.attempt op

/-- Following a plan again ends as before and leaves the host as it is. -/
theorem attempt_again (plan : Plan) (h : Host) :
    (plan.attempt (plan.attempt h).host).Agrees (plan.attempt h) := by
  cases plan with
  | ends ending => exact ⟨rfl, rfl⟩
  | performs op =>
      simp only [attempt, Host.host_attempt]
      constructor
      · rw [Host.host_attempt, Host.host_attempt]
        by_cases hop : op.domain ∈ h.failing
        · rw [Host.perform_of_failing hop, Host.perform_of_failing hop]
        · have hagain : op.settle (op.settle h.state) = op.settle h.state :=
            HostOperation.settle_of_holds (op.holds_settle h.state)
          simp only [Host.host_perform, hop, if_false, hagain]
      · rw [Host.ending_attempt, Host.ending_attempt, Host.failing_perform]

/-- Following a plan counts as one mutation at most. -/
theorem mutations_attempt (plan : Plan) (h : Host) :
    h.state.mutations ≤ (plan.attempt h).host.state.mutations
      ∧ (plan.attempt h).host.state.mutations ≤ h.state.mutations + 1 := by
  cases plan with
  | ends ending => exact ⟨Nat.le_refl _, Nat.le_succ _⟩
  | performs op =>
      rw [attempt, Host.host_attempt]
      by_cases hop : op.domain ∈ h.failing
      · rw [Host.perform_of_failing hop]
        exact ⟨Nat.le_refl _, Nat.le_succ _⟩
      · rw [(Host.settles_perform hop).mutations]
        split <;> omega

end Plan

/-! ## Readings of the clock -/

/-- The instant at which the request of a snapshot expires, if there is one. -/
def DiagnosticsRequest.expiry? (s : Snapshot) : Option Instant :=
  (published? s).bind fun text =>
    (parse text).toOption.bind fun request => AccountKey.expiryInstant? request.expireOn

/-- The expiry instants that a snapshot publishes. -/
def Snapshot.expiries (s : Snapshot) : List Instant :=
  AccountKey.expiries ((Accounts.publishedKeys? s).getD "")
    ++ (DiagnosticsRequest.expiry? s).toList

/-- No expiry instant that a snapshot publishes falls between two readings of the clock. -/
def Snapshot.NoExpiryBetween (s : Snapshot) (a b : Instant) : Prop :=
  ∀ t ∈ s.expiries, t.before a = t.before b

instance (s : Snapshot) (a b : Instant) : Decidable (s.NoExpiryBetween a b) :=
  inferInstanceAs (Decidable (∀ t ∈ s.expiries, t.before a = t.before b))

/-- The inputs of a cycle with another reading of the clock. -/
def Inputs.at {S : Type} (i : Inputs S) (now : Instant) : Inputs S := { i with now := now }

theorem DiagnosticsRequest.hasExpired_congr {s : Snapshot} {a b : Instant}
    (h : s.NoExpiryBetween a b) {text : String} {request : DiagnosticsRequest}
    (hpublished : published? s = some text) (hparse : parse text = .ok request) :
    hasExpired request.expireOn a = hasExpired request.expireOn b := by
  refine AccountKey.hasExpired_congr fun t ht => h t (List.mem_append_right _ ?_)
  rw [Option.mem_toList, expiry?, hpublished, Option.bind_some, hparse]
  exact ht

/-- **The clock matters to the agent by expiries only.** Readings between which none falls make the
same domains. -/
theorem Registry.instantiate_at {i : Inputs Snapshot} {now : Instant}
    (h : i.current.NoExpiryBetween i.now now) :
    Registry.agent.instantiate (i.at now) = Registry.agent.instantiate i := by
  have haccounts : Accounts.domain (i.at now) = Accounts.domain i := by
    have hkeys := AccountKey.readAll_congr fun t ht => h t (List.mem_append_left _ ht)
    have happly : Accounts.apply (i.at now) = Accounts.apply i := by
      funext host
      unfold Accounts.apply
      rw [hkeys]
      rfl
    rw [Accounts.domain, happly]
    rfl
  have hdiagnostics : Diagnostics.domain (i.at now) = Diagnostics.domain i := by
    have happly : Diagnostics.apply (i.at now) = Diagnostics.apply i := by
      funext host
      unfold Diagnostics.apply
      cases hpublished : DiagnosticsRequest.published? i.current with
      | none => simp only [Inputs.at, hpublished]
      | some text =>
          cases hparse : DiagnosticsRequest.parse text with
          | error fault => simp only [Inputs.at, hpublished, hparse]
          | ok request =>
              have hexpired := DiagnosticsRequest.hasExpired_congr h hpublished hparse
              simp only [Inputs.at, hpublished, hparse, hexpired]
              rfl
    rw [Diagnostics.domain, happly]
    rfl
  simp only [instantiate, agent, List.map_cons, List.map_nil, haccounts, hdiagnostics]
  rfl

/-! ## The plans of the domains -/

/-- A snapshot publishes a request that cannot be decoded. -/
def DiagnosticsRequest.Undecodable (s : Snapshot) (fault : String) : Prop :=
  ∃ text, published? s = some text ∧ parse text = .error fault

/-- Applications of a domain follow a plan that is made from the inputs. -/
structure Factory.Follows (f : Factory Snapshot Host) (plan : Inputs Snapshot → Plan) : Prop where
  agrees : ∀ i h, ((f.build i).set h).Agrees ((plan i).attempt h)
  steady : ∀ i now, i.current.NoExpiryBetween i.now now → plan (i.at now) = plan i
  own : ∀ i op, plan i = .performs op → op.domain = f.name
  ends : ∀ i ending, plan i = .ends ending → ending = .completed
    ∨ ∃ fault, f.name = Diagnostics.name ∧ DiagnosticsRequest.Undecodable i.current fault
      ∧ ending = .refused (.invalidInput ("diagnostics request: " ++ fault))

/-- A domain that always performs an operation. -/
theorem Factory.Follows.of_performs {f : Factory Snapshot Host}
    {op : Inputs Snapshot → HostOperation}
    (hagrees : ∀ i h, ((f.build i).set h).Agrees (h.attempt (op i)))
    (hsteady : ∀ i now, i.current.NoExpiryBetween i.now now → op (i.at now) = op i)
    (hown : ∀ i, (op i).domain = f.name) : f.Follows fun i => .performs (op i) where
  agrees := hagrees
  steady i now h := congrArg Plan.performs (hsteady i now h)
  own i _ h := Plan.performs.inj h ▸ hown i
  ends _ _ h := nomatch h

theorem Accounts.agrees_apply (i : Inputs Snapshot) (h : Host) :
    (apply i h).Agrees (h.attempt
      (.accounts (AccountKey.readAll ((publishedKeys? i.current).getD "") i.now).1)) := by
  rw [apply]
  cases AccountKey.readAll ((publishedKeys? i.current).getD "") i.now with
  | mk keys log => exact ⟨rfl, rfl⟩

theorem Accounts.follows : (Factory.mk name domain).Follows fun i =>
    .performs (.accounts (AccountKey.readAll ((publishedKeys? i.current).getD "") i.now).1) := by
  refine .of_performs agrees_apply (fun i now h => ?_) fun _ => rfl
  have hkeys := AccountKey.fst_readAll_congr fun t ht => h t (List.mem_append_left _ ht)
  exact congrArg HostOperation.accounts hkeys.symm

/-- The plan of the diagnostics domain. -/
def Diagnostics.plan (i : Inputs Snapshot) : Plan :=
  match DiagnosticsRequest.published? i.current with
  | none => .ends .completed
  | some text =>
    match DiagnosticsRequest.parse text with
    | .error fault => .ends (.refused (.invalidInput ("diagnostics request: " ++ fault)))
    | .ok request =>
      if hasExpired request.expireOn i.now then .ends .completed
      else .performs (.diagnostics request)

theorem Diagnostics.agrees_apply (i : Inputs Snapshot) (h : Host) :
    (apply i h).Agrees ((plan i).attempt h) := by
  unfold apply plan
  cases DiagnosticsRequest.published? i.current with
  | none => exact ⟨rfl, rfl⟩
  | some text =>
      cases hparse : DiagnosticsRequest.parse text with
      | error fault =>
          simp only [hparse]
          exact ⟨rfl, rfl⟩
      | ok request =>
          cases hexpired : hasExpired request.expireOn i.now with
          | true =>
              simp only [hparse, hexpired, if_true]
              exact ⟨rfl, rfl⟩
          | false =>
              simp only [hparse, hexpired, Bool.false_eq_true, if_false]
              exact ⟨rfl, rfl⟩

theorem Diagnostics.plan_at {i : Inputs Snapshot} {now : Instant}
    (h : i.current.NoExpiryBetween i.now now) : plan (i.at now) = plan i := by
  have hcurrent : (i.at now).current = i.current := rfl
  rw [plan, plan, hcurrent]
  split
  · rfl
  · next text hpublished =>
    split
    · rfl
    · next request hparse =>
      have hsame := DiagnosticsRequest.hasExpired_congr h hpublished hparse
      rw [Inputs.at, hsame]

/-- What the diagnostics domain plans. -/
theorem Diagnostics.plan_cases (i : Inputs Snapshot) :
    plan i = .ends .completed
      ∨ (∃ fault, DiagnosticsRequest.Undecodable i.current fault
        ∧ plan i = .ends (.refused (.invalidInput ("diagnostics request: " ++ fault))))
      ∨ ∃ request, plan i = .performs (.diagnostics request) := by
  unfold plan
  split
  · exact .inl rfl
  · next text hpublished =>
    split
    · next fault hparse => exact .inr (.inl ⟨fault, ⟨text, hpublished, hparse⟩, rfl⟩)
    · next request hparse =>
      split
      · exact .inl rfl
      · exact .inr (.inr ⟨request, rfl⟩)

theorem Diagnostics.follows_plan : (Factory.mk name domain).Follows plan where
  agrees := agrees_apply
  steady _ _ h := plan_at h
  own i op hop := by
    rcases plan_cases i with h | ⟨fault, -, h⟩ | ⟨request, h⟩
    · rw [h] at hop
      nomatch hop
    · rw [h] at hop
      nomatch hop
    · rw [h] at hop
      obtain rfl := Plan.performs.inj hop
      rfl
  ends i ending hending := by
    rcases plan_cases i with h | ⟨fault, hfault, h⟩ | ⟨request, h⟩
    · rw [h] at hending
      exact .inl (Plan.ends.inj hending).symm
    · rw [h] at hending
      exact .inr ⟨fault, rfl, hfault, (Plan.ends.inj hending).symm⟩
    · rw [h] at hending
      nomatch hending

theorem Registry.exists_follows {f : Factory Snapshot Host} (hf : f ∈ Registry.agent) :
    ∃ plan, f.Follows plan := by
  simp only [agent, List.mem_cons, List.not_mem_nil, or_false] at hf
  rcases hf with rfl | rfl | rfl | rfl
  · exact ⟨_, .of_performs (fun _ _ => ⟨rfl, rfl⟩) (fun _ _ _ => rfl) fun _ => rfl⟩
  · exact ⟨_, Accounts.follows⟩
  · exact ⟨_, .of_performs (fun _ _ => ⟨rfl, rfl⟩) (fun _ _ _ => rfl) fun _ => rfl⟩
  · exact ⟨_, Diagnostics.follows_plan⟩

/-! ## Repeated calls -/

/-- Calls of a domain one after another, at the given readings of the clock. -/
def Factory.calls {S H : Type} (f : Factory S H) (i : Inputs S) (h : H) :
    List Instant → List (Attempt H)
  | [] => []
  | now :: later =>
    let call := (f.build (i.at now)).set h
    call :: f.calls i call.host later

/-- Why an application is refused: its domain is made to fail, or it is the one of diagnostics and
cannot decode the published request. -/
inductive Refusal (domain : String) (s : Snapshot) (failing : List String) : ApplyError → Prop
  | failing (h : domain ∈ failing) :
      Refusal domain s failing (.host ("mock host configured to fail " ++ domain))
  | undecodable (fault : String) (hdomain : domain = Diagnostics.name)
      (h : DiagnosticsRequest.Undecodable s fault) :
      Refusal domain s failing (.invalidInput ("diagnostics request: " ++ fault))

namespace Factory.Follows

variable {f : Factory Snapshot Host} {plan : Inputs Snapshot → Plan}

/-- A call after another one ends as that one did and leaves the host as it finds it. -/
theorem again (hf : f.Follows plan) {i : Inputs Snapshot} {now : Instant}
    (h : i.current.NoExpiryBetween i.now now) (host : Host) :
    ((f.build (i.at now)).set ((f.build i).set host).host).Agrees ((f.build i).set host) := by
  have hfirst := hf.agrees i host
  have hlater := hf.agrees (i.at now) ((plan i).attempt host).host
  rw [hf.steady i now h] at hlater
  rw [hfirst.host]
  exact hlater.trans (((plan i).attempt_again host).trans hfirst.symm)

theorem agrees_of_mem_calls (hf : f.Follows plan) {i : Inputs Snapshot} {times : List Instant}
    (h : ∀ now ∈ times, i.current.NoExpiryBetween i.now now) (host : Host) :
    ∀ call ∈ f.calls i ((f.build i).set host).host times,
      call.Agrees ((f.build i).set host) := by
  induction times with
  | nil => exact fun call hcall => nomatch hcall
  | cons now later ih =>
      have hcall := hf.again (h now List.mem_cons_self) host
      intro call hmem
      rcases List.mem_cons.mp hmem with rfl | hmem
      · exact hcall
      · -- the call leaves the host as it finds it, so the next one finds the same
        rw [hcall.host] at hmem
        exact ih (fun now hnow => h now (List.mem_cons_of_mem _ hnow)) call hmem

/-- A call completes, or is refused for a reason and leaves the host as it is. -/
theorem completed_or_refused (hf : f.Follows plan) (i : Inputs Snapshot) (host : Host) :
    let call := (f.build i).set host
    call.ending = .completed
      ∨ ∃ error, call.ending = .refused error ∧ Refusal f.name i.current host.failing error
        ∧ call.host = host := by
  intro call
  rw [(hf.agrees i host).ending, (hf.agrees i host).host]
  cases hplan : plan i with
  | ends ending =>
      rcases hf.ends i ending hplan with rfl | ⟨fault, hname, hfault, rfl⟩
      · exact .inl rfl
      · exact .inr ⟨_, rfl, .undecodable fault hname hfault, rfl⟩
  | performs op =>
      have hname := hf.own i op hplan
      rw [Plan.attempt, Host.ending_attempt, Host.host_attempt, Host.host_perform]
      by_cases hop : op.domain ∈ host.failing
      · rw [if_pos hop, if_pos hop, hname]
        exact .inr ⟨_, rfl, .failing (hname ▸ hop), rfl⟩
      · rw [if_neg hop]
        exact .inl rfl

end Factory.Follows

/-- **Applying a configuration again changes nothing.** For each of the agent's domains, all
snapshots and overrides, and every host, whichever domains are made to fail on it: of any number
of calls with no published expiry between their readings of the clock, each leaves the host as
the first one did and ends in the same way, and all of them count as one mutation at most. No call
panics; one that is refused belongs to a failing domain or cannot decode the published request,
and leaves the host as it is. -/
theorem Registry.set_idempotent {f : Factory Snapshot Host} (hf : f ∈ Registry.agent)
    (i : Inputs Snapshot) (host : Host) (later : List Instant)
    (hclock : ∀ now ∈ later, i.current.NoExpiryBetween i.now now) :
    let first := (f.build i).set host
    (∀ call ∈ f.calls i host (i.now :: later), call.Agrees first)
      ∧ host.state.mutations ≤ first.host.state.mutations
      ∧ first.host.state.mutations ≤ host.state.mutations + 1
      ∧ (first.ending = .completed
        ∨ ∃ error, first.ending = .refused error ∧ Refusal f.name i.current host.failing error
          ∧ first.host = host) := by
  intro first
  obtain ⟨plan, hplan⟩ := Registry.exists_follows hf
  have hcount := (plan i).mutations_attempt host
  rw [← (hplan.agrees i host).host] at hcount
  refine ⟨fun call hcall => ?_, hcount.1, hcount.2, hplan.completed_or_refused i host⟩
  rcases List.mem_cons.mp hcall with rfl | hcall
  · exact ⟨rfl, rfl⟩
  · exact hplan.agrees_of_mem_calls hclock host call hcall

/-- Inputs with a request that expires in 2030. -/
def expiringInputs : Inputs Snapshot where
  previous := .empty
  current := {
    machine := {
      attributes := Dict.ofList [("diagnostics", "\x7b\"signedUrl\":\"https://storage.example/up\","
        ++ "\"expireOn\":\"2030-01-31T12:00:00Z\"\x7d")] } }
  overrides := {}
  now := ⟨0, 0⟩

/-- Three calls before the request expires upload once. -/
theorem set_idempotent_of_expiring_request :
    (∀ now ∈ [⟨60, 0⟩, ⟨120, 0⟩],
        expiringInputs.current.NoExpiryBetween expiringInputs.now now)
      ∧ ∀ call ∈ (Factory.mk Diagnostics.name Diagnostics.domain).calls expiringInputs {}
          [⟨0, 0⟩, ⟨60, 0⟩, ⟨120, 0⟩],
        call.host.state = { uploads := ["https://storage.example/up"], mutations := 1 } := by
  have hclock : ∀ now ∈ [⟨60, 0⟩, ⟨120, 0⟩],
      expiringInputs.current.NoExpiryBetween expiringInputs.now now := by decide +kernel
  have hregistered : Factory.mk Diagnostics.name Diagnostics.domain ∈ Registry.agent := by
    simp [Registry.agent]
  have hall := (Registry.set_idempotent hregistered expiringInputs {} _ hclock).1
  refine ⟨hclock, fun call hcall => ?_⟩
  rw [(hall call hcall).host]
  decide +kernel

end HostAgent
