import HostAgent.Proofs.Host.Operations
import HostAgent.Proofs.Text.Order

set_option autoImplicit false

/-! # The fields of the record

Each operation is about one field of the record of a host (`HostOperation.field`). One that fails
leaves the host as it is. One that does not fail makes its field as it wants it, keeps the other
fields, and is counted as a mutation if the value of its field is not the one from before
(`HostOperation.Settles`).

So the count of mutations says at how many steps some field got another value, whatever was done
to the host and whichever domains failed at the time (`Host.mutations_run`).
-/

namespace HostAgent

/-- The fields of the record of a host, the count of mutations aside. -/
inductive HostField
  | addresses
  | accounts
  | uploads
  | cluster
deriving DecidableEq, Repr

namespace HostState

/-- Two records have the same value in a field. -/
def SameAt (s s' : HostState) : HostField → Prop
  | .addresses => s.addresses = s'.addresses
  | .accounts => s.accounts = s'.accounts
  | .uploads => s.uploads = s'.uploads
  | .cluster => s.cluster = s'.cluster

instance (s s' : HostState) : DecidablePred (s.SameAt s')
  | .addresses => inferInstanceAs (Decidable (s.addresses = s'.addresses))
  | .accounts => inferInstanceAs (Decidable (s.accounts = s'.accounts))
  | .uploads => inferInstanceAs (Decidable (s.uploads = s'.uploads))
  | .cluster => inferInstanceAs (Decidable (s.cluster = s'.cluster))

@[simp] theorem sameAt_refl (s : HostState) (field : HostField) : s.SameAt s field := by
  cases field <;> rfl

/-- Some field has another value in the second record. -/
def Changed (s s' : HostState) : Prop := ∃ field, ¬s.SameAt s' field

theorem changed_iff (s s' : HostState) :
    s.Changed s' ↔ s.addresses ≠ s'.addresses ∨ s.accounts ≠ s'.accounts
      ∨ s.uploads ≠ s'.uploads ∨ s.cluster ≠ s'.cluster := by
  constructor
  · rintro ⟨field, h⟩
    cases field with
    | addresses => exact .inl h
    | accounts => exact .inr (.inl h)
    | uploads => exact .inr (.inr (.inl h))
    | cluster => exact .inr (.inr (.inr h))
  · rintro (h | h | h | h)
    · exact ⟨.addresses, h⟩
    · exact ⟨.accounts, h⟩
    · exact ⟨.uploads, h⟩
    · exact ⟨.cluster, h⟩

instance (s s' : HostState) : Decidable (s.Changed s') := decidable_of_iff' _ (changed_iff s s')

theorem not_changed_self (s : HostState) : ¬s.Changed s := fun ⟨field, h⟩ => h (s.sameAt_refl field)

end HostState

/-! ## Operations -/

namespace HostOperation

/-- The field that an operation is about. -/
def field : HostOperation → HostField
  | .addresses _ => .addresses
  | .accounts _ => .accounts
  | .diagnostics _ => .uploads
  | .cluster _ => .cluster

/-- What an operation that does not fail makes of a record. -/
structure Settles (op : HostOperation) (s s' : HostState) : Prop where
  holds : op.Holds s'
  others : ∀ field, field ≠ op.field → s.SameAt s' field
  mutations : s'.mutations = s.mutations + if s.SameAt s' op.field then 0 else 1

theorem sameAt_settle_of_ne {op : HostOperation} {field : HostField} (h : field ≠ op.field)
    (s : HostState) : s.SameAt (op.settle s) field := by
  by_cases hop : op.Holds s
  · rw [settle_of_holds hop]
    exact s.sameAt_refl field
  · rw [settle_of_not_holds hop]
    cases op with
    | diagnostics request =>
        have hnew : request.signedUrl ∉ s.uploads := hop
        simp only [applyTo, hnew, if_false]
        cases field with
        | uploads => exact absurd rfl h
        | addresses | accounts | cluster => rfl
    | addresses | accounts | cluster =>
        cases field <;> first | exact absurd rfl h | rfl

/-- An operation leaves its own field alone if the record is as it wants it, and only then. -/
theorem sameAt_settle_field_iff (op : HostOperation) (s : HostState) :
    s.SameAt (op.settle s) op.field ↔ op.Holds s := by
  by_cases hop : op.Holds s
  · rw [settle_of_holds hop]
    exact iff_of_true (s.sameAt_refl op.field) hop
  · refine iff_of_false (fun hsame => hop ?_) hop
    rw [settle_of_not_holds hop] at hsame
    cases op with
    | addresses list => exact hsame
    | accounts keys => exact hsame
    | cluster settings => exact hsame
    | diagnostics request =>
        have hnew : request.signedUrl ∉ s.uploads := hop
        simp only [applyTo, hnew, if_false] at hsame
        -- no list of uploads is the one with an upload at its end
        exact absurd (congrArg List.length hsame) (by simp)

theorem settles_settle (op : HostOperation) (s : HostState) : op.Settles s (op.settle s) where
  holds := holds_settle op s
  others _ h := sameAt_settle_of_ne h s
  mutations := by
    by_cases hop : op.Holds s
    · rw [if_pos ((sameAt_settle_field_iff op s).mpr hop), settle_of_holds hop, Nat.add_zero]
    · rw [if_neg (mt (sameAt_settle_field_iff op s).mp hop), settle_of_not_holds hop]

theorem Settles.changed_iff {op : HostOperation} {s s' : HostState} (h : op.Settles s s') :
    s.Changed s' ↔ ¬s.SameAt s' op.field := by
  constructor
  · rintro ⟨field, hfield⟩ hsame
    obtain rfl : field = op.field := by
      by_contra hne
      exact hfield (h.others field hne)
    exact hfield hsame
  · exact fun hfield => ⟨op.field, hfield⟩

end HostOperation

/-! ## Steps -/

/-- A step in the use of a host: an operation, or a domain that is made to fail or to fail no
more. -/
inductive HostStep
  | operation (op : HostOperation)
  | setFailing (domain : String) (fail : Bool)
deriving DecidableEq, Repr

namespace Host

/-- The host after a step. -/
def step (h : Host) : HostStep → Host
  | .operation op => (h.perform op).2.1
  | .setFailing domain fail => h.setFailing domain fail

/-- The host after a sequence of steps. -/
def run (h : Host) (steps : List HostStep) : Host := steps.foldl step h

/-- The number of steps at which some field of the record gets another value. -/
def changes (h : Host) : List HostStep → Nat
  | [] => 0
  | step :: rest =>
    (if h.state.Changed (h.step step).state then 1 else 0) + (h.step step).changes rest

/-- A failing operation is refused and leaves the host as it is. -/
theorem perform_of_failing {h : Host} {op : HostOperation} (hop : op.domain ∈ h.failing) :
    h.perform op = (.error (.host ("mock host configured to fail " ++ op.domain)), h, []) := by
  rw [perform, if_pos hop]

/-- An operation that does not fail is carried out. -/
theorem fst_perform_of_not_failing {h : Host} {op : HostOperation} (hop : op.domain ∉ h.failing) :
    (h.perform op).1 = .ok () := by
  simp only [perform, hop, if_false]
  split <;> rfl

theorem settles_perform {h : Host} {op : HostOperation} (hop : op.domain ∉ h.failing) :
    op.Settles h.state (h.perform op).2.1.state := by
  rw [host_perform, if_neg hop]
  exact op.settles_settle h.state

/-- A step is counted if some field gets another value at it, and only then. -/
theorem mutations_step (h : Host) (step : HostStep) :
    (h.step step).state.mutations
      = h.state.mutations + if h.state.Changed (h.step step).state then 1 else 0 := by
  cases step with
  | setFailing domain fail =>
      have hsame : (h.setFailing domain fail).state = h.state := rfl
      rw [Host.step, hsame, if_neg h.state.not_changed_self, Nat.add_zero]
  | operation op =>
      rw [Host.step]
      by_cases hop : op.domain ∈ h.failing
      · rw [perform_of_failing hop, if_neg h.state.not_changed_self, Nat.add_zero]
      · have hsettles := settles_perform hop
        simp only [hsettles.changed_iff, ite_not]
        exact hsettles.mutations

theorem mutations_run (h : Host) (steps : List HostStep) :
    (h.run steps).state.mutations = h.state.mutations + h.changes steps := by
  induction steps generalizing h with
  | nil => rfl
  | cons step rest ih =>
      calc ((h.step step).run rest).state.mutations
          = (h.step step).state.mutations + (h.step step).changes rest := ih (h.step step)
        _ = h.state.mutations + h.changes (step :: rest) := by
            rw [mutations_step, changes, Nat.add_assoc]

/-- Accounts are recorded under their names in order, so the order of the keys does not matter. -/
theorem perform_accounts_of_perm {keys keys' : List AccountKey} (hkeys : keys.Perm keys')
    (h : Host) : h.perform (.accounts keys) = h.perform (.accounts keys') := by
  have hrecord : ∀ s, (HostOperation.accounts keys).applyTo s
      = (HostOperation.accounts keys').applyTo s := fun s => by
    rw [HostOperation.applyTo, HostOperation.applyTo, sortTexts_eq_of_perm (hkeys.map _)]
  rw [perform, perform, hrecord]
  rfl

/-- **Operations keep to their own fields, and the count of mutations is the count of changes.**
On every host, an operation of a failing domain is refused and leaves the host as it is; any
other one is carried out: its field is then as it wants it, no other field changes, and the count
goes up by one if the value of its field changed and stays if it did not. So along every sequence
of operations and switches of failures the count goes up by the number of the steps at which some
field changed. The order of its keys makes no difference to the operation on accounts. -/
theorem perform_keeps_to_field (h : Host) :
    (∀ op : HostOperation, op.domain ∈ h.failing →
        h.perform op = (.error (.host ("mock host configured to fail " ++ op.domain)), h, []))
      ∧ (∀ op : HostOperation, op.domain ∉ h.failing → (h.perform op).1 = .ok ()
        ∧ (h.perform op).2.1.failing = h.failing
        ∧ op.Settles h.state (h.perform op).2.1.state)
      ∧ (∀ steps, (h.run steps).state.mutations = h.state.mutations + h.changes steps)
      ∧ (∀ steps, (fresh.run steps).state.mutations = fresh.changes steps)
      ∧ ∀ keys keys' : List AccountKey, keys.Perm keys' →
        h.perform (.accounts keys) = h.perform (.accounts keys') := by
  refine ⟨fun op => perform_of_failing, fun op hop => ?_, h.mutations_run, fun steps => ?_,
    fun keys keys' hkeys => perform_accounts_of_perm hkeys h⟩
  · exact ⟨fst_perform_of_not_failing hop, h.failing_perform op, settles_perform hop⟩
  · rw [mutations_run]
    exact Nat.zero_add _

/-- Two keys that are refused at first, then applied, and applied again the other way round: of
the operations that were carried out one was a change. -/
theorem perform_keeps_to_field_of_two_keys :
    let h : Host := { failing := ["accounts"] }
    let keys : List AccountKey := [{ userName := "eve" }, { userName := "adam" }]
    let steps : List HostStep := [.operation (.accounts keys), .setFailing "accounts" false,
      .operation (.accounts keys), .operation (.accounts keys.reverse)]
    h.perform (.accounts keys) = (.error (.host "mock host configured to fail accounts"), h, [])
      ∧ (h.perform (.addresses ["10.0.0.1"])).2.1.state.mutations = 1
      ∧ (h.run steps).state.mutations = 1
      ∧ (h.setFailing "accounts" false).perform (.accounts keys)
        = (h.setFailing "accounts" false).perform (.accounts keys.reverse) := by
  intro h keys steps
  obtain ⟨hrefused, hdone, hcount, -, -⟩ := perform_keeps_to_field h
  obtain ⟨-, -, -, -, hperm⟩ := perform_keeps_to_field (h.setFailing "accounts" false)
  refine ⟨hrefused (.accounts keys) (by decide), ?_, ?_, hperm keys keys.reverse ?_⟩
  · exact (hdone (.addresses ["10.0.0.1"]) (by decide)).2.2.mutations
  · rw [hcount steps]
    decide
  · exact keys.reverse_perm.symm

end Host

end HostAgent
