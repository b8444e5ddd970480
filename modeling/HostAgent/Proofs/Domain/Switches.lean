import HostAgent.Domain.Registry
import HostAgent.Proofs.Text.Case
import HostAgent.Proofs.Text.Reading

set_option autoImplicit false

/-! # Switches of the domains

Each domain of the agent is switched by a text. Three of them have up to three sources for it, an
override, an attribute of the machine and the same attribute of its project; the cluster has the
override only. What counts is the first source that can be read, so that one that cannot be read is
as good as a missing one (`SwitchedBy`). An unset switch leaves a domain on, apart from the
diagnostics, which are off unless they are switched on (`domains_follow_switches`).
-/

namespace HostAgent

/-! ## Sources of a switch -/

/-- The sources of a switch in the order in which they count. -/
def switchSources (group key name : String) (i : Inputs Snapshot) : List (Option String) :=
  [i.overrides.get? group key, i.current.machine.attributes.get? name,
    i.current.project.attributes.get? name]

/-- The first source that can be read says on. -/
def SaysOn (sources : List (Option String)) : Prop := FirstSays SaysSwitch sources true

/-- A source of a switch that is missing or cannot be read. -/
def SaysNothing (source : Option String) : Prop :=
  ∀ text, source = some text → ∀ b, ¬SaysSwitch text b

/-- Two sources that are the same, or neither of which can be read. -/
def ReadAlike (a b : Option String) : Prop := a = b ∨ (SaysNothing a ∧ SaysNothing b)

/-- A domain is switched by its sources: it can always tell whether it is off, which depends on them
in the given way, and a source that cannot be read is as good as a missing one. -/
structure SwitchedBy (build : Inputs Snapshot → Domain Host)
    (sources : Inputs Snapshot → List (Option String)) (IsOff : List (Option String) → Prop) :
    Prop where
  off_iff : ∀ i, ∃ off, (build i).disabled = .ok off ∧ (off = true ↔ IsOff (sources i))
  unreadable : ∀ i j, List.Forall₂ ReadAlike (sources i) (sources j) →
    (build i).disabled = (build j).disabled

theorem saysNothing_iff {source : Option String} :
    SaysNothing source ↔ source.bind Switch.read = none :=
  (bind_eq_none_iff (fun _ _ => Switch.read_eq_some_iff) source).symm

theorem ReadAlike.bind_read_eq {a b : Option String} (h : ReadAlike a b) :
    a.bind Switch.read = b.bind Switch.read := by
  rcases h with rfl | ⟨ha, hb⟩
  · rfl
  · rw [saysNothing_iff.mp ha, saysNothing_iff.mp hb]

/-- A text that cannot be read is as good as none. -/
theorem readAlike_none {text : String} (h : Switch.read text = none) :
    ReadAlike (some text) none := by
  refine .inr ⟨saysNothing_iff.mpr ?_, nofun⟩
  rw [Option.bind_some, h]

theorem saysOn_iff {sources : List (Option String)} :
    SaysOn sources ↔ sources.findSome? (·.bind Switch.read) = some true :=
  (findSome?_eq_some_iff_firstSays fun _ _ => Switch.read_eq_some_iff).symm

/-- Sources that are read alike say the same. -/
theorem saysOn_congr {sources sources' : List (Option String)}
    (h : List.Forall₂ ReadAlike sources sources') : SaysOn sources ↔ SaysOn sources' := by
  rw [saysOn_iff, saysOn_iff]
  induction h with
  | nil => rfl
  | cons hfirst _ ih =>
      -- the first sources say the same, and the others count only if that is nothing
      rw [findSome?_cons_eq_or, findSome?_cons_eq_or, hfirst.bind_read_eq]
      cases Option.bind _ Switch.read with
      | none => exact ih
      | some b => rfl

/-- The override is tried first, then the attribute. -/
theorem saysOn_switchSources_iff {group key name : String} {i : Inputs Snapshot} :
    SaysOn (switchSources group key name i)
      ↔ ((i.overrides.switch? group key).or (i.current.switch? name)).getD false = true := by
  rw [saysOn_iff]
  simp only [switchSources, findSome?_cons_eq_or, List.findSome?_nil, Option.or_none,
    Overrides.switch?, Snapshot.switch?, Option.getD_eq_iff, Bool.false_eq_true, and_false,
    or_false]

/-! ## The switches -/

/-- What a domain tells depends on its sources only by what they say. -/
theorem SwitchedBy.of_off {build : Inputs Snapshot → Domain Host}
    {sources : Inputs Snapshot → List (Option String)} {IsOff : List (Option String) → Prop}
    (off : Inputs Snapshot → Bool) (hoff : ∀ i, (build i).disabled = .ok (off i))
    (hiff : ∀ i, off i = true ↔ IsOff (sources i))
    (hcongr : ∀ s s', List.Forall₂ ReadAlike s s' → (IsOff s ↔ IsOff s')) :
    SwitchedBy build sources IsOff where
  off_iff i := ⟨off i, hoff i, hiff i⟩
  unreadable i j halike := by
    rw [hoff i, hoff j]
    apply congrArg
    rw [Bool.eq_iff_iff, hiff i, hiff j]
    exact hcongr _ _ halike

theorem Addresses.switchedBy_domain :
    SwitchedBy domain (switchSources "addressManager" "disable" "disable-address-manager")
      SaysOn :=
  .of_off isDisabled (fun _ => rfl) (fun _ => saysOn_switchSources_iff.symm)
    fun _ _ => saysOn_congr

theorem Accounts.switchedBy_domain :
    SwitchedBy domain (switchSources "accountManager" "disable" "disable-account-manager")
      SaysOn :=
  .of_off isDisabled (fun _ => rfl) (fun _ => saysOn_switchSources_iff.symm)
    fun _ _ => saysOn_congr

/-- Diagnostics are off unless they are switched on. -/
theorem Diagnostics.switchedBy_domain :
    SwitchedBy domain (switchSources "diagnostics" "enable" "enable-diagnostics")
      fun sources => ¬SaysOn sources := by
  refine .of_off isDisabled (fun _ => rfl) (fun i => ?_) fun _ _ h => not_congr (saysOn_congr h)
  rw [saysOn_switchSources_iff, isDisabled, Bool.not_eq_true', Bool.not_eq_true]

theorem Cluster.switchedBy_domain :
    SwitchedBy domain (fun i => [i.overrides.get? "wsfc" "disable"]) SaysOn := by
  refine .of_off isDisabled (fun _ => rfl) (fun i => ?_) fun _ _ => saysOn_congr
  rw [saysOn_iff, findSome?_cons_eq_or, List.findSome?_nil, Option.or_none, isDisabled,
    Overrides.switch?, Option.getD_eq_iff]
  simp

/-- **Domains follow their switches.** The addresses and the accounts are off if the first of the
override, the attribute of the machine and that of the project that can be read says on, and the
diagnostics if it does not; the cluster is off if the override says on, whatever is published. A
text can be read if trimming leaves one of the words for on or off, in any case. -/
theorem domains_follow_switches :
    SwitchedBy Addresses.domain
        (switchSources "addressManager" "disable" "disable-address-manager") SaysOn
      ∧ SwitchedBy Accounts.domain
        (switchSources "accountManager" "disable" "disable-account-manager") SaysOn
      ∧ SwitchedBy Diagnostics.domain
        (switchSources "diagnostics" "enable" "enable-diagnostics") (fun sources => ¬SaysOn sources)
      ∧ SwitchedBy Cluster.domain (fun i => [i.overrides.get? "wsfc" "disable"]) SaysOn
      ∧ ∀ text b, Switch.read text = some b ↔ ∃ word ∈ switchWords b, Alike (trim text) word := by
  refine ⟨Addresses.switchedBy_domain, Accounts.switchedBy_domain, Diagnostics.switchedBy_domain,
    Cluster.switchedBy_domain, fun text b => ?_⟩
  rw [Switch.read_eq_some_iff]
  exact exists_congr fun word => and_congr_right fun _ => sameName_iff_alike

/-- A machine whose switch cannot be read, of a project that switches the addresses off. -/
def vagueMachine : Snapshot where
  machine := { attributes := Dict.ofList [("disable-address-manager", "maybe")] }
  project := { attributes := Dict.ofList [("disable-address-manager", "\u3000YES")] }

/-- With an override that cannot be read either, the addresses are off as if there were nothing but
the switch of the project. -/
theorem addresses_follow_switch_of_project :
    let vague : Inputs Snapshot :=
      ⟨.empty, vagueMachine, .ofEntries [⟨"AddressManager", "Disable", "2"⟩], ⟨0, 0⟩⟩
    let plain : Inputs Snapshot :=
      ⟨vagueMachine, { vagueMachine with machine := {} }, ∅, ⟨1, 0⟩⟩
    List.Forall₂ ReadAlike
        (switchSources "addressManager" "disable" "disable-address-manager" vague)
        (switchSources "addressManager" "disable" "disable-address-manager" plain)
      ∧ (Addresses.domain vague).disabled = (Addresses.domain plain).disabled
      ∧ (Addresses.domain plain).disabled = .ok true := by
  intro vague plain
  have hvague : switchSources "addressManager" "disable" "disable-address-manager" vague
      = [some "2", some "maybe", some "\u3000YES"] := by decide +kernel
  have hplain : switchSources "addressManager" "disable" "disable-address-manager" plain
      = [none, none, some "\u3000YES"] := by decide +kernel
  have hunread : ∀ text ∈ ["2", "maybe"], Switch.read text = none := by decide +kernel
  have halike : List.Forall₂ ReadAlike
      (switchSources "addressManager" "disable" "disable-address-manager" vague)
      (switchSources "addressManager" "disable" "disable-address-manager" plain) := by
    rw [hvague, hplain]
    exact .cons (readAlike_none (hunread "2" (by simp)))
      (.cons (readAlike_none (hunread "maybe" (by simp))) (.cons (.inl rfl) .nil))
  obtain ⟨haddresses, -⟩ := domains_follow_switches
  exact ⟨halike, haddresses.unreadable vague plain halike, by decide +kernel⟩

end HostAgent
