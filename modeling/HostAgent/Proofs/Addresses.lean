import HostAgent.Addresses
import HostAgent.Proofs.Text.Blank
import HostAgent.Proofs.Text.Order
import Mathlib.Data.Set.Basic
import Mathlib.Logic.Relation

set_option autoImplicit false

/-! # The addresses left to the machine

The addresses that the machine has to carry are the published ones that no enabled cluster lists,
in order (`desiredAddresses_eq_published_diff`). A published address is what trimming leaves of a
text in one of the three lists of some interface, unless it is blank, so neither the place of a text
nor the blanks around it nor its repetition matter. `Rearranges` is one step of such a change of the
interfaces, and a chain of steps in either direction leaves the published addresses as they are
(`isPublished_congr`).
-/

namespace HostAgent

/-! ## What is published -/

/-- An address is what trimming leaves of a text published for one of the interfaces. -/
def IsPublished (interfaces : List Interface) (address : String) : Prop :=
  address ≠ "" ∧ ∃ nic ∈ interfaces, ∃ text,
    (text ∈ nic.forwardedIps ∨ text ∈ nic.targetInstanceIps ∨ text ∈ nic.ipAliases)
      ∧ address = trim text

/-- All texts published for the interfaces. -/
def publishedTexts (interfaces : List Interface) : List String :=
  interfaces.flatMap Interface.addresses

theorem isPublished_iff {interfaces : List Interface} {address : String} :
    IsPublished interfaces address
      ↔ address ≠ "" ∧ address ∈ (publishedTexts interfaces).map trim := by
  refine and_congr_right fun _ => ?_
  rw [List.mem_map]
  constructor
  · rintro ⟨nic, hnic, text, htext, rfl⟩
    refine ⟨text, List.mem_flatMap.mpr ⟨nic, hnic, ?_⟩, rfl⟩
    rw [Interface.addresses, List.append_assoc, List.mem_append, List.mem_append]
    exact htext
  · rintro ⟨text, htext, rfl⟩
    obtain ⟨nic, hnic, hmem⟩ := List.mem_flatMap.mp htext
    rw [Interface.addresses, List.append_assoc, List.mem_append, List.mem_append] at hmem
    exact ⟨nic, hnic, text, hmem, rfl⟩

theorem mem_publishedAddresses_iff {s : Snapshot} {address : String} :
    address ∈ s.publishedAddresses ↔ IsPublished s.machine.interfaces address := by
  rw [Snapshot.publishedAddresses, List.mem_filter, isPublished_iff, and_comm]
  exact and_congr_left fun _ => by simp

/-! ## What is left to the machine -/

theorem ClusterSettings.owns_eq_true_iff (c : ClusterSettings) (address : String) :
    c.owns address = true ↔ c.enabled = true ∧ address ∈ c.addresses := by
  rw [owns, Bool.and_eq_true, List.contains_iff_mem]

theorem mem_desiredAddresses_iff {s : Snapshot} {overrides : Overrides} {address : String} :
    address ∈ desiredAddresses s overrides ↔ address ∈ s.publishedAddresses
      ∧ ¬(ClusterSettings.resolve s overrides).owns address = true := by
  rw [desiredAddresses, mem_sortDistinct, List.mem_filter, Bool.not_eq_true', Bool.not_eq_true]

/-- The machine carries the published addresses that the settings do not take charge of. -/
theorem mem_desiredAddresses {s : Snapshot} {overrides : Overrides} {address : String}
    (h : address ∈ s.publishedAddresses) :
    address ∈ desiredAddresses s overrides
      ↔ (ClusterSettings.resolve s overrides).owns address = false := by
  rw [mem_desiredAddresses_iff, and_iff_right h, Bool.not_eq_true]

theorem desiredAddresses_congr {s t : Snapshot} {overrides : Overrides}
    (hresolve : ClusterSettings.resolve s overrides = ClusterSettings.resolve t overrides)
    (h : ∀ a, a ∈ s.publishedAddresses ↔ a ∈ t.publishedAddresses) :
    desiredAddresses s overrides = desiredAddresses t overrides := by
  rw [desiredAddresses, desiredAddresses, hresolve]
  refine sortDistinct_congr fun a => ?_
  rw [List.mem_filter, List.mem_filter, h a]

/-! ## Changes that do not matter -/

/-- A text with blanks around another one. -/
def Pads (text padded : String) : Prop :=
  ∃ front back : List Char, padded.toList = front ++ (text.toList ++ back)
    ∧ (∀ c ∈ front, isBlank c = true) ∧ ∀ c ∈ back, isBlank c = true

/-- A change of the interfaces that leaves the published addresses as they are: interfaces change
their order, texts change their place, a text is repeated, or blanks are put around texts. -/
inductive Rearranges (interfaces interfaces' : List Interface) : Prop
  | reorder (h : interfaces.Perm interfaces')
  | move (h : (publishedTexts interfaces).Perm (publishedTexts interfaces'))
  | again (text : String) (hmem : text ∈ publishedTexts interfaces)
      (h : (publishedTexts interfaces').Perm (text :: publishedTexts interfaces))
  | pad (h : List.Forall₂ Pads (publishedTexts interfaces) (publishedTexts interfaces'))

theorem Pads.trim_eq {text padded : String} (h : Pads text padded) : trim padded = trim text := by
  obtain ⟨front, back, heq, hfront, hback⟩ := h
  rw [trim, trim, heq, trimChars_append hfront hback]

theorem map_trim_eq_of_pads {texts padded : List String} (h : List.Forall₂ Pads texts padded) :
    texts.map trim = padded.map trim := by
  induction h with
  | nil => rfl
  | cons hpads _ ih => rw [List.map_cons, List.map_cons, hpads.trim_eq, ih]

/-- **One change leaves the published addresses as they are.** -/
theorem Rearranges.isPublished_iff {interfaces interfaces' : List Interface}
    (h : Rearranges interfaces interfaces') (address : String) :
    IsPublished interfaces address ↔ IsPublished interfaces' address := by
  rw [HostAgent.isPublished_iff, HostAgent.isPublished_iff]
  refine and_congr_right fun _ => ?_
  cases h with
  | reorder h => exact ((h.flatMap_right Interface.addresses).map trim).mem_iff
  | move h => exact (h.map trim).mem_iff
  | again text hmem h =>
      have hknown : address = trim text → address ∈ (publishedTexts interfaces).map trim := by
        rintro rfl
        exact List.mem_map_of_mem hmem
      rw [(h.map trim).mem_iff, List.map_cons, List.mem_cons, or_iff_right_of_imp hknown]
  | pad h => rw [map_trim_eq_of_pads h]

/-- **So does a chain of changes**, each made or taken back. -/
theorem isPublished_congr {interfaces interfaces' : List Interface}
    (h : Relation.EqvGen Rearranges interfaces interfaces') (address : String) :
    IsPublished interfaces address ↔ IsPublished interfaces' address := by
  induction h with
  | rel _ _ h => exact h.isPublished_iff address
  | refl => exact Iff.rfl
  | symm _ _ _ ih => exact ih.symm
  | trans _ _ _ _ _ ih₁ ih₂ => exact ih₁.trans ih₂

/-- The snapshot with other interfaces. -/
def Snapshot.withInterfaces (s : Snapshot) (interfaces : List Interface) : Snapshot :=
  { s with machine := { s.machine with interfaces } }

theorem desiredAddresses_withInterfaces {s : Snapshot} {overrides : Overrides}
    {interfaces : List Interface}
    (h : Relation.EqvGen Rearranges s.machine.interfaces interfaces) :
    desiredAddresses (s.withInterfaces interfaces) overrides = desiredAddresses s overrides := by
  -- the settings of the cluster do not come from the interfaces
  refine desiredAddresses_congr rfl fun address => ?_
  rw [mem_publishedAddresses_iff, mem_publishedAddresses_iff]
  exact (isPublished_congr h address).symm

/-! ## All of it together -/

/-- What the settings of the cluster take charge of. -/
def clusterAddresses (s : Snapshot) (overrides : Overrides) : Set String :=
  {a | (ClusterSettings.resolve s overrides).enabled = true
    ∧ a ∈ (ClusterSettings.resolve s overrides).addresses}

/-- The addresses published in a snapshot. -/
def publishedSet (s : Snapshot) : Set String := {a | IsPublished s.machine.interfaces a}

/-- **The machine is left the published addresses that no enabled cluster lists**, in order and
without repetition, however the interfaces spell them. -/
theorem desiredAddresses_eq_published_diff (s : Snapshot) (overrides : Overrides) :
    (desiredAddresses s overrides).Pairwise (· < ·)
      ∧ (∀ a, a ∈ desiredAddresses s overrides
          ↔ a ∈ publishedSet s ∧ a ∉ clusterAddresses s overrides)
      ∧ (∀ interfaces, Relation.EqvGen Rearranges s.machine.interfaces interfaces →
          desiredAddresses (s.withInterfaces interfaces) overrides = desiredAddresses s overrides)
      ∧ publishedSet s = {a | a ∈ desiredAddresses s overrides}
          ∪ (publishedSet s ∩ clusterAddresses s overrides)
      ∧ {a | a ∈ desiredAddresses s overrides}
          ∩ (publishedSet s ∩ clusterAddresses s overrides) = ∅ := by
  have hmem : ∀ a, a ∈ desiredAddresses s overrides
      ↔ a ∈ publishedSet s ∧ a ∉ clusterAddresses s overrides := by
    intro a
    rw [mem_desiredAddresses_iff, mem_publishedAddresses_iff, ClusterSettings.owns_eq_true_iff]
    rfl
  have hset : {a | a ∈ desiredAddresses s overrides}
      = publishedSet s \ clusterAddresses s overrides := Set.ext hmem
  refine ⟨pairwise_sortDistinct _, hmem, fun _ h => desiredAddresses_withInterfaces h, ?_, ?_⟩
  · rw [hset, Set.sdiff_union_inter]
  · rw [hset]
    exact Set.eq_empty_of_forall_notMem fun a ⟨ha, hboth⟩ => ha.2 hboth.2

/-- The addresses of a machine in a cluster after one of them was moved to another list, repeated
there and spelled with a blank. -/
theorem desiredAddresses_of_moved_alias :
    let member : Snapshot := { machine := {
      attributes := Dict.ofList [("wsfc-addrs", "10.0.0.1")]
      interfaces := [{ forwardedIps := ["10.0.0.2"], ipAliases := ["10.0.0.1"] }] } }
    let moved : List Interface :=
      [{ forwardedIps := ["10.0.0.2 "], targetInstanceIps := ["10.0.0.1", "10.0.0.2"] }]
    Relation.EqvGen Rearranges member.machine.interfaces moved
      ∧ desiredAddresses (member.withInterfaces moved) ∅ = desiredAddresses member ∅
      ∧ desiredAddresses member ∅ = ["10.0.0.2"] := by
  intro member moved
  have hmove : Rearranges member.machine.interfaces
      [{ targetInstanceIps := ["10.0.0.1", "10.0.0.2"] }] := .move (by decide)
  have hagain : Rearranges [{ targetInstanceIps := ["10.0.0.1", "10.0.0.2"] }]
      [{ forwardedIps := ["10.0.0.2"], targetInstanceIps := ["10.0.0.1", "10.0.0.2"] }] :=
    .again "10.0.0.2" (by decide) (by decide)
  have hsame : ∀ text : String, Pads text text := fun text => ⟨[], [], by simp, nofun, nofun⟩
  have hblank : ∀ c ∈ [' '], isBlank c = true := fun c hc => List.mem_singleton.mp hc ▸ rfl
  have hpad : Rearranges
      [{ forwardedIps := ["10.0.0.2"], targetInstanceIps := ["10.0.0.1", "10.0.0.2"] }] moved :=
    .pad (.cons ⟨[], [' '], rfl, nofun, hblank⟩
      (.cons (hsame _) (.cons (hsame _) .nil)))
  have hchain : Relation.EqvGen Rearranges member.machine.interfaces moved :=
    .trans _ _ _ (.rel _ _ hmove) (.trans _ _ _ (.rel _ _ hagain) (.rel _ _ hpad))
  have hunchanged := (desiredAddresses_eq_published_diff member ∅).2.2.1 moved hchain
  exact ⟨hchain, hunchanged, by decide +kernel⟩

end HostAgent
