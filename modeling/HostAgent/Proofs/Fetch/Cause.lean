import HostAgent.Fetch.Error
import HostAgent.Proofs.Text.Case
import Mathlib.Data.List.Perm.Basic
import Mathlib.Order.Bounds.Basic
import Mathlib.Order.MinMax

set_option autoImplicit false

/-! # The kind of a chain of causes

A cause taken alone says that a name was not resolved (`Cause.SaysUnresolved`), by its text, or that
the network is down (`Cause.SaysDown`), by its kind, or nothing of the sort. A chain of causes has
the kind of the weightiest among them. The walk along a chain stops at the first unresolved name
and keeps in mind a network that is down, so its result can be read off the whole chain
(`FetchError.classifyAfter_eq`). From there on a chain is as weighty as its two parts
(`FetchError.classify_append`), and neither the order of the causes nor their number counts
(`FetchError.classify_eq_weightiest`).
-/

namespace HostAgent

/-! ## What a cause says -/

namespace Cause

/-- The phrase stands in the text somewhere, in any case. -/
def Holds (text phrase : String) : Prop :=
  ∃ front part back : String, text = front ++ part ++ back ∧ Alike part phrase

/-- The text of a cause holds one of the phrases for a name that was not resolved. -/
def SaysUnresolved (c : Cause) : Prop :=
  ∃ phrase ∈ ["dns error", "failed to lookup address", "name or service not known",
    "no such host"], Holds c.text phrase

/-- A cause is a failed input or output of one of the kinds for a network that is down. -/
def SaysDown (c : Cause) : Prop :=
  ∃ kind ∈ [IoKind.connectionRefused, .connectionReset, .connectionAborted, .notConnected,
    .addressNotAvailable, .networkUnreachable, .hostUnreachable, .networkDown], c.io = some kind

theorem occursIn_eq_true_iff {part whole : List Char} :
    occursIn part whole = true ↔ part <:+: whole := by
  induction whole with
  | nil => rw [occursIn, List.isEmpty_iff, List.infix_nil]
  | cons c rest ih =>
      rw [occursIn, Bool.or_eq_true, List.isPrefixOf_iff_prefix, ih, List.infix_cons_iff]

/-- A phrase stands in a text if it does once the case of both is folded. -/
theorem holds_iff {text phrase : String} :
    Holds text phrase ↔ (foldCase phrase).toList <:+: (foldCase text).toList := by
  constructor
  · rintro ⟨front, part, back, rfl, halike⟩
    have hpart : foldCase part = foldCase phrase := sameName_iff_alike.mpr halike
    refine ⟨(foldCase front).toList, (foldCase back).toList, ?_⟩
    rw [← hpart]
    simp only [toList_foldCase, String.toList_append, List.map_append]
  · rintro ⟨front, back, heq⟩
    -- the parts of the folded text are those of the text, each of them folded
    rw [toList_foldCase text] at heq
    obtain ⟨left, back', htext, hleft, -⟩ := List.map_eq_append_iff.mp heq.symm
    obtain ⟨front', part', rfl, -, hpart⟩ := List.map_eq_append_iff.mp hleft
    refine ⟨String.ofList front', String.ofList part', String.ofList back', ?_, ?_⟩
    · rw [← String.toList_inj]
      simp only [String.toList_append, String.toList_ofList, htext]
    · apply sameName_iff_alike.mp
      show foldCase (String.ofList part') = foldCase phrase
      rw [← String.toList_inj, toList_foldCase, String.toList_ofList, hpart]

theorem namesDns_eq_true_iff {c : Cause} : c.namesDns = true ↔ c.SaysUnresolved := by
  have hlower : ∀ phrase ∈ dnsPhrases, foldCase phrase = phrase := by decide
  rw [namesDns, List.any_eq_true]
  constructor
  · rintro ⟨phrase, hphrase, hoccurs⟩
    refine ⟨phrase, hphrase, holds_iff.mpr ?_⟩
    rw [hlower phrase hphrase]
    exact occursIn_eq_true_iff.mp hoccurs
  · rintro ⟨phrase, hphrase, hholds⟩
    have hinfix := holds_iff.mp hholds
    rw [hlower phrase hphrase] at hinfix
    exact ⟨phrase, hphrase, occursIn_eq_true_iff.mpr hinfix⟩

theorem isNetwork_eq_true_iff {c : Cause} : c.isNetwork = true ↔ c.SaysDown := by
  rw [isNetwork, SaysDown]
  cases c.io with
  | none => simp
  | some kind => cases kind <;> simp

end Cause

namespace FetchError

/-! ## The order of the kinds -/

/-- How much a kind weighs. -/
def Kind.weight : Kind → Nat
  | .other => 0
  | .network => 1
  | .dns => 2

theorem Kind.weight_injective : Function.Injective weight := by
  intro k k' h
  cases k <;> cases k' <;> first | rfl | cases h

/-- Kinds are ordered by their weight. -/
instance : LinearOrder Kind := LinearOrder.lift' Kind.weight Kind.weight_injective

/-! ## Walking along a chain -/

/-- What the walk along a chain comes to: the first unresolved name ends it, wherever it stands,
and a network that is down is kept in mind up to the end. -/
theorem classifyAfter_eq (network : Bool) (chain : List Cause) :
    classifyAfter network chain
      = if chain.any Cause.namesDns then .dns
        else if network || chain.any Cause.isNetwork then .network else .other := by
  -- the walk sets the flag as it goes, so the rest of the chain is walked with another one
  induction chain generalizing network with
  | nil => simp [classifyAfter]
  | cons c rest ih =>
      rw [classifyAfter, List.any_cons, List.any_cons]
      by_cases hdns : c.namesDns = true
      · simp [hdns]
      · rw [if_neg hdns, ih, Bool.eq_false_iff.mpr hdns, Bool.false_or, Bool.or_assoc]

theorem classify_eq (chain : List Cause) :
    classify chain
      = if chain.any Cause.namesDns then .dns
        else if chain.any Cause.isNetwork then .network else .other := by
  rw [classify, classifyAfter_eq, Bool.false_or]

theorem any_namesDns_iff {chain : List Cause} :
    chain.any Cause.namesDns = true ↔ ∃ c ∈ chain, c.SaysUnresolved := by
  rw [List.any_eq_true]
  exact exists_congr fun c => and_congr_right fun _ => Cause.namesDns_eq_true_iff

theorem any_isNetwork_iff {chain : List Cause} :
    chain.any Cause.isNetwork = true ↔ ∃ c ∈ chain, c.SaysDown := by
  rw [List.any_eq_true]
  exact exists_congr fun c => and_congr_right fun _ => Cause.isNetwork_eq_true_iff

theorem classify_eq_dns_iff {chain : List Cause} :
    classify chain = .dns ↔ ∃ c ∈ chain, c.SaysUnresolved := by
  rw [classify_eq, ← any_namesDns_iff]
  cases chain.any Cause.namesDns <;> cases chain.any Cause.isNetwork <;> simp

theorem classify_eq_network_iff {chain : List Cause} :
    classify chain = .network
      ↔ (¬∃ c ∈ chain, c.SaysUnresolved) ∧ ∃ c ∈ chain, c.SaysDown := by
  rw [classify_eq, ← any_namesDns_iff, ← any_isNetwork_iff]
  cases chain.any Cause.namesDns <;> cases chain.any Cause.isNetwork <;> simp

theorem classify_eq_other_iff {chain : List Cause} :
    classify chain = .other
      ↔ (¬∃ c ∈ chain, c.SaysUnresolved) ∧ ¬∃ c ∈ chain, c.SaysDown := by
  rw [classify_eq, ← any_namesDns_iff, ← any_isNetwork_iff]
  cases chain.any Cause.namesDns <;> cases chain.any Cause.isNetwork <;> simp

/-! ## The weightiest cause -/

/-- **A chain weighs as much as the weightier one of its two parts.** -/
theorem classify_append (outer inner : List Cause) :
    classify (outer ++ inner) = max (classify outer) (classify inner) := by
  simp only [classify_eq, List.any_append]
  -- what is left depends on four answers only
  generalize outer.any Cause.namesDns = a, inner.any Cause.namesDns = b,
    outer.any Cause.isNetwork = c, inner.any Cause.isNetwork = d
  revert a b c d
  decide

theorem classify_cons (c : Cause) (rest : List Cause) :
    classify (c :: rest) = max (classify [c]) (classify rest) := classify_append [c] rest

/-- The kind of a chain, cause by cause. -/
theorem classify_eq_foldr (chain : List Cause) :
    classify chain = (chain.map fun c => classify [c]).foldr max .other := by
  induction chain with
  | nil => rfl
  | cons c rest ih => rw [classify_cons, ih, List.map_cons, List.foldr_cons]

/-- The order of the causes does not count. -/
theorem classify_of_perm {chain chain' : List Cause} (h : chain'.Perm chain) :
    classify chain' = classify chain := by
  rw [classify_eq_foldr, classify_eq_foldr]
  exact (h.map _).foldr_eq _

/-- A cause weighs at most as much as a chain that it is part of. -/
theorem classify_singleton_le {chain : List Cause} {c : Cause} (h : c ∈ chain) :
    classify [c] ≤ classify chain := by
  obtain ⟨outer, inner, rfl⟩ := List.append_of_mem h
  rw [classify_append, classify_cons c inner]
  exact le_max_of_le_right (le_max_left _ _)

/-- In a chain with any causes one weighs as much as all of them. -/
theorem exists_classify_singleton {chain : List Cause} (h : chain ≠ []) :
    ∃ c ∈ chain, classify [c] = classify chain := by
  induction chain with
  | nil => exact absurd rfl h
  | cons c rest ih =>
      -- the weightier of the first cause and of the weightiest among the others
      rcases le_total (classify rest) (classify [c]) with hle | hle
      · exact ⟨c, List.mem_cons_self, by rw [classify_cons c rest, max_eq_left hle]⟩
      · by_cases hrest : rest = []
        · exact ⟨c, List.mem_cons_self, by rw [hrest]⟩
        · obtain ⟨d, hd, heq⟩ := ih hrest
          exact ⟨d, List.mem_cons_of_mem c hd, by rw [heq, classify_cons c rest, max_eq_right hle]⟩

/-- **The kind of a chain is that of its weightiest cause.** An unresolved name anywhere outweighs a
network that is down anywhere, and that outweighs all else. So the kind of a chain is the greatest
of the kinds of its causes, each taken alone; the order of the causes does not count, and further
causes at either end never make it less. -/
theorem classify_eq_weightiest (chain : List Cause) :
    (classify chain = .dns ↔ ∃ c ∈ chain, c.SaysUnresolved)
      ∧ (classify chain = .network
          ↔ (¬∃ c ∈ chain, c.SaysUnresolved) ∧ ∃ c ∈ chain, c.SaysDown)
      ∧ (classify chain = .other
          ↔ (¬∃ c ∈ chain, c.SaysUnresolved) ∧ ¬∃ c ∈ chain, c.SaysDown)
      ∧ (Kind.other < Kind.network ∧ Kind.network < Kind.dns)
      ∧ (chain ≠ [] → IsGreatest {kind | ∃ c ∈ chain, classify [c] = kind} (classify chain))
      ∧ (∀ chain', chain'.Perm chain → classify chain' = classify chain)
      ∧ ∀ outer inner, classify chain ≤ classify (outer ++ chain ++ inner) := by
  refine ⟨classify_eq_dns_iff, classify_eq_network_iff, classify_eq_other_iff, by decide, ?_,
    fun _ => classify_of_perm, ?_⟩
  · intro hne
    refine ⟨exists_classify_singleton hne, ?_⟩
    rintro kind ⟨c, hc, rfl⟩
    exact classify_singleton_le hc
  · intro outer inner
    rw [classify_append, classify_append]
    exact le_max_of_le_left (le_max_right _ _)

/-- A refused connection around a look-up that failed, whose text is not in lower case. -/
theorem classify_of_refused_look_up :
    let refused : Cause := ⟨"client error (Connect)", some .connectionRefused⟩
    let unresolved : Cause := ⟨"Failed to LOOKUP address information", some .unrelated⟩
    [refused, unresolved] ≠ [] ∧ [unresolved, refused].Perm [refused, unresolved]
      ∧ IsGreatest {kind | ∃ c ∈ [refused, unresolved], classify [c] = kind} .dns
      ∧ classify [unresolved, refused] = .dns
      ∧ classify [refused] = .network := by
  intro refused unresolved
  have hchain : classify [refused, unresolved] = .dns := by decide
  obtain ⟨-, -, -, -, hgreatest, hperm, -⟩ := classify_eq_weightiest [refused, unresolved]
  have hswap : [unresolved, refused].Perm [refused, unresolved] := List.Perm.swap _ _ _
  rw [hchain] at hgreatest hperm
  exact ⟨List.cons_ne_nil _ _, hswap, hgreatest (List.cons_ne_nil _ _), hperm _ hswap, by decide⟩

end FetchError

end HostAgent
