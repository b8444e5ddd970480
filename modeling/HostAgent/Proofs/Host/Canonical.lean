import HostAgent.Proofs.Account.Key
import HostAgent.Proofs.Host.Operations
import HostAgent.Proofs.Text.Blank

set_option autoImplicit false

/-! # The form of the record

Whatever is published, the record of a host is in one form (`HostState.Canonical`): addresses and
names in strictly increasing order, addresses trimmed, no empty texts, no comma in an address of
the cluster and no upload twice. Each of the four kinds of operations that a cycle asks for
carries its part of that form (`Registry.canonical_operations`), and an operation that fails or
is not asked for leaves the record as it is.

Some of the record only grows (`HostState.GrowsTo`): uploads are added at the end, a membership
is changed but not given up, and the count of mutations goes up.
-/

namespace HostAgent

/-! ## Canonical values -/

/-- Trimmed texts, none of them empty, in strictly increasing order. -/
structure CanonicalAddresses (addresses : List String) : Prop where
  increasing : addresses.Pairwise (· < ·)
  trimmed : ∀ a ∈ addresses, IsTrimmed a
  nonempty : ∀ a ∈ addresses, a ≠ ""

/-- Texts in strictly increasing order, none of them empty. -/
structure CanonicalNames (names : List String) : Prop where
  increasing : names.Pairwise (· < ·)
  nonempty : ∀ name ∈ names, name ≠ ""

/-- The addresses of the cluster are canonical and hold no comma. -/
structure ClusterSettings.Canonical (settings : ClusterSettings) : Prop where
  addresses : CanonicalAddresses settings.addresses
  comma_free : ∀ a ∈ settings.addresses, ',' ∉ a.toList

/-- The form of the record of a host. -/
structure HostState.Canonical (s : HostState) : Prop where
  addresses : CanonicalAddresses s.addresses
  accounts : CanonicalNames s.accounts
  cluster : ∀ membership, s.cluster = some membership → membership.Canonical
  uploads : s.uploads.Nodup

/-- What trimming and dropping the empty ones makes of any texts, once they are sorted. -/
theorem canonicalAddresses_sortDistinct {texts : List String}
    (h : ∀ a ∈ texts, IsTrimmed a ∧ a ≠ "") : CanonicalAddresses (sortDistinct texts) where
  increasing := pairwise_sortDistinct texts
  trimmed a ha := (h a (mem_sortDistinct.mp ha)).1
  nonempty a ha := (h a (mem_sortDistinct.mp ha)).2

theorem isTrimmed_of_mem_filter {texts : List String} {a : String}
    (h : a ∈ (texts.map trim).filter fun a => !a.isEmpty) : IsTrimmed a ∧ a ≠ "" := by
  obtain ⟨hmem, hne⟩ := List.mem_filter.mp h
  obtain ⟨text, -, rfl⟩ := List.mem_map.mp hmem
  refine ⟨isTrimmed_trim text, fun hempty => ?_⟩
  rw [hempty] at hne
  exact absurd hne (by decide)

theorem canonical_desiredAddresses (s : Snapshot) (overrides : Overrides) :
    CanonicalAddresses (desiredAddresses s overrides) := by
  unfold desiredAddresses
  refine canonicalAddresses_sortDistinct fun a ha => ?_
  exact isTrimmed_of_mem_filter (List.mem_of_mem_filter ha)

theorem canonical_accountNames (s : Snapshot) (now : Instant) :
    CanonicalNames (sortTexts ((AccountKey.readAll ((Accounts.publishedKeys? s).getD "") now).1.map
      (·.userName))) := by
  have hincreasing := AccountKey.pairwise_map_userName_readAll
    ((Accounts.publishedKeys? s).getD "") now
  rw [sortTexts_eq_self hincreasing]
  refine ⟨hincreasing, fun name hname => ?_⟩
  obtain ⟨key, hkey, rfl⟩ := List.mem_map.mp hname
  exact AccountKey.userName_ne_empty_of_mem_readAll hkey

theorem ClusterSettings.canonical_resolve (s : Snapshot) (overrides : Overrides) :
    (resolve s overrides).Canonical := by
  constructor
  · exact canonicalAddresses_sortDistinct fun a ha => isTrimmed_of_mem_filter ha
  · intro a ha hcomma
    obtain ⟨hmem, -⟩ := List.mem_filter.mp (mem_sortDistinct.mp ha)
    obtain ⟨piece, hpiece, rfl⟩ := List.mem_map.mp hmem
    -- trimming adds no comma, and the pieces were cut at the commas
    rw [toList_trim] at hcomma
    exact not_mem_of_mem_splitText hpiece (mem_of_mem_trimChars hcomma)

/-! ## Canonical operations -/

namespace HostOperation

/-- What an operation records is in canonical form. -/
def Canonical : HostOperation → Prop
  | .addresses list => CanonicalAddresses list
  | .accounts keys => CanonicalNames (sortTexts (keys.map (·.userName)))
  | .diagnostics _ => True
  | .cluster settings => settings.Canonical

theorem Canonical.applyTo {op : HostOperation} (hop : op.Canonical) {s : HostState}
    (hs : s.Canonical) : (op.applyTo s).Canonical := by
  cases op with
  | addresses list => exact ⟨hop, hs.accounts, hs.cluster, hs.uploads⟩
  | accounts keys => exact ⟨hs.addresses, hop, hs.cluster, hs.uploads⟩
  | cluster settings =>
      refine ⟨hs.addresses, hs.accounts, fun membership hm => ?_, hs.uploads⟩
      obtain rfl := Option.some.inj hm
      exact hop
  | diagnostics request =>
      rw [HostOperation.applyTo]
      split
      · exact hs
      · next hnew =>
        refine ⟨hs.addresses, hs.accounts, hs.cluster, ?_⟩
        exact List.nodup_append.mpr ⟨hs.uploads, List.pairwise_singleton _ _, fun a ha b hb =>
          fun heq => hnew (List.mem_singleton.mp hb ▸ heq ▸ ha)⟩

theorem Canonical.settle {op : HostOperation} (hop : op.Canonical) {s : HostState}
    (hs : s.Canonical) : (op.settle s).Canonical := by
  by_cases h : op.Holds s
  · rw [settle_of_holds h]
    exact hs
  · obtain ⟨haddresses, haccounts, hcluster, huploads⟩ := hop.applyTo hs
    rw [settle_of_not_holds h]
    exact ⟨haddresses, haccounts, hcluster, huploads⟩

theorem canonical_settleAll {ops : List HostOperation} (hops : ∀ op ∈ ops, op.Canonical)
    {s : HostState} (hs : s.Canonical) : (settleAll s ops).Canonical := by
  induction ops generalizing s with
  | nil => exact hs
  | cons op ops ih =>
      exact ih (fun op' h => hops op' (List.mem_cons_of_mem op h))
        ((hops op List.mem_cons_self).settle hs)

end HostOperation

/-- **All that a cycle asks for is in canonical form**, whatever is published. -/
theorem Registry.canonical_operations (i : Inputs Snapshot) :
    ∀ op ∈ Registry.operations i, op.Canonical := by
  intro op hop
  obtain ⟨duty, hduty, -, hasks⟩ := Duty.mem_asked.mp hop
  simp only [duties, List.mem_cons, List.not_mem_nil, or_false] at hduty
  rcases hduty with rfl | rfl | rfl | rfl
  · obtain rfl := Option.some.inj hasks
    exact canonical_desiredAddresses i.current i.overrides
  · obtain rfl := Option.some.inj hasks
    exact canonical_accountNames i.current i.now
  · obtain rfl := Option.some.inj hasks
    exact ClusterSettings.canonical_resolve i.current i.overrides
  · obtain ⟨request, -, rfl⟩ := Option.map_eq_some_iff.mp hasks
    trivial

/-! ## Growth -/

/-- What lasts of a record: uploads are added at the end only, a membership stays one, and
mutations are counted upwards. -/
structure HostState.GrowsTo (s s' : HostState) : Prop where
  uploads : s.uploads <+: s'.uploads
  cluster : s.cluster.isSome → s'.cluster.isSome
  mutations : s.mutations ≤ s'.mutations

namespace HostState.GrowsTo

theorem refl (s : HostState) : s.GrowsTo s := ⟨List.prefix_rfl, id, Nat.le_refl _⟩

theorem trans {s s' s'' : HostState} (h : s.GrowsTo s') (h' : s'.GrowsTo s'') :
    s.GrowsTo s'' :=
  ⟨h.uploads.trans h'.uploads, h'.cluster ∘ h.cluster, Nat.le_trans h.mutations h'.mutations⟩

end HostState.GrowsTo

namespace HostOperation

theorem growsTo_settle (op : HostOperation) (s : HostState) : s.GrowsTo (op.settle s) := by
  by_cases h : op.Holds s
  · rw [settle_of_holds h]
    exact .refl s
  · rw [settle_of_not_holds h]
    have hcount : s.mutations ≤ s.mutations + 1 := Nat.le_succ _
    cases op with
    | addresses list => exact ⟨List.prefix_rfl, id, hcount⟩
    | accounts keys => exact ⟨List.prefix_rfl, id, hcount⟩
    | cluster settings => exact ⟨List.prefix_rfl, fun _ => rfl, hcount⟩
    | diagnostics request =>
        have hnew : request.signedUrl ∉ s.uploads := h
        simp only [applyTo, hnew, if_false]
        exact ⟨List.prefix_append _ _, id, hcount⟩

theorem growsTo_settleAll (s : HostState) (ops : List HostOperation) :
    s.GrowsTo (settleAll s ops) := by
  induction ops generalizing s with
  | nil => exact .refl s
  | cons op ops ih => exact (growsTo_settle op s).trans (ih (op.settle s))

end HostOperation

/-! ## Runs -/

namespace Loop

theorem canonical_next (path : String) {l : Loop} (o : Occasion) (hl : l.host.state.Canonical) :
    (l.next path o).host.state.Canonical := by
  rw [state_next]
  refine HostOperation.canonical_settleAll (fun op hop => ?_) hl
  exact Registry.canonical_operations _ op (List.mem_of_mem_filter hop)

theorem canonical_run (path : String) {l : Loop} (occasions : List Occasion)
    (hl : l.host.state.Canonical) : (run path l occasions).host.state.Canonical := by
  induction occasions generalizing l with
  | nil => exact hl
  | cons o occasions ih => exact ih (canonical_next path o hl)

/-- The record of a fresh host is in canonical form. -/
theorem canonical_fresh : ({} : Loop).host.state.Canonical where
  addresses := ⟨.nil, fun _ h => (List.not_mem_nil h).elim, fun _ h => (List.not_mem_nil h).elim⟩
  accounts := ⟨.nil, fun _ h => (List.not_mem_nil h).elim⟩
  cluster _ h := nomatch h
  uploads := .nil

theorem growsTo_run (path : String) (l : Loop) (occasions : List Occasion) :
    l.host.state.GrowsTo (run path l occasions).host.state := by
  induction occasions generalizing l with
  | nil => exact .refl _
  | cons o occasions ih =>
      have hfirst : l.host.state.GrowsTo (l.next path o).host.state := by
        rw [state_next]
        exact HostOperation.growsTo_settleAll _ _
      exact hfirst.trans (ih (l.next path o))

end Loop

/-- **The record of a host is in canonical form at all times, and what lasts of it only grows.**
This holds of every run of the agent on a fresh host: for all snapshots, override files and clock
readings, whichever domains are made to fail between the cycles, and in every order of the
tasks. -/
theorem host_canonical_and_grows (path : String) (earlier later : List Occasion) :
    (Loop.run path {} earlier).host.state.Canonical
      ∧ (Loop.run path {} earlier).host.state.GrowsTo
          (Loop.run path {} (earlier ++ later)).host.state := by
  constructor
  · exact Loop.canonical_run path earlier Loop.canonical_fresh
  · rw [Loop.run_append]
    exact Loop.growsTo_run path (Loop.run path {} earlier) later

end HostAgent
