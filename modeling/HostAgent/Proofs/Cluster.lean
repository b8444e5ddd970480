import HostAgent.Proofs.Host.Canonical
import HostAgent.Proofs.Overrides
import HostAgent.Proofs.Text.Reading

set_option autoImplicit false

/-! # The settings of the cluster

Each of the three settings has its sources: a local override, and an attribute of the machine and
of its project. Which of them counts differs. The list of addresses is taken from the first source
that is there, however little it says; a switch is taken from the first one that can be read; for
the port an attribute of the machine stands before that of the project even if it cannot be read
(`IsResolved`).

Of the list only the set of its pieces matters, so that settings do not change with the spelling of
the list. Joined by commas and set as an override, the addresses lead to the same settings again.
`resolve_by_precedence` puts this together.
-/

namespace HostAgent.ClusterSettings

/-! ## Lists of addresses -/

/-- Between commas the list has a piece of which trimming leaves `address`, which is not empty. -/
def Lists (list address : String) : Prop :=
  address ≠ "" ∧ ∃ pieces : List String, list = ",".intercalate pieces
    ∧ (∀ piece ∈ pieces, ',' ∉ piece.toList) ∧ ∃ piece ∈ pieces, address = trim piece

/-- The pieces of a list are those between its commas. -/
theorem lists_iff {list address : String} :
    Lists list address ↔ address ≠ "" ∧ address ∈ (splitText ',' list).map trim := by
  refine and_congr_right fun _ => ?_
  rw [List.mem_map]
  constructor
  · rintro ⟨pieces, rfl, hpieces, piece, hpiece, rfl⟩
    refine ⟨piece, ?_, rfl⟩
    rwa [splitText_intercalate rfl hpieces (List.ne_nil_of_mem hpiece)]
  · rintro ⟨piece, hpiece, rfl⟩
    exact ⟨splitText ',' list, (intercalate_splitText rfl list).symm,
      fun _ h => not_mem_of_mem_splitText h, piece, hpiece, rfl⟩

theorem mem_readAddresses_iff {list address : String} :
    address ∈ readAddresses list ↔ Lists list address := by
  rw [readAddresses, mem_sortDistinct, List.mem_filter, lists_iff, and_comm]
  exact and_congr_left fun _ => by simp

theorem readAddresses_congr {list list' : String} (h : ∀ a, Lists list a ↔ Lists list' a) :
    readAddresses list = readAddresses list' := by
  refine (pairwise_sortDistinct _).eq_of_mem_iff (pairwise_sortDistinct _) fun a => ?_
  exact mem_readAddresses_iff.trans ((h a).trans mem_readAddresses_iff.symm)

/-- **Addresses in order, joined by commas, are read as they are.** -/
theorem readAddresses_intercalate {addresses : List String}
    (haddresses : CanonicalAddresses addresses)
    (hcommas : ∀ a ∈ addresses, ',' ∉ a.toList) :
    readAddresses (",".intercalate addresses) = addresses := by
  refine (pairwise_sortDistinct _).eq_of_mem_iff haddresses.increasing fun a => ?_
  refine mem_readAddresses_iff.trans ⟨fun hlists => ?_, fun hmem => ?_⟩
  · obtain ⟨hne, hmem⟩ := lists_iff.mp hlists
    obtain ⟨piece, hpiece, rfl⟩ := List.mem_map.mp hmem
    by_cases hnil : addresses = []
    · -- the empty list has one piece, which is empty
      have hpieces : splitText ',' (",".intercalate ([] : List String)) = [""] := by decide
      rw [hnil, hpieces, List.mem_singleton] at hpiece
      exact absurd (congrArg trim hpiece) hne
    · rw [splitText_intercalate rfl hcommas hnil] at hpiece
      rwa [haddresses.trimmed piece hpiece]
  · exact ⟨haddresses.nonempty a hmem, addresses, rfl, hcommas, a, hmem,
      (haddresses.trimmed a hmem).symm⟩

/-! ## The sources of the settings -/

/-- The sources of the list of addresses. -/
def listSources (s : Snapshot) (overrides : Overrides) : List (Option String) :=
  [overrides.get? "wsfc" "addresses", s.machine.attributes.get? "wsfc-addrs",
    s.project.attributes.get? "wsfc-addrs"]

/-- The sources of the switch. -/
def switchSources (s : Snapshot) (overrides : Overrides) : List (Option String) :=
  [overrides.get? "wsfc" "enable", s.machine.attributes.get? "enable-wsfc",
    s.project.attributes.get? "enable-wsfc"]

/-- The attributes that may hold the port. -/
def portAttributes (s : Snapshot) : List (Option String) :=
  [s.machine.attributes.get? "wsfc-agent-port", s.project.attributes.get? "wsfc-agent-port"]

/-- The list of addresses that is in force. -/
def ListInForce (s : Snapshot) (overrides : Overrides) (list : String) : Prop :=
  SaysOr (fun text value => text = value) (listSources s overrides) "" list

/-- The attribute that is published for the port. -/
def PublishedPort (s : Snapshot) (published : Option String) : Prop :=
  ∀ text, published = some text ↔ FirstSays (fun text value => text = value) (portAttributes s) text

/-- The settings that the sources amount to. -/
structure IsResolved (s : Snapshot) (overrides : Overrides) (c : ClusterSettings) : Prop where
  increasing : c.addresses.Pairwise (· < ·)
  addresses : ∃ list, ListInForce s overrides list ∧ ∀ a, a ∈ c.addresses ↔ Lists list a
  enabled : SaysOr SaysSwitch (switchSources s overrides) (decide (c.addresses ≠ [])) c.enabled
  agentPort : ∃ published, PublishedPort s published
    ∧ SaysOr SaysPort [overrides.get? "wsfc" "port", published] 59998 c.agentPort

/-- A text says what it is. -/
theorem itself_iff {text value : String} : some text = some value ↔ text = value := Option.some_inj

theorem listInForce_iff {s : Snapshot} {overrides : Overrides} {list : String} :
    ListInForce s overrides list
      ↔ ((overrides.get? "wsfc" "addresses").or (s.attribute? "wsfc-addrs")).getD "" = list := by
  rw [ListInForce, ← getD_findSome?_eq_iff fun _ _ => itself_iff]
  simp only [listSources, findSome?_cons_eq_or, List.findSome?_nil, Option.or_none,
    Option.bind_fun_some, Snapshot.attribute?]

theorem publishedPort_iff {s : Snapshot} {published : Option String} :
    PublishedPort s published ↔ published = s.attribute? "wsfc-agent-port" := by
  have hfirst : ∀ text, FirstSays (fun text value => text = value) (portAttributes s) text
      ↔ s.attribute? "wsfc-agent-port" = some text := by
    intro text
    rw [← findSome?_eq_some_iff_firstSays fun _ _ => itself_iff]
    simp only [portAttributes, findSome?_cons_eq_or, List.findSome?_nil, Option.or_none,
      Option.bind_fun_some, Snapshot.attribute?]
  simp only [PublishedPort, hfirst]
  exact ⟨Option.ext, fun h text => by rw [h]⟩

theorem enabled_iff {s : Snapshot} {overrides : Overrides} {default enabled : Bool} :
    SaysOr SaysSwitch (switchSources s overrides) default enabled
      ↔ ((overrides.switch? "wsfc" "enable").or (s.switch? "enable-wsfc")).getD default
        = enabled := by
  rw [← getD_findSome?_eq_iff fun _ _ => Switch.read_eq_some_iff]
  simp only [switchSources, findSome?_cons_eq_or, List.findSome?_nil, Option.or_none,
    Overrides.switch?, Snapshot.switch?]

theorem agentPort_iff {overrides : Overrides} {published : Option String} {port : Nat} :
    SaysOr SaysPort [overrides.get? "wsfc" "port", published] 59998 port
      ↔ ((overrides.port? "wsfc" "port").or (published.bind Overrides.readPort)).getD defaultPort
        = port := by
  rw [← getD_findSome?_eq_iff fun _ _ => Overrides.readPort_eq_some_iff]
  simp only [findSome?_cons_eq_or, List.findSome?_nil, Option.or_none, Overrides.port?, defaultPort]

/-! ## What the sources amount to -/

theorem resolve_addresses {s : Snapshot} {overrides : Overrides} {list : String}
    (h : ListInForce s overrides list) : (resolve s overrides).addresses = readAddresses list := by
  rw [resolve, listInForce_iff.mp h]

theorem resolve_enabled (s : Snapshot) (overrides : Overrides) :
    (resolve s overrides).enabled
      = ((overrides.switch? "wsfc" "enable").or (s.switch? "enable-wsfc")).getD
          (decide ((resolve s overrides).addresses ≠ [])) := by
  have hlisted : ∀ addresses : List String, (!addresses.isEmpty) = decide (addresses ≠ []) := by
    intro addresses
    cases addresses with
    | nil => rfl
    | cons a rest => rfl
  rw [← hlisted]
  rfl

/-- The settings are what their sources amount to. -/
theorem isResolved_resolve (s : Snapshot) (overrides : Overrides) :
    IsResolved s overrides (resolve s overrides) where
  increasing := pairwise_sortDistinct _
  addresses := ⟨_, listInForce_iff.mpr rfl, fun _ => mem_readAddresses_iff⟩
  enabled := enabled_iff.mpr (resolve_enabled s overrides).symm
  agentPort := ⟨_, publishedPort_iff.mpr rfl, agentPort_iff.mpr rfl⟩

/-- The sources amount to one thing only. -/
theorem IsResolved.unique {s : Snapshot} {overrides : Overrides} {c c' : ClusterSettings}
    (h : IsResolved s overrides c) (h' : IsResolved s overrides c') : c = c' := by
  obtain ⟨hincreasing, ⟨list, hlist, hmem⟩, henabled, ⟨published, hpublished, hport⟩⟩ := h
  obtain ⟨hincreasing', ⟨list', hlist', hmem'⟩, henabled', ⟨published', hpublished', hport'⟩⟩ := h'
  obtain rfl : list = list' := (listInForce_iff.mp hlist).symm.trans (listInForce_iff.mp hlist')
  obtain rfl : published = published' :=
    (publishedPort_iff.mp hpublished).trans (publishedPort_iff.mp hpublished').symm
  have haddresses : c.addresses = c'.addresses :=
    hincreasing.eq_of_mem_iff hincreasing' fun a => (hmem a).trans (hmem' a).symm
  rw [haddresses] at henabled
  have hswitch : c.enabled = c'.enabled :=
    (enabled_iff.mp henabled).symm.trans (enabled_iff.mp henabled')
  have hagent : c.agentPort = c'.agentPort :=
    (agentPort_iff.mp hport).symm.trans (agentPort_iff.mp hport')
  cases c
  cases c'
  simp only at haddresses hswitch hagent
  rw [haddresses, hswitch, hagent]

theorem resolve_eq_iff {s : Snapshot} {overrides : Overrides} {c : ClusterSettings} :
    resolve s overrides = c ↔ IsResolved s overrides c := by
  constructor
  · rintro rfl
    exact isResolved_resolve s overrides
  · exact (isResolved_resolve s overrides).unique

/-- Sources that differ in the spelling of the list amount to the same settings. -/
theorem resolve_congr {s s' : Snapshot} {overrides overrides' : Overrides} {list list' : String}
    (hlist : ListInForce s overrides list) (hlist' : ListInForce s' overrides' list')
    (hsame : ∀ a, Lists list a ↔ Lists list' a)
    (hswitch : switchSources s overrides = switchSources s' overrides')
    (hport : overrides.get? "wsfc" "port" = overrides'.get? "wsfc" "port")
    (hattributes : portAttributes s = portAttributes s') :
    resolve s overrides = resolve s' overrides' := by
  obtain ⟨hincreasing, -, henabled, hagent⟩ := isResolved_resolve s' overrides'
  rw [resolve_eq_iff]
  refine ⟨hincreasing, ⟨list, hlist, fun a => ?_⟩, ?_, ?_⟩
  · rw [resolve_addresses hlist', mem_readAddresses_iff, hsame]
  · rw [hswitch]
    exact henabled
  · simp only [PublishedPort, hport, hattributes]
    exact hagent

/-! ## Setting the addresses again -/

/-- The override of the list of addresses by the given ones. -/
def listing (addresses : List String) : Overrides.Entry :=
  ⟨"wsfc", "addresses", ",".intercalate addresses⟩

theorem get?_assign_listing_of_ne (overrides : Overrides) (addresses : List String) {key : String}
    (h : ¬SameName key "addresses") :
    (overrides.assign (listing addresses)).get? "wsfc" key = overrides.get? "wsfc" key := by
  rw [Overrides.get?_assign, if_neg fun hsame => h hsame.2]

theorem listInForce_listing (s : Snapshot) (overrides : Overrides) (addresses : List String) :
    ListInForce s (overrides.assign (listing addresses)) (",".intercalate addresses) := by
  have hget : (overrides.assign (listing addresses)).get? "wsfc" "addresses"
      = some (",".intercalate addresses) := by
    rw [Overrides.get?_assign, if_pos ⟨rfl, rfl⟩]
    rfl
  rw [listInForce_iff, hget]
  rfl

/-- **Setting the addresses that are in force changes nothing.** -/
theorem resolve_assign_listing (s : Snapshot) (overrides : Overrides) :
    resolve s (overrides.assign (listing (resolve s overrides).addresses))
      = resolve s overrides := by
  obtain ⟨haddresses, hcommas⟩ := canonical_resolve s overrides
  have hlist : ListInForce s overrides _ := listInForce_iff.mpr rfl
  refine resolve_congr (listInForce_listing s overrides _) hlist (fun a => ?_) ?_ ?_ rfl
  · rw [← mem_readAddresses_iff, ← mem_readAddresses_iff,
      readAddresses_intercalate haddresses hcommas, resolve_addresses hlist]
  · rw [switchSources, get?_assign_listing_of_ne _ _ (by decide)]
    rfl
  · exact get?_assign_listing_of_ne _ _ (by decide)

/-! ## All of it together -/

/-- **The settings are determined by the precedence of their sources and by the set of the addresses
that are listed.** They are what `IsResolved` says and nothing else; lists of the same addresses, in
any order, repetition and spelling, lead to the same addresses, and to the same settings if the
switch and the port have the same sources; and the addresses that are in force may be set as an
override without a change. -/
theorem resolve_by_precedence (s : Snapshot) (overrides : Overrides) :
    (∀ c, resolve s overrides = c ↔ IsResolved s overrides c)
      ∧ (∀ s' overrides' list list', ListInForce s overrides list →
          ListInForce s' overrides' list' → (∀ a, Lists list a ↔ Lists list' a) →
          (resolve s overrides).addresses = (resolve s' overrides').addresses
            ∧ (switchSources s overrides = switchSources s' overrides' →
                overrides.get? "wsfc" "port" = overrides'.get? "wsfc" "port" →
                portAttributes s = portAttributes s' →
                resolve s overrides = resolve s' overrides'))
      ∧ resolve s (overrides.assign
          ⟨"wsfc", "addresses", ",".intercalate (resolve s overrides).addresses⟩)
        = resolve s overrides := by
  refine ⟨fun _ => resolve_eq_iff, fun s' overrides' list list' hlist hlist' hsame => ⟨?_, ?_⟩,
    resolve_assign_listing s overrides⟩
  · rw [resolve_addresses hlist, resolve_addresses hlist', readAddresses_congr hsame]
  · exact resolve_congr hlist hlist' hsame

/-- A machine with a list of two addresses, one of them twice, a switch that cannot be read before
one of its project that can, and a port that cannot be read before one of its project. -/
def looseMember : Snapshot where
  machine := { attributes := Dict.ofList [("wsfc-addrs", "10.0.0.6, 10.0.0.5,,10.0.0.6"),
    ("enable-wsfc", "perhaps"), ("wsfc-agent-port", "none")] }
  project := { attributes := Dict.ofList [("enable-wsfc", " ON "), ("wsfc-agent-port", "7")] }

/-- The same machine under an override that lists the two addresses in another way. -/
theorem resolve_of_relisted_member :
    let relisted := Overrides.ofEntries [⟨"WSFC", "Addresses", " 10.0.0.5 ,10.0.0.6"⟩]
    (∀ a, Lists "10.0.0.6, 10.0.0.5,,10.0.0.6" a ↔ Lists " 10.0.0.5 ,10.0.0.6" a)
      ∧ resolve looseMember ∅ = resolve looseMember relisted
      ∧ resolve looseMember ∅ = ⟨true, ["10.0.0.5", "10.0.0.6"], 59998⟩ := by
  intro relisted
  have hread : readAddresses "10.0.0.6, 10.0.0.5,,10.0.0.6"
      = readAddresses " 10.0.0.5 ,10.0.0.6" := by decide +kernel
  have hsame : ∀ a, Lists "10.0.0.6, 10.0.0.5,,10.0.0.6" a ↔ Lists " 10.0.0.5 ,10.0.0.6" a := by
    intro a
    rw [← mem_readAddresses_iff, ← mem_readAddresses_iff, hread]
  obtain ⟨-, hlists, -⟩ := resolve_by_precedence looseMember ∅
  obtain ⟨-, hresolve⟩ := hlists looseMember relisted _ _ (listInForce_iff.mpr (by decide +kernel))
    (listInForce_iff.mpr (by decide +kernel)) hsame
  exact ⟨hsame, hresolve (by decide +kernel) (by decide +kernel) rfl, by decide +kernel⟩

end HostAgent.ClusterSettings
