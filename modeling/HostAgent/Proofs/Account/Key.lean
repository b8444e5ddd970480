import HostAgent.Account.Key
import HostAgent.Proofs.Text.Order

set_option autoImplicit false

/-! # Account keys and the clock

The keys that a text publishes come in the order of their users, one key for each user, and none
without a user. The clock enters by the expiries alone: two readings that no expiry instant of
the text falls between select the same keys (`fst_readAll_congr`).
-/

namespace HostAgent.AccountKey

/-! ## One key for each user -/

/-- Each key is filed under its own user. -/
theorem userName_of_mem_byUser {lines : List Line} {e : String × AccountKey}
    (h : e ∈ (byUser lines).entries) : e.2.userName = e.1 := by
  refine Dict.forall_mem_ofList (P := fun e => e.2.userName = e.1) (fun b hb => ?_) e h
  obtain ⟨key, -, rfl⟩ := List.mem_map.mp hb
  rfl

theorem fst_readAll (raw : String) (now : Instant) :
    (readAll raw now).1 = (byUser (readLines raw now)).values := by
  rw [readAll]

/-- The users are in order and distinct. -/
theorem pairwise_map_userName_readAll (raw : String) (now : Instant) :
    ((readAll raw now).1.map (·.userName)).Pairwise (· < ·) := by
  rw [fst_readAll, Dict.map_values_eq_keys fun _ he => userName_of_mem_byUser he]
  exact Dict.pairwise_keys _

/-! ## Every key names a user -/

theorem Line.userName_ne_empty_of_read {now : Instant} {line : List Char} {key : AccountKey}
    (h : Line.read now line = .usable key) : key.userName ≠ "" := by
  rw [Line.read] at h
  split at h
  · nomatch h
  · next read _ =>
    split at h
    · nomatch h
    · next hnamed =>
      split at h
      · nomatch h
      · obtain rfl := Line.usable.inj h
        intro hempty
        rw [hempty] at hnamed
        exact hnamed rfl

/-- The keys that a text publishes all name a user. -/
theorem userName_ne_empty_of_mem_readAll {raw : String} {now : Instant} {key : AccountKey}
    (h : key ∈ (readAll raw now).1) : key.userName ≠ "" := by
  rw [fst_readAll] at h
  obtain ⟨entry, hentry, rfl⟩ := List.mem_map.mp h
  refine Dict.forall_mem_ofList (P := fun e => e.2.userName ≠ "") (fun b hb => ?_) entry hentry
  obtain ⟨key, hkey, rfl⟩ := List.mem_map.mp hb
  obtain ⟨line, hline, hread⟩ := List.mem_filterMap.mp hkey
  obtain ⟨content, -, rfl⟩ := List.mem_map.mp hline
  cases hkind : Line.read now content with
  | usable read =>
      rw [hkind] at hread
      obtain rfl := Option.some.inj hread
      exact Line.userName_ne_empty_of_read hkind
  | malformed fault | nameless | expired user =>
      rw [hkind] at hread
      nomatch hread

/-! ## Expiries -/

/-- The instant at which an expiry passes, if there is one. -/
def expiryInstant? (expiry : Option String) : Option Instant :=
  expiry.bind fun s => Instant.read? (trim s)

theorem expiryInstant?_some (s : String) :
    expiryInstant? (some s) = Instant.read? (trim s) := by
  rw [expiryInstant?, Option.bind_some]

/-- The expiry instants that a text publishes. -/
def expiries (raw : String) : List Instant :=
  (contentLines raw).filterMap fun line =>
    (Json.decode record.read line).toOption.bind fun key => expiryInstant? key.expireOn

/-- Two readings of the clock are alike for an expiry that is before both or before neither. -/
theorem hasExpired_congr {expiry : Option String} {a b : Instant}
    (h : ∀ t, expiryInstant? expiry = some t → t.before a = t.before b) :
    hasExpired expiry a = hasExpired expiry b := by
  cases expiry with
  | none => rfl
  | some s =>
      simp only [hasExpired]
      split
      · rfl
      · cases ht : Instant.read? (trim s) with
        | none => rfl
        | some t => exact h t (by rw [expiryInstant?_some, ht])

theorem Line.read_congr {line : List Char} {a b : Instant}
    (h : ∀ key t, Json.decode record.read line = .ok key → expiryInstant? key.expireOn = some t →
      t.before a = t.before b) :
    Line.read a line = Line.read b line := by
  rw [Line.read, Line.read]
  cases hd : Json.decode record.read line with
  | error fault => rfl
  | ok key => simp only [hasExpired_congr fun t ht => h key t hd ht]

/-- **Two readings of the clock are alike for a text if no expiry falls between them.** -/
theorem readAll_congr {raw : String} {a b : Instant}
    (h : ∀ t ∈ expiries raw, t.before a = t.before b) : readAll raw a = readAll raw b := by
  have hlines : readLines raw a = readLines raw b := by
    refine List.map_congr_left fun line hline => Line.read_congr fun key t hd ht => h t ?_
    refine List.mem_filterMap.mpr ⟨line, hline, ?_⟩
    rw [hd]
    exact ht
  rw [readAll, readAll, hlines]

/-- So they select the same keys. -/
theorem fst_readAll_congr {raw : String} {a b : Instant}
    (h : ∀ t ∈ expiries raw, t.before a = t.before b) :
    (readAll raw a).1 = (readAll raw b).1 := by
  rw [readAll_congr h]

end HostAgent.AccountKey
