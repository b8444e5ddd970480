import HostAgent.Proofs.Account.Selection

set_option autoImplicit false

/-! # Account keys in the course of time

As time goes on keys expire and none comes to life again, so a line that is usable at some moment
was usable at all moments before it (`Usable.was_usable`). Users therefore get lost only. What a
user has may still change: where the last usable line of a user expires, an earlier one counts
again. This is the only way for it to change, and it takes an expiry in between
(`readAll_at_later`).
-/

namespace HostAgent

/-! ## Moments -/

theorem Instant.before_eq_true_iff (a b : Instant) : a.before b = true
    ↔ a.seconds < b.seconds ∨ a.seconds = b.seconds ∧ a.nanos < b.nanos := by
  simp only [before, Bool.or_eq_true, Bool.and_eq_true, decide_eq_true_eq, beq_iff_eq]

section

variable {earlier later : Instant}

/-- What is before a moment is before all later ones. -/
theorem Instant.before_of_before (h : later.before earlier = false) {t : Instant}
    (ht : t.before earlier = true) : t.before later = true := by
  rw [← Bool.not_eq_true, before_eq_true_iff] at h
  rw [before_eq_true_iff] at ht ⊢
  omega

theorem Lapsed.remains (h : later.before earlier = false) {expiry : Option String}
    (hlapsed : Lapsed expiry earlier) : Lapsed expiry later := by
  obtain ⟨s, hs, hblank, hread⟩ := hlapsed
  exact ⟨s, hs, hblank, hread.imp_right fun ⟨t, ht, hbefore⟩ =>
    ⟨t, ht, Instant.before_of_before h hbefore⟩⟩

namespace AccountKey

/-- An expiry that passes between two moments is an instant between them. -/
theorem exists_expiryInstant?_of_lapsed {expiry : Option String} (hvalid : ¬Lapsed expiry earlier)
    (hlapsed : Lapsed expiry later) : ∃ t, expiryInstant? expiry = some t
      ∧ t.before earlier = false ∧ t.before later = true := by
  obtain ⟨s, rfl, hblank, hnone | ⟨t, ht, hbefore⟩⟩ := hlapsed
  · exact absurd ⟨s, rfl, hblank, .inl hnone⟩ hvalid
  · refine ⟨t, (expiryInstant?_some s).trans ht, ?_, hbefore⟩
    rw [← Bool.not_eq_true]
    exact fun hpassed => hvalid ⟨s, rfl, hblank, .inr ⟨t, ht, hpassed⟩⟩

/-! ## Usable lines -/

variable {lines : List (List Char)} {line : List Char} {key key' : AccountKey} {now : Instant}

/-- **A line that is usable was usable before.** -/
theorem Usable.was_usable (h : later.before earlier = false) (husable : Usable later line key) :
    Usable earlier line key :=
  { husable with valid := fun hlapsed => husable.valid (hlapsed.remains h) }

/-- A line that is no longer usable has expired. -/
theorem Usable.lapsed_of_not_usable (h : Usable earlier line key)
    (hnot : ¬Usable later line key) : Lapsed key.expireOn later := by
  by_contra hvalid
  exact hnot { h with valid := hvalid }

/-- A user of whom there is a usable line has a last one. -/
theorem exists_lastUsable (hline : line ∈ lines) (husable : Usable now line key) :
    ∃ last, LastUsable now lines last ∧ last.userName = key.userName := by
  induction lines using List.reverseRecOn with
  | nil => nomatch hline
  | append_singleton lines last ih =>
      simp only [lastUsable_concat_iff]
      by_cases hlast : ∃ other, Usable now last other ∧ other.userName = key.userName
      · obtain ⟨other, hother, huser⟩ := hlast
        exact ⟨other, .inl hother, huser⟩
      · simp only [not_exists, not_and] at hlast
        have hbefore : line ∈ lines := by
          refine (List.mem_append.mp hline).resolve_right fun hmem => ?_
          obtain rfl := List.mem_singleton.mp hmem
          exact hlast key husable rfl
        obtain ⟨found, hfound, huser⟩ := ih hbefore
        exact ⟨found, .inr ⟨hfound, huser ▸ hlast⟩, huser⟩

/-- The key comes from the line at the given place: the line is usable, and none behind it is usable
for the same user. -/
def ComesFrom (now : Instant) (lines : List (List Char)) (index : Nat) (key : AccountKey) : Prop :=
  (∃ line, lines[index]? = some line ∧ Usable now line key)
    ∧ ∀ later line, index < later → lines[later]? = some line →
      ∀ other, Usable now line other → other.userName ≠ key.userName

theorem lastUsable_iff_exists_comesFrom :
    LastUsable now lines key ↔ ∃ index, ComesFrom now lines index key := by
  constructor
  · rintro ⟨before, line, after, rfl, husable, hafter⟩
    refine ⟨before.length, ⟨line, by simp, husable⟩, fun later line' hlater hline' => ?_⟩
    have hmem : line' ∈ after := by
      rw [List.getElem?_append_right hlater.le] at hline'
      obtain ⟨skipped, hskipped⟩ := Nat.exists_eq_add_of_lt hlater
      rw [hskipped, show before.length + skipped + 1 - before.length = skipped + 1 by omega,
        List.getElem?_cons_succ] at hline'
      exact List.mem_of_getElem? hline'
    exact hafter line' hmem
  · rintro ⟨index, ⟨line, hline, husable⟩, hlater⟩
    obtain ⟨hindex, rfl⟩ := List.getElem?_eq_some_iff.mp hline
    refine ⟨lines.take index, lines[index], lines.drop (index + 1), ?_, husable,
      fun line' hline' => ?_⟩
    · rw [← List.drop_eq_getElem_cons hindex, List.take_append_drop]
    · obtain ⟨skipped, hskipped⟩ := List.mem_iff_getElem?.mp hline'
      rw [List.getElem?_drop] at hskipped
      exact hlater _ line' (by omega) hskipped

/-- **Where a user has another key later, it comes from an earlier line**, and the line of the key
that the user had before has expired. -/
theorem ComesFrom.lt_and_lapsed (h : later.before earlier = false) {i j : Nat}
    (hi : ComesFrom earlier lines i key) (hj : ComesFrom later lines j key')
    (huser : key.userName = key'.userName) (hne : key ≠ key') :
    j < i ∧ ¬Lapsed key.expireOn earlier ∧ Lapsed key.expireOn later := by
  obtain ⟨⟨line, hline, husable⟩, hlast⟩ := hi
  obtain ⟨⟨line', hline', husable'⟩, hlast'⟩ := hj
  have hlt : j < i := by
    rcases Nat.lt_trichotomy i j with hij | rfl | hji
    · -- the line behind would have counted before already
      exact absurd huser.symm (hlast j line' hij hline' key' (husable'.was_usable h))
    · -- one line holds one key
      obtain rfl := Option.some.inj (hline.symm.trans hline')
      exact absurd ((husable'.was_usable h).unique husable) hne
    · exact hji
  -- the line behind does not count any more, so it is no longer usable
  exact ⟨hlt, husable.valid, husable.lapsed_of_not_usable fun hstill =>
    hlast' i line hlt hline key hstill huser⟩

/-! ## Two readings of one text -/

theorem before_congr (h : later.before earlier = false) {t : Instant}
    (ht : ¬(t.before earlier = false ∧ t.before later = true)) :
    t.before later = t.before earlier := by
  cases hearlier : t.before earlier with
  | true => exact Instant.before_of_before h hearlier
  | false => exact Bool.eq_false_of_not_eq_true fun hlater => ht ⟨hearlier, hlater⟩

/-- **Time only takes users away.** A user who has another key than before has that of an earlier
line, since the expiry of the other one has come. With no expiry between two moments the keys are
the same, and so are the reports. -/
theorem readAll_at_later (raw : String) {earlier later : Instant}
    (h : later.before earlier = false) :
    (∀ key' ∈ (readAll raw later).1, ∃ key ∈ (readAll raw earlier).1, key.userName = key'.userName)
    ∧ (∀ key ∈ (readAll raw earlier).1, ∀ key' ∈ (readAll raw later).1,
      key.userName = key'.userName → key ≠ key' →
        (∃ i j, ComesFrom earlier (textLines raw) i key ∧ ComesFrom later (textLines raw) j key'
          ∧ j < i)
        ∧ ∃ t, expiryInstant? key.expireOn = some t
          ∧ t.before earlier = false ∧ t.before later = true)
    ∧ ((∀ t ∈ expiries raw, ¬(t.before earlier = false ∧ t.before later = true)) →
      readAll raw later = readAll raw earlier) := by
  have hmem (now : Instant) (key : AccountKey) :
      key ∈ (readAll raw now).1 ↔ LastUsable now (textLines raw) key := by
    rw [readAll_eq]
    exact mem_values_selection_iff now _ key
  refine ⟨fun key' hkey' => ?_, fun key hkey key' hkey' huser hne => ?_, fun hnone => ?_⟩
  · obtain ⟨before, line, after, hlines, husable, -⟩ := (hmem later key').mp hkey'
    have hline : line ∈ textLines raw := by
      rw [hlines]
      exact List.mem_append_right _ List.mem_cons_self
    obtain ⟨key, hkey, huser⟩ := exists_lastUsable hline (husable.was_usable h)
    exact ⟨key, (hmem earlier key).mpr hkey, huser⟩
  · obtain ⟨i, hi⟩ := lastUsable_iff_exists_comesFrom.mp ((hmem earlier key).mp hkey)
    obtain ⟨j, hj⟩ := lastUsable_iff_exists_comesFrom.mp ((hmem later key').mp hkey')
    obtain ⟨hlt, hvalid, hlapsed⟩ := hi.lt_and_lapsed h hj huser hne
    exact ⟨⟨i, j, hi, hj, hlt⟩, exists_expiryInstant?_of_lapsed hvalid hlapsed⟩
  · exact readAll_congr fun t ht => before_congr h (hnone t ht)

/-- An expiry uncovers an older key of the user, and nothing changes afterwards. -/
theorem readAll_at_later_of_uncovered_key :
    let raw := "\x7b\"userName\":\"ann\",\"modulus\":\"m\",\"exponent\":\"e\"\x7d\n"
      ++ "\x7b\"userName\":\"ann\",\"modulus\":\"n\",\"exponent\":\"e\","
      ++ "\"expireOn\":\"1970-01-01T00:00:10Z\"\x7d"
    let old : AccountKey := { userName := "ann", modulus := "m", exponent := "e" }
    let new : AccountKey := { old with modulus := "n", expireOn := some "1970-01-01T00:00:10Z" }
    let time (seconds : Int) : Instant := ⟨seconds, 0⟩
    new ∈ (readAll raw (time 10)).1 ∧ old ∈ (readAll raw (time 11)).1
      ∧ (∃ t, expiryInstant? new.expireOn = some t ∧ t.before (time 10) = false
        ∧ t.before (time 11) = true)
      ∧ readAll raw (time 12) = readAll raw (time 11) := by
  intro raw old new time
  have hnew : new ∈ (readAll raw (time 10)).1 := by decide +kernel
  have hold : old ∈ (readAll raw (time 11)).1 := by decide +kernel
  have hquiet : ∀ t ∈ expiries raw,
      ¬(t.before (time 11) = false ∧ t.before (time 12) = true) := by decide +kernel
  have hchange := (readAll_at_later raw (show (time 11).before (time 10) = false by decide)).2.1
    new hnew old hold rfl (by decide)
  exact ⟨hnew, hold, hchange.2, (readAll_at_later raw (by decide)).2.2 hquiet⟩

end AccountKey

end

end HostAgent
