import HostAgent.Proofs.Account.Key
import HostAgent.Proofs.Text.Blank

set_option autoImplicit false

/-! # Which account keys a text publishes

A line is usable if it holds an account key that names a user and has not expired (`Usable`), and
of the usable lines for a user the last one counts (`LastUsable`). Both are said here about the
lines of the text, without the reading of lines and the dictionary that is filled on the way.

The dictionary is filled line by line. A usable line replaces what is filed under its user, any
other line leaves the dictionary as it is (`selection_concat`), so what is filed after all lines
are the keys of the last usable lines (`get?_selection`). The report has one event for each line
that has content and is not usable (`forall₂_rejected`). Together this is `readAll_selects`.
-/

namespace HostAgent

/-! ## Usable lines -/

/-- An expiry that has passed. One that cannot be read counts as passed, and a blank one as
absent. -/
def Lapsed (expiry : Option String) (now : Instant) : Prop :=
  ∃ s, expiry = some s ∧ trim s ≠ ""
    ∧ (Instant.read? (trim s) = none ∨ ∃ t, Instant.read? (trim s) = some t ∧ t.before now = true)

theorem lapsed_some_iff (s : String) (now : Instant) :
    Lapsed (some s) now ↔ trim s ≠ "" ∧ (Instant.read? (trim s) = none
      ∨ ∃ t, Instant.read? (trim s) = some t ∧ t.before now = true) := by
  constructor
  · rintro ⟨other, hother, h⟩
    obtain rfl := Option.some.inj hother
    exact h
  · exact fun h => ⟨s, rfl, h⟩

theorem hasExpired_eq_true_iff (expiry : Option String) (now : Instant) :
    hasExpired expiry now = true ↔ Lapsed expiry now := by
  cases expiry with
  | none =>
      refine iff_of_false Bool.false_ne_true ?_
      rintro ⟨s, hs, -⟩
      cases hs
  | some s =>
      rw [lapsed_some_iff]
      simp only [hasExpired, String.isEmpty_iff]
      by_cases hblank : trim s = ""
      · rw [if_pos hblank]
        exact iff_of_false Bool.false_ne_true fun h => h.1 hblank
      · rw [if_neg hblank, and_iff_right hblank]
        cases hread : Instant.read? (trim s) with
        | none => exact iff_of_true rfl (.inl rfl)
        | some t =>
            constructor
            · exact fun h => .inr ⟨t, rfl, h⟩
            · rintro (hnone | ⟨other, hother, h⟩)
              · cases hnone
              · obtain rfl := Option.some.inj hother
                exact h

namespace AccountKey

/-- The lines of a text. -/
def textLines (raw : String) : List (List Char) := splitChars '\n' raw.toList

/-- A line holds something but blanks. -/
def HasContent (line : List Char) : Prop := trimChars line ≠ []

instance (line : List Char) : Decidable (HasContent line) := instDecidableNot

/-- A line holds the given key, and the key counts at `now`. -/
structure Usable (now : Instant) (line : List Char) (key : AccountKey) : Prop where
  content : HasContent line
  decoded : Json.decode record.read (trimChars line) = .ok key
  named : key.userName ≠ ""
  valid : ¬Lapsed key.expireOn now

/-- A line holds a key that counts at `now`. -/
def IsUsable (now : Instant) (line : List Char) : Prop := ∃ key, Usable now line key

/-- The key is that of the last usable line for its user. -/
def LastUsable (now : Instant) (lines : List (List Char)) (key : AccountKey) : Prop :=
  ∃ before line after, lines = before ++ line :: after ∧ Usable now line key
    ∧ ∀ later ∈ after, ∀ other, Usable now later other → other.userName ≠ key.userName

/-- The report on a line with content that is not usable at `now`. -/
inductive Rejected (now : Instant) (line : List Char) : Event → Prop
  | malformed (fault : Json.Fault)
      (hdecode : Json.decode record.read (trimChars line) = .error fault) :
      Rejected now line ⟨.warn, .domain "accounts", "Skipping malformed account key",
        [("error", .shown (fault.message (trimChars line)))]⟩
  | nameless (key : AccountKey)
      (hdecode : Json.decode record.read (trimChars line) = .ok key) (hname : key.userName = "") :
      Rejected now line ⟨.warn, .domain "accounts", "Skipping account key without a user name", []⟩
  | expired (key : AccountKey)
      (hdecode : Json.decode record.read (trimChars line) = .ok key) (hname : key.userName ≠ "")
      (hlapsed : Lapsed key.expireOn now) :
      Rejected now line ⟨.info, .domain "accounts", "Skipping expired account key",
        [("user", .shown key.userName)]⟩

/-! ## What a line turns out to be -/

/-- The key of a line, if it is usable. -/
def keyOf (now : Instant) (line : List Char) : Option AccountKey :=
  if trimChars line = [] then none else (Line.read now (trimChars line)).key?

/-- The report on a line. -/
def reportOn (now : Instant) (line : List Char) : Log :=
  if trimChars line = [] then [] else (Line.read now (trimChars line)).report

/-- **A line with content is usable or rejected.** -/
theorem keyOf_cases (now : Instant) {line : List Char} (h : HasContent line) :
    (∃ key, keyOf now line = some key ∧ reportOn now line = [] ∧ Usable now line key)
    ∨ (keyOf now line = none ∧ ∃ event, reportOn now line = [event] ∧ Rejected now line event) := by
  rw [keyOf, reportOn, if_neg h, if_neg h, Line.read]
  cases hdecode : Json.decode record.read (trimChars line) with
  | error fault => exact .inr ⟨rfl, _, rfl, .malformed fault hdecode⟩
  | ok key =>
      simp only [String.isEmpty_iff]
      by_cases hname : key.userName = ""
      · rw [if_pos hname]
        exact .inr ⟨rfl, _, rfl, .nameless key hdecode hname⟩
      · rw [if_neg hname]
        by_cases hexpired : hasExpired key.expireOn now = true
        · rw [if_pos hexpired]
          have hlapsed := (hasExpired_eq_true_iff _ _).mp hexpired
          exact .inr ⟨rfl, _, rfl, .expired key hdecode hname hlapsed⟩
        · rw [if_neg hexpired]
          have hvalid := mt (hasExpired_eq_true_iff _ _).mpr hexpired
          exact .inl ⟨key, rfl, rfl, h, hdecode, hname, hvalid⟩

theorem Usable.unique {now : Instant} {line : List Char} {key other : AccountKey}
    (h : Usable now line key) (hother : Usable now line other) : other = key :=
  Except.ok.inj (hother.decoded.symm.trans h.decoded)

theorem Rejected.not_usable {now : Instant} {line : List Char} {event : Event}
    (h : Rejected now line event) : ¬IsUsable now line := by
  rintro ⟨key, hkey⟩
  cases h with
  | malformed fault hdecode => nomatch hkey.decoded.symm.trans hdecode
  | nameless other hdecode hname =>
      obtain rfl := Except.ok.inj (hkey.decoded.symm.trans hdecode)
      exact hkey.named hname
  | expired other hdecode hname hlapsed =>
      obtain rfl := Except.ok.inj (hkey.decoded.symm.trans hdecode)
      exact hkey.valid hlapsed

theorem keyOf_eq_some_iff {now : Instant} {line : List Char} {key : AccountKey} :
    keyOf now line = some key ↔ Usable now line key := by
  by_cases hcontent : HasContent line
  · obtain ⟨held, hkey, -, husable⟩ | ⟨hnone, event, -, hrejected⟩ := keyOf_cases now hcontent
    · rw [hkey, Option.some_inj]
      exact ⟨fun h => h ▸ husable, fun h => h.unique husable⟩
    · rw [hnone]
      exact iff_of_false nofun fun h => hrejected.not_usable ⟨key, h⟩
  · rw [keyOf, if_pos (not_not.mp hcontent)]
    exact iff_of_false nofun fun h => hcontent h.content

theorem isSome_keyOf_iff {now : Instant} {line : List Char} :
    (keyOf now line).isSome = true ↔ IsUsable now line := by
  rw [Option.isSome_iff_exists]
  exact exists_congr fun _ => keyOf_eq_some_iff

instance (now : Instant) (line : List Char) : Decidable (IsUsable now line) :=
  decidable_of_iff _ isSome_keyOf_iff

/-! ## Line by line -/

/-- The keys by user after some lines. -/
def selection (now : Instant) (lines : List (List Char)) : Dict AccountKey :=
  Dict.ofList ((lines.filterMap (keyOf now)).map fun key => (key.userName, key))

/-- The report after some lines. -/
def reportsOn (now : Instant) (lines : List (List Char)) : Log := lines.flatMap (reportOn now)

theorem filterMap_keyOf (now : Instant) (lines : List (List Char)) :
    lines.filterMap (keyOf now)
      = (((lines.map trimChars).filter fun line => !line.isEmpty).map (Line.read now)).filterMap
        Line.key? := by
  induction lines with
  | nil => rfl
  | cons line rest ih =>
      by_cases hblank : trimChars line = []
      · rw [List.filterMap_cons_none (by rw [keyOf, if_pos hblank]), ih, List.map_cons,
          List.filter_cons_of_neg (by simpa using hblank)]
      · rw [List.filterMap_cons, keyOf, if_neg hblank, ih, List.map_cons,
          List.filter_cons_of_pos (by simpa using hblank), List.map_cons, List.filterMap_cons]

theorem reportsOn_eq (now : Instant) (lines : List (List Char)) :
    reportsOn now lines
      = (((lines.map trimChars).filter fun line => !line.isEmpty).map (Line.read now)).flatMap
        Line.report := by
  induction lines with
  | nil => rfl
  | cons line rest ih =>
      rw [reportsOn] at ih ⊢
      by_cases hblank : trimChars line = []
      · rw [List.flatMap_cons, reportOn, if_pos hblank, List.nil_append, ih, List.map_cons,
          List.filter_cons_of_neg (by simpa using hblank)]
      · rw [List.flatMap_cons, reportOn, if_neg hblank, ih, List.map_cons,
          List.filter_cons_of_pos (by simpa using hblank), List.map_cons, List.flatMap_cons]

theorem readAll_eq (raw : String) (now : Instant) :
    readAll raw now
      = ((selection now (textLines raw)).values, reportsOn now (textLines raw)) := by
  rw [selection, filterMap_keyOf, reportsOn_eq]
  rfl

/-- **A usable line replaces what is filed under its user, and no other line does.** -/
theorem selection_concat (now : Instant) (lines : List (List Char)) (line : List Char) :
    selection now (lines ++ [line])
      = match keyOf now line with
        | some key => (selection now lines).insert key.userName key
        | none => selection now lines := by
  rw [selection, List.filterMap_append, List.map_append, Dict.ofList, List.foldl_append]
  cases hkey : keyOf now line with
  | none => rw [List.filterMap_cons_none hkey]; rfl
  | some key => rw [List.filterMap_cons_some hkey]; rfl

theorem not_lastUsable_nil {now : Instant} {key : AccountKey} : ¬LastUsable now [] key := by
  rintro ⟨before, line, after, hlines, -⟩
  cases before <;> nomatch hlines

/-- The last usable line for a user is the line that came last, or an earlier one if the last line
is not usable for that user. -/
theorem lastUsable_concat_iff {now : Instant} {lines : List (List Char)} {line : List Char}
    {key : AccountKey} :
    LastUsable now (lines ++ [line]) key ↔ Usable now line key
      ∨ (LastUsable now lines key
        ∧ ∀ other, Usable now line other → other.userName ≠ key.userName) := by
  constructor
  · rintro ⟨before, held, after, hlines, husable, hlater⟩
    obtain rfl | ⟨rest, last, rfl⟩ := after.eq_nil_or_concat
    · obtain ⟨-, heq⟩ := List.append_inj' hlines rfl
      obtain rfl := List.singleton_inj.mp heq
      exact .inl husable
    · rw [List.concat_eq_append] at hlines hlater
      have hsplit : lines ++ [line] = (before ++ held :: rest) ++ [last] := by simpa using hlines
      obtain ⟨rfl, heq⟩ := List.append_inj' hsplit rfl
      obtain rfl := List.singleton_inj.mp heq
      refine .inr ⟨⟨before, held, rest, rfl, husable, fun later hmem => ?_⟩, ?_⟩
      · exact hlater later (List.mem_append_left _ hmem)
      · exact hlater line (List.mem_append_right _ List.mem_cons_self)
  · rintro (husable | ⟨⟨before, held, after, rfl, husable, hlater⟩, hlast⟩)
    · exact ⟨lines, line, [], rfl, husable, nofun⟩
    · refine ⟨before, held, after ++ [line], by simp, husable, fun later hmem => ?_⟩
      rcases List.mem_append.mp hmem with hmem | hmem
      · exact hlater later hmem
      · obtain rfl := List.mem_singleton.mp hmem
        exact hlast

/-- **What is filed after some lines are the keys of the last usable lines.** -/
theorem get?_selection (now : Instant) (lines : List (List Char)) (user : String)
    (key : AccountKey) :
    (selection now lines).get? user = some key
      ↔ LastUsable now lines key ∧ key.userName = user := by
  induction lines using List.reverseRecOn generalizing key with
  | nil => exact iff_of_false nofun fun h => not_lastUsable_nil h.1
  | append_singleton lines line ih =>
      rw [selection_concat, lastUsable_concat_iff]
      cases hkey : keyOf now line with
      | none =>
          have hnot : ∀ other, ¬Usable now line other := fun other h => by
            rw [keyOf_eq_some_iff.mpr h] at hkey
            nomatch hkey
          rw [ih, or_iff_right (hnot key), and_iff_left fun other h => absurd h (hnot other)]
      | some held =>
          have husable := keyOf_eq_some_iff.mp hkey
          by_cases huser : user = held.userName
          case pos =>
            -- the line replaces what has been filed
            subst huser
            rw [Dict.get?_insert_self, Option.some_inj]
            constructor
            · rintro rfl
              exact ⟨.inl husable, rfl⟩
            · rintro ⟨h | ⟨-, hlast⟩, hname⟩
              · exact h.unique husable
              · exact absurd hname.symm (hlast held husable)
          case neg =>
            rw [Dict.get?_insert_ne _ _ huser, ih]
            constructor
            · rintro ⟨hlast, rfl⟩
              refine ⟨.inr ⟨hlast, fun other hother heq => huser ?_⟩, rfl⟩
              rw [← heq, husable.unique hother]
            · rintro ⟨h | ⟨hlast, -⟩, rfl⟩
              · exact absurd (by rw [husable.unique h]) huser
              · exact ⟨hlast, rfl⟩

theorem mem_values_selection_iff (now : Instant) (lines : List (List Char)) (key : AccountKey) :
    key ∈ (selection now lines).values ↔ LastUsable now lines key := by
  constructor
  · intro h
    obtain ⟨entry, hentry, rfl⟩ := List.mem_map.mp h
    exact ((get?_selection now lines _ _).mp (Dict.get?_eq_some_iff.mpr hentry)).1
  · intro h
    have hget := (get?_selection now lines key.userName key).mpr ⟨h, rfl⟩
    exact List.mem_map.mpr ⟨_, Dict.get?_eq_some_iff.mp hget, rfl⟩

/-- Lines that are not usable leave what is filed as it is. -/
theorem selection_append_of_not_usable {now : Instant} (lines : List (List Char))
    {later : List (List Char)} (h : ∀ line ∈ later, ¬IsUsable now line) :
    selection now (lines ++ later) = selection now lines := by
  have hnone : later.filterMap (keyOf now) = [] := by
    refine List.filterMap_eq_nil_iff.mpr fun line hline => ?_
    rw [← Option.not_isSome_iff_eq_none, isSome_keyOf_iff]
    exact h line hline
  rw [selection, selection, List.filterMap_append, hnone, List.append_nil]

/-! ## The report -/

/-- **The report has one event for each line with content that is not usable.** -/
theorem forall₂_rejected (now : Instant) (lines : List (List Char)) :
    List.Forall₂ (Rejected now) (lines.filter fun line => HasContent line ∧ ¬IsUsable now line)
      (reportsOn now lines) := by
  induction lines with
  | nil => exact .nil
  | cons line rest ih =>
      rw [reportsOn] at ih ⊢
      rw [List.flatMap_cons]
      by_cases hcontent : HasContent line
      · obtain ⟨key, -, hreport, husable⟩ | ⟨-, event, hreport, hrejected⟩ :=
          keyOf_cases now hcontent
        · have hnot : ¬(HasContent line ∧ ¬IsUsable now line) := fun h => h.2 ⟨key, husable⟩
          rw [List.filter_cons_of_neg (by simpa using hnot), hreport]
          exact ih
        · have hkept := And.intro hcontent hrejected.not_usable
          rw [List.filter_cons_of_pos (by simpa using hkept), hreport]
          exact .cons hrejected ih
      · have hnot : ¬(HasContent line ∧ ¬IsUsable now line) := fun h => hcontent h.1
        rw [List.filter_cons_of_neg (by simpa using hnot), reportOn, if_pos (not_not.mp hcontent)]
        exact ih

theorem countP_hasContent (now : Instant) (lines : List (List Char)) :
    lines.countP (HasContent ·)
      = (reportsOn now lines).length + lines.countP (IsUsable now ·) := by
  rw [← (forall₂_rejected now lines).length_eq, ← List.countP_eq_length_filter]
  induction lines with
  | nil => rfl
  | cons line rest ih =>
      rw [List.countP_cons, List.countP_cons, List.countP_cons, ih]
      by_cases husable : IsUsable now line
      · obtain ⟨key, hkey⟩ := id husable
        simp only [husable, hkey.content, not_true, and_false, decide_true, decide_false, if_true,
          Bool.false_eq_true, if_false]
        omega
      · simp only [husable, not_false_iff, and_true, decide_false, Bool.false_eq_true, if_false]
        omega

/-! ## All lines of a text -/

/-- The keys and the report that the lines of a text call for at `now`. -/
structure Selects (now : Instant) (lines : List (List Char)) (keys : List AccountKey) (log : Log) :
    Prop where
  ordered : (keys.map (·.userName)).Pairwise (· < ·)
  mem_iff : ∀ key, key ∈ keys ↔ LastUsable now lines key
  reported :
    List.Forall₂ (Rejected now) (lines.filter fun line => HasContent line ∧ ¬IsUsable now line) log
  counted : lines.countP (HasContent ·) = log.length + lines.countP (IsUsable now ·)

theorem textLines_append (raw later : String) :
    textLines (raw ++ "\n" ++ later) = textLines raw ++ textLines later := by
  rw [textLines, String.toList_append, String.toList_append, List.append_assoc]
  exact splitChars_append raw.toList later.toList

/-- **The keys of a text are those of the last usable line for each user**, and every other line
with content is reported. Lines that are not usable take nothing from the keys before them. -/
theorem readAll_selects (raw : String) (now : Instant) :
    Selects now (textLines raw) (readAll raw now).1 (readAll raw now).2
      ∧ ∀ later : String, (∀ line ∈ textLines later, ¬IsUsable now line) →
        (readAll (raw ++ "\n" ++ later) now).1 = (readAll raw now).1 := by
  refine ⟨⟨pairwise_map_userName_readAll raw now, fun key => ?_, ?_, ?_⟩, fun later h => ?_⟩
  · rw [readAll_eq]
    exact mem_values_selection_iff now _ key
  · rw [readAll_eq]
    exact forall₂_rejected now _
  · rw [readAll_eq]
    exact countP_hasContent now _
  · rw [readAll_eq, readAll_eq, textLines_append, selection_append_of_not_usable _ h]

/-- Of two keys for one user the later one counts, and it stays when a malformed line follows. -/
theorem readAll_of_replaced_key :
    let raw := "\x7b\"userName\":\"ann\",\"modulus\":\"m\",\"exponent\":\"e\"\x7d\n"
      ++ " \x7b\"userName\":\"ann\",\"modulus\":\"n\",\"exponent\":\"e\"\x7d "
    let now : Instant := ⟨0, 0⟩
    (∀ line ∈ textLines "not json", ¬IsUsable now line)
      ∧ (readAll (raw ++ "\n" ++ "not json") now).1 = (readAll raw now).1
      ∧ (readAll raw now).1 = [{ userName := "ann", modulus := "n", exponent := "e" }] := by
  have h : ∀ line ∈ textLines "not json", ¬IsUsable ⟨0, 0⟩ line := by decide +kernel
  exact ⟨h, (readAll_selects _ _).2 "not json" h, by decide +kernel⟩

end AccountKey

end HostAgent
