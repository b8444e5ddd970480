import HostAgent.Proofs.Account.Layout
import HostAgent.Proofs.Ini.Cursor
import HostAgent.Proofs.Instant
import HostAgent.Proofs.Json.OneLine
import Mathlib.Data.List.ReduceOption

set_option autoImplicit false

/-! # Account keys as they are published

Account keys are published one on each line, as JSON objects that are written without a line break.
The lines may come in any order, with blank lines among them, and end in either way (`PublishedAs`).
Any keys can be published like this (`exists_publishedAs`).

As the layout does not matter, what remains of such a text are the objects, in their order
(`contentLines_of_publishedAs`). Each of them is read back as its key, so if no key is expired or
without a user all of them are usable, and if no two are of one user all of them are selected
(`readAll_recovers_published`).
-/

namespace HostAgent.AccountKey

open Json (Slot SpellsText SpellsOption SpellsRecord OnOneLine)

/-! ## Lines of account keys -/

/-- The members of an account key. -/
def slots : List (Slot AccountKey) := [
  ⟨"userName", true, (·.userName), SpellsText⟩,
  ⟨"email", false, (·.email), SpellsText⟩,
  ⟨"expireOn", false, (·.expireOn), SpellsOption⟩,
  ⟨"modulus", true, (·.modulus), SpellsText⟩,
  ⟨"exponent", true, (·.exponent), SpellsText⟩]

theorem fits : record.Fits slots where
  fields := by
    refine .cons (.stored Json.recovers_text (fun _ _ => rfl) ?_) <|
      .cons (.stored Json.recovers_text (fun _ _ => rfl) ?_) <|
      .cons (.stored Json.recovers_optionalText (fun _ _ => rfl) ?_) <|
      .cons (.stored Json.recovers_text (fun _ _ => rfl) ?_) <|
      .cons (.stored Json.recovers_text (fun _ _ => rfl) ?_) .nil
    all_goals simp [slots]
  names := by decide
  ext v s h := by
    simp only [slots, List.forall_mem_cons] at h
    obtain ⟨hname, hemail, hexpiry, hmodulus, hexponent, -⟩ := h
    cases v
    cases s
    simp_all

/-- A line without a line break that holds the object of a key, or nothing. -/
inductive LineOf : Option AccountKey → List Char → Prop
  | blank {line : List Char} (hblank : ∀ c ∈ line, isBlank c = true) (hbreak : '\n' ∉ line) :
      LineOf none line
  | object {key : AccountKey} {front v back : List Char} (hv : SpellsRecord slots {} key v)
      (hfront : ∀ c ∈ front, isBlank c = true) (hback : ∀ c ∈ back, isBlank c = true)
      (hbreak : '\n' ∉ front ++ (v ++ back)) : LineOf (some key) (front ++ (v ++ back))

/-- Lines with line ends between them. -/
inductive Joined : List (List Char) → List Char → Prop
  | last (line : List Char) : Joined [line] line
  | next (line : List Char) (mark : Ini.LineEnd) {lines : List (List Char)} {rest : List Char}
      (h : Joined lines rest) : Joined (line :: lines) (line ++ (mark.chars ++ rest))

/-- A text that publishes the given keys, in whatever order. -/
def PublishedAs (keys : List AccountKey) (raw : String) : Prop :=
  ∃ held lines, List.Forall₂ LineOf held lines ∧ held.reduceOption.Perm keys
    ∧ Joined lines raw.toList

/-- An expiry that has not passed: there is none, or it is blank, or an instant that is not over. -/
inductive Lasting (now : Instant) : Option String → Prop
  | absent : Lasting now none
  | blank {s : String} (h : trim s = "") : Lasting now (some s)
  | instant {s : String} {t : Instant} (h : Instant.Denotes (trim s).toList t)
      (hnow : t.before now = false) : Lasting now (some s)

/-! ## What remains of the lines -/

/-- An object has no blanks at its ends. -/
theorem trimChars_of_spellsRecord {key : AccountKey} {v : List Char}
    (h : SpellsRecord slots {} key v) : trimChars v = v ∧ v ≠ [] := by
  obtain ⟨members, -, -, items, -, hitems⟩ := h
  cases hitems with
  | empty | filled => exact ⟨trimChars_eq_self_of_ends rfl rfl _, List.cons_ne_nil _ _⟩

theorem contentOf_of_not_mem {line : List Char} (h : '\n' ∉ line) :
    contentOf line = if trimChars line = [] then [] else [trimChars line] := by
  rw [contentOf, splitChars_of_not_mem h, List.map_singleton]
  by_cases hblank : trimChars line = []
  · rw [if_pos hblank, hblank]
    rfl
  · rw [if_neg hblank, List.filter_cons_of_pos (by simpa using hblank)]
    rfl

theorem contentOf_joined {lines : List (List Char)} {cs : List Char} (h : Joined lines cs) :
    contentOf cs = lines.flatMap contentOf := by
  induction h with
  | last line => rw [List.flatMap_singleton]
  | next line mark _ ih =>
      rw [List.flatMap_cons, ← ih]
      cases mark with
      | lf => exact contentOf_append line _
      | crlf =>
          -- the carriage return is a blank at the end of the line
          rw [← contentOf_concat (show isBlank '\r' = true by rfl) line, ← contentOf_append,
            List.append_assoc]
          rfl

/-- A line of a key leaves the object of that key, and a blank line nothing. -/
theorem LineOf.forall₂_contentOf {held : Option AccountKey} {line : List Char}
    (h : LineOf held line) :
    List.Forall₂ (SpellsRecord slots {}) held.toList (contentOf line) := by
  cases h with
  | blank hblank hbreak =>
      have hnothing : trimChars line = [] := by
        rw [trimChars, List.dropWhile_eq_nil_iff.mpr hblank]
        rfl
      rw [contentOf_of_not_mem hbreak, if_pos hnothing]
      exact .nil
  | @object key front v back hv hfront hback hbreak =>
      obtain ⟨htrimmed, hne⟩ := trimChars_of_spellsRecord hv
      rw [contentOf_of_not_mem hbreak, trimChars_append hfront hback, htrimmed, if_neg hne]
      exact .cons hv .nil

/-- **What remains of a text that publishes keys are their objects.** -/
theorem contentLines_of_publishedAs {keys : List AccountKey} {raw : String}
    (h : PublishedAs keys raw) : ∃ listed, listed.Perm keys
      ∧ List.Forall₂ (SpellsRecord slots {}) listed (contentLines raw) := by
  obtain ⟨held, lines, hlines, hperm, hraw⟩ := h
  refine ⟨held.reduceOption, hperm, ?_⟩
  rw [contentLines, ← contentOf, contentOf_joined hraw]
  clear hperm hraw
  induction hlines with
  | nil => exact .nil
  | @cons key line held lines hline _ ih =>
      have hboth := List.rel_append hline.forall₂_contentOf ih
      cases key with
      | none => rwa [List.reduceOption_cons_of_none]
      | some key => rwa [List.reduceOption_cons_of_some]

/-! ## Published keys are recovered -/

theorem Lasting.not_lapsed {now : Instant} {expiry : Option String} (h : Lasting now expiry) :
    ¬Lapsed expiry now := by
  rintro ⟨s, rfl, hblank, hread⟩
  cases h with
  | blank h => exact hblank h
  | instant h hnow =>
      replace h := Instant.read?_of_denotes h
      obtain hnone | ⟨t, ht, hbefore⟩ := hread
      · cases hnone.symm.trans h
      · obtain rfl := Option.some.inj (ht.symm.trans h)
        cases hbefore.symm.trans hnow

/-- The object of a key that is not expired and has a user is a usable line. -/
theorem Line.read_of_spellsRecord {now : Instant} {key : AccountKey} {v : List Char}
    (hv : SpellsRecord slots {} key v) (hname : key.userName ≠ "")
    (hlasting : Lasting now key.expireOn) : Line.read now v = .usable key := by
  have hexpired : hasExpired key.expireOn now = false := by
    rw [← Bool.not_eq_true, hasExpired_eq_true_iff]
    exact hlasting.not_lapsed
  rw [Line.read, fits.recovers.decode hv (.self v)]
  simp only [String.isEmpty_iff, if_neg hname, hexpired, Bool.false_eq_true, if_false]

theorem map_read_of_forall₂ {now : Instant} {keys : List AccountKey} {vs : List (List Char)}
    (h : List.Forall₂ (SpellsRecord slots {}) keys vs)
    (hkeys : ∀ key ∈ keys, key.userName ≠ "" ∧ Lasting now key.expireOn) :
    vs.map (Line.read now) = keys.map .usable := by
  induction h with
  | nil => rfl
  | cons hv _ ih =>
      obtain ⟨⟨hname, hlasting⟩, hothers⟩ := List.forall_mem_cons.mp hkeys
      rw [List.map_cons, List.map_cons, Line.read_of_spellsRecord hv hname hlasting, ih hothers]

theorem readAll_of_usable {raw : String} {now : Instant} {keys : List AccountKey}
    (h : readLines raw now = keys.map .usable) : readAll raw now
      = ((Dict.ofList (keys.map fun key => (key.userName, key))).values, []) := by
  have hkeys : (keys.map Line.usable).filterMap Line.key? = keys := by
    rw [List.filterMap_map]
    exact List.filterMap_some
  have hreport : (keys.map Line.usable).flatMap Line.report = [] := by
    rw [List.flatMap_map]
    exact List.flatMap_eq_nil_iff.mpr fun _ _ => rfl
  simp only [readAll, h, byUser, hkeys, hreport]

theorem onOneLine (key : AccountKey) : OnOneLine (SpellsRecord slots {}) key := by
  refine Json.onOneLine_record fits.names _ ?_
  simp only [slots, List.forall_mem_cons]
  exact ⟨Json.onOneLine_text _, Json.onOneLine_text _, Json.onOneLine_option _,
    Json.onOneLine_text _, Json.onOneLine_text _, nofun⟩

/-- Any account keys can be published. -/
theorem exists_publishedAs (keys : List AccountKey) : ∃ raw, PublishedAs keys raw := by
  have hline : ∀ key ∈ keys, ∃ line, LineOf (some key) line ∧ '\n' ∉ line := by
    intro key _
    obtain ⟨v, hv, hbreak⟩ := key.onOneLine
    have hbreak' : '\n' ∉ [] ++ (v ++ []) := by rwa [List.nil_append, List.append_nil]
    exact ⟨_, .object hv (List.forall_mem_nil _) (List.forall_mem_nil _) hbreak', hbreak'⟩
  obtain ⟨lines, hlines, -⟩ := Json.exists_forall₂ hline
  have hjoined : Joined (lines ++ [[]]) (lines.flatMap (· ++ ['\n'])) := by
    clear hlines
    induction lines with
    | nil => exact .last []
    | cons line lines ih =>
        rw [List.flatMap_cons, List.append_assoc]
        exact .next line .lf ih
  refine ⟨String.ofList (lines.flatMap (· ++ ['\n'])), keys.map some ++ [none], lines ++ [[]],
    ?_, ?_, ?_⟩
  · exact List.rel_append (List.forall₂_map_left_iff.mpr hlines)
      (.cons (.blank nofun List.not_mem_nil) .nil)
  · simp [List.reduceOption]
  · rwa [String.toList_ofList]

/-- **Published account keys are all recovered**, in the order of their users, and nothing is
reported. Any keys can be published. -/
theorem readAll_recovers_published {keys : List AccountKey} {now : Instant}
    (hdistinct : (keys.map (·.userName)).Nodup) (hnamed : ∀ key ∈ keys, key.userName ≠ "")
    (hlasting : ∀ key ∈ keys, Lasting now key.expireOn) :
    (∃ raw, PublishedAs keys raw)
      ∧ ∀ raw, PublishedAs keys raw → (readAll raw now).1.Perm keys
        ∧ ((readAll raw now).1.map (·.userName)).Pairwise (· < ·) ∧ (readAll raw now).2 = [] := by
  refine ⟨exists_publishedAs keys, fun raw h => ?_⟩
  obtain ⟨listed, hperm, hlines⟩ := contentLines_of_publishedAs h
  have hread : readLines raw now = listed.map .usable :=
    map_read_of_forall₂ hlines fun key hkey =>
      ⟨hnamed key (hperm.mem_iff.mp hkey), hlasting key (hperm.mem_iff.mp hkey)⟩
  have hnames : (listed.map fun key => (key.userName, key)).map Prod.fst
      = listed.map (·.userName) := List.map_map
  have hkeys : (listed.map fun key => (key.userName, key)).map Prod.snd = listed :=
    List.map_map.trans (List.map_id listed)
  have hentries := Dict.entries_ofList_perm (hnames ▸ (hperm.map _).nodup_iff.mpr hdistinct)
  have hvalues := hentries.map Prod.snd
  rw [hkeys] at hvalues
  refine ⟨?_, pairwise_map_userName_readAll raw now, ?_⟩
  · rw [readAll_of_usable hread]
    exact hvalues.trans hperm
  · rw [readAll_of_usable hread]

/-- Two keys are recovered from lines in the other order, with a blank line between them. -/
theorem readAll_recovers_published_of_two_lines :
    let bob : AccountKey := { userName := "bob", expireOn := some "1970-01-01T00:00:10Z" }
    let ann : AccountKey := { userName := "ann", modulus := "m\n" }
    let bobLine := "\x7b\"modulus\":\"\",\"exponent\":\"\",\"userName\":\"bob\","
      ++ "\"expireOn\":\"1970-01-01T00:00:10Z\"\x7d"
    let annLine := "\x7b\"userName\":\"ann\",\"modulus\":\"m\\n\","
      ++ "\"zone\":null,\"exponent\":\"\"\x7d"
    let raw := bobLine ++ "\r\n\n " ++ annLine
    let now : Instant := ⟨10, 0⟩
    PublishedAs [ann, bob] raw ∧ (readAll raw now).1.Perm [ann, bob]
      ∧ (readAll raw now).2 = [] := by
  intro bob ann bobLine annLine raw now
  have htext (s : String) (h : Json.isPlainText s = true) := Json.spellsText_of_plain h
  have hbob : SpellsRecord slots {} bob bobLine.toList := by
    have hline := Json.NamedObject.of_plain [("modulus", "\"\"".toList),
      ("exponent", "\"\"".toList), ("userName", "\"bob\"".toList),
      ("expireOn", "\"1970-01-01T00:00:10Z\"".toList)] (by decide)
    refine ⟨_, ⟨?_, ?_, ?_, ?_⟩, ?_, by simpa [bobLine] using hline⟩
    all_goals simp [Json.Complete, slots, bob]
    exact ⟨htext "bob" (by decide), htext "1970-01-01T00:00:10Z" (by decide),
      htext "" (by decide)⟩
  have hann : SpellsRecord slots {} ann annLine.toList := by
    have hbreak : SpellsText "m\n" "\"m\\n\"".toList :=
      ⟨[_, _], .cons (.itself (by decide)) (.cons (.short (e := 'n') (by decide)) .nil), rfl⟩
    have hnull : Json.ValueText "null".toList := .name (by decide)
    have hline := Json.NamedObject.of_plain [("userName", "\"ann\"".toList),
      ("modulus", "\"m\\n\"".toList), ("zone", "null".toList), ("exponent", "\"\"".toList)]
      (by decide)
    refine ⟨_, ⟨?_, ?_, ?_, ?_⟩, ?_, by simpa [annLine] using hline⟩
    all_goals simp [Json.Complete, slots, ann]
    · exact ⟨htext "ann" (by decide), hbreak, htext "" (by decide)⟩
    · exact hnull
  have hraw : raw.toList = [] ++ (bobLine.toList ++ []) ++ (Ini.LineEnd.crlf.chars
      ++ ([] ++ (Ini.LineEnd.lf.chars ++ ([' '] ++ (annLine.toList ++ []))))) := by
    simp [raw, Ini.LineEnd.chars]
  have hpublished : PublishedAs [ann, bob] raw := by
    have hjoined : Joined [[] ++ (bobLine.toList ++ []), [], [' '] ++ (annLine.toList ++ [])]
        raw.toList := by
      rw [hraw]
      exact .next _ .crlf (.next _ .lf (.last _))
    refine ⟨[some bob, none, some ann], _, ?_, .swap _ _ _, hjoined⟩
    have hnone := List.forall_mem_nil fun c => isBlank c = true
    have hblank : ∀ c ∈ [' '], isBlank c = true := List.forall_mem_singleton.mpr rfl
    exact .cons (.object hbob hnone hnone (by decide +kernel)) <|
      .cons (.blank hnone (by decide)) <|
      .cons (.object hann hblank hnone (by decide +kernel)) .nil
  have hlasting : ∀ key ∈ [ann, bob], Lasting now key.expireOn :=
    List.forall_mem_cons.mpr ⟨.absent, List.forall_mem_singleton.mpr
      (.instant (t := ⟨10, 0⟩) (Instant.denotes_of_read? (by decide +kernel)) (by decide))⟩
  obtain ⟨hkeys, -, hlog⟩ :=
    (readAll_recovers_published (by decide) (by decide) hlasting).2 raw hpublished
  exact ⟨hpublished, hkeys, hlog⟩

end HostAgent.AccountKey
