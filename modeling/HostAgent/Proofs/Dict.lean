import HostAgent.Dict
import Mathlib.Data.List.Induction
import Mathlib.Data.List.Sort

set_option autoImplicit false

/-! # Equality of dictionaries, and dictionaries that are filled

Dictionaries are equal as soon as all look-ups in them agree (`Dict.ext_get?`): their entries are
the same, and there is one order for them.

A dictionary that is filled from the entries of another one has the same keys (`Dict.get?_fill`).
What is filled by a list of assignments shows, to a look-up, the last of the assignments that the
look-up sees (`LastValue`). This is said once for every kind of store: `look_foldl_eq_some_iff` asks
only what one assignment does to one look-up.
-/

namespace HostAgent

universe u v

/-! ## The last one that counts -/

section

variable {ε : Type u} {α : Type v} (counts : ε → Prop) (value : ε → α)

/-- `a` is the value of the last member of a list that counts. -/
def LastValue (list : List ε) (a : α) : Prop :=
  ∃ before e after, list = before ++ e :: after ∧ counts e ∧ value e = a
    ∧ ∀ later ∈ after, ¬counts later

variable {counts value} {list : List ε} {e : ε} {a : α}

theorem not_lastValue_nil : ¬LastValue counts value [] a := by
  rintro ⟨before, e, after, hnil, -⟩
  cases before <;> cases hnil

theorem LastValue.exists_mem (h : LastValue counts value list a) :
    ∃ e ∈ list, counts e ∧ value e = a := by
  obtain ⟨before, e, after, rfl, he, hvalue, -⟩ := h
  exact ⟨e, List.mem_append_right _ List.mem_cons_self, he, hvalue⟩

/-- One more member in front counts only if no other one does. -/
theorem lastValue_cons_iff :
    LastValue counts value (e :: list) a ↔ LastValue counts value list a
      ∨ (counts e ∧ value e = a ∧ ∀ later ∈ list, ¬counts later) := by
  constructor
  · rintro ⟨before, e', after, hlist, he', hvalue, hafter⟩
    cases before with
    | nil =>
        obtain ⟨rfl, rfl⟩ := List.cons.inj hlist
        exact .inr ⟨he', hvalue, hafter⟩
    | cons first before =>
        obtain ⟨rfl, rfl⟩ := List.cons.inj hlist
        exact .inl ⟨before, e', after, rfl, he', hvalue, hafter⟩
  · rintro (⟨before, e', after, rfl, he', hvalue, hafter⟩ | ⟨he, hvalue, hlater⟩)
    · exact ⟨e :: before, e', after, rfl, he', hvalue, hafter⟩
    · exact ⟨[], e, list, rfl, he, hvalue, hlater⟩

variable (value) in
/-- If any member counts, one of those that do is the last one. -/
theorem exists_lastValue (h : ∃ e ∈ list, counts e) : ∃ a, LastValue counts value list a := by
  induction list with
  | nil => exact absurd h fun ⟨_, he, _⟩ => List.not_mem_nil he
  | cons first list ih =>
      by_cases hlater : ∃ e ∈ list, counts e
      · obtain ⟨a, ha⟩ := ih hlater
        exact ⟨a, lastValue_cons_iff.mpr (.inl ha)⟩
      · have hnone : ∀ later ∈ list, ¬counts later := fun later hmem hcounts =>
          hlater ⟨later, hmem, hcounts⟩
        obtain ⟨e, he, hcounts⟩ := h
        rcases List.mem_cons.mp he with rfl | he
        · exact ⟨value e, lastValue_cons_iff.mpr (.inr ⟨hcounts, rfl, hnone⟩)⟩
        · exact absurd hcounts (hnone e he)

theorem lastValue_map_iff {β : Type u} {f : β → ε} {members : List β} :
    LastValue counts value (members.map f) a
      ↔ LastValue (fun b => counts (f b)) (fun b => value (f b)) members a := by
  induction members with
  | nil => exact ⟨fun h => absurd h not_lastValue_nil, fun h => absurd h not_lastValue_nil⟩
  | cons b members ih =>
      rw [List.map_cons, lastValue_cons_iff, lastValue_cons_iff, ih, List.forall_mem_map]

variable (counts value list) in
/-- **A look-up sees the last assignment that counts for it**, or what was there before all of
them. -/
theorem look_foldl_eq_some_iff {δ : Type v} (look : δ → Option α) {assign : δ → ε → δ}
    (hcounts : ∀ d e, counts e → look (assign d e) = some (value e))
    (hother : ∀ d e, ¬counts e → look (assign d e) = look d) (d : δ) :
    look (list.foldl assign d) = some a
      ↔ LastValue counts value list a ∨ ((∀ e ∈ list, ¬counts e) ∧ look d = some a) := by
  induction list generalizing d with
  | nil =>
      have hnone : ∀ e ∈ ([] : List ε), ¬counts e := fun e he => nomatch he
      exact ⟨fun h => .inr ⟨hnone, h⟩, fun h => h.elim (absurd · not_lastValue_nil) And.right⟩
  | cons e list ih =>
      rw [List.foldl_cons, ih, lastValue_cons_iff, List.forall_mem_cons]
      by_cases he : counts e
      · rw [hcounts d e he, Option.some_inj]
        constructor
        · rintro (hlast | ⟨hnone, hvalue⟩)
          · exact .inl (.inl hlast)
          · exact .inl (.inr ⟨he, hvalue, hnone⟩)
        · rintro ((hlast | ⟨-, hvalue, hnone⟩) | ⟨⟨hne, -⟩, -⟩)
          · exact .inl hlast
          · exact .inr ⟨hnone, hvalue⟩
          · exact absurd he hne
      · rw [hother d e he]
        constructor
        · rintro (hlast | ⟨hnone, hbefore⟩)
          · exact .inl (.inl hlast)
          · exact .inr ⟨⟨he, hnone⟩, hbefore⟩
        · rintro ((hlast | ⟨hcount, -⟩) | ⟨⟨-, hnone⟩, hbefore⟩)
          · exact .inl hlast
          · exact absurd hcount he
          · exact .inr ⟨hnone, hbefore⟩

variable (counts value list) in
/-- If nothing was there before, a look-up fails when no assignment counts for it. -/
theorem look_foldl_eq_none_iff {δ : Type v} (look : δ → Option α) {assign : δ → ε → δ}
    (hcounts : ∀ d e, counts e → look (assign d e) = some (value e))
    (hother : ∀ d e, ¬counts e → look (assign d e) = look d) {d : δ} (hd : look d = none) :
    look (list.foldl assign d) = none ↔ ∀ e ∈ list, ¬counts e := by
  induction list using List.reverseRecOn with
  | nil => exact ⟨fun _ e he => (nomatch he), fun _ => hd⟩
  | append_singleton list e ih =>
      rw [List.foldl_append, List.foldl_cons, List.foldl_nil]
      simp only [List.mem_append, List.mem_singleton, or_imp, forall_and, forall_eq]
      by_cases he : counts e
      · rw [hcounts _ e he]
        exact ⟨fun h => (nomatch h), fun h => absurd he h.2⟩
      · rw [hother _ e he, ih]
        exact ⟨fun h => ⟨h, he⟩, And.left⟩

/-- Where all members that count have one value, any of them tells it. -/
theorem lastValue_iff_exists_mem
    (h : ∀ e ∈ list, ∀ e' ∈ list, counts e → counts e' → value e = value e') :
    LastValue counts value list a ↔ ∃ e ∈ list, counts e ∧ value e = a := by
  refine ⟨LastValue.exists_mem, ?_⟩
  induction list with
  | nil => exact fun ⟨e, he, _⟩ => nomatch he
  | cons first list ih =>
      rintro ⟨e, he, hcount, hvalue⟩
      rw [lastValue_cons_iff]
      have hrest := ih fun e he e' he' =>
        h e (List.mem_cons_of_mem first he) e' (List.mem_cons_of_mem first he')
      by_cases hnone : ∀ later ∈ list, ¬counts later
      · rcases List.mem_cons.mp he with rfl | he
        · exact .inr ⟨hcount, hvalue, hnone⟩
        · exact absurd hcount (hnone e he)
      · simp only [not_forall, not_not] at hnone
        obtain ⟨e', he', hcount'⟩ := hnone
        have hsame := h e' (List.mem_cons_of_mem first he') e he hcount' hcount
        exact .inl (hrest ⟨e', he', hcount', hsame.trans hvalue⟩)

end

/-! ## Equality -/

namespace Dict

variable {α : Type u} {d e : Dict α}

theorem nodup_entries (d : Dict α) : d.entries.Nodup :=
  List.Pairwise.imp (fun {a b} hlt (heq : a = b) => String.lt_irrefl b.1 (heq ▸ hlt)) d.ascending

/-- **Dictionaries with the same look-ups are equal.** -/
theorem ext_get? (h : ∀ key, d.get? key = e.get? key) : d = e := by
  have hmem : ∀ entry : String × α, entry ∈ d.entries ↔ entry ∈ e.entries := by
    rintro ⟨key, value⟩
    rw [← get?_eq_some_iff, ← get?_eq_some_iff, h]
  have hperm : d.entries.Perm e.entries :=
    (List.perm_ext_iff_of_nodup d.nodup_entries e.nodup_entries).mpr hmem
  have hentries : d.entries = e.entries :=
    hperm.eq_of_pairwise (fun _ _ _ _ hlt hgt => absurd hgt (String.lt_asymm hlt)) d.ascending
      e.ascending
  obtain ⟨entries, ascending⟩ := d
  obtain ⟨entries', ascending'⟩ := e
  obtain rfl : entries = entries' := hentries
  rfl

theorem get?_insert (d : Dict α) (key other : String) (value : α) :
    (d.insert key value).get? other = if other = key then some value else d.get? other := by
  by_cases h : other = key
  · rw [if_pos h, h, get?_insert_self]
  · rw [if_neg h, get?_insert_ne d value h]

/-- Of two values for one key the later one holds. -/
theorem insert_insert (d : Dict α) (key : String) (value value' : α) :
    (d.insert key value).insert key value' = d.insert key value' := by
  refine ext_get? fun other => ?_
  simp only [get?_insert]
  split <;> rfl

theorem isEmpty_iff_forall_get? : d.isEmpty = true ↔ ∀ key, d.get? key = none := by
  rw [isEmpty, List.isEmpty_iff]
  constructor
  · intro h key
    rw [get?, h]
    rfl
  · intro h
    refine List.eq_nil_iff_forall_not_mem.mpr ?_
    rintro ⟨key, value⟩ hmem
    have hsome := get?_eq_some_iff.mpr hmem
    rw [h key] at hsome
    cases hsome

/-! ## Dictionaries of lists -/

/-- A dictionary shows the last binding of each key. -/
theorem get?_ofList_eq_some_iff {bindings : List (String × α)} {key : String} {value : α} :
    (ofList bindings).get? key = some value
      ↔ LastValue (·.1 = key) Prod.snd bindings value := by
  have hcounts : ∀ (d : Dict α) (b : String × α), b.1 = key →
      (d.insert b.1 b.2).get? key = some b.2 := fun d b hb => by rw [← hb, get?_insert_self]
  have hother : ∀ (d : Dict α) (b : String × α), ¬b.1 = key →
      (d.insert b.1 b.2).get? key = d.get? key := fun d b hb => get?_insert_ne d b.2 (Ne.symm hb)
  have hlook := look_foldl_eq_some_iff (a := value) (·.1 = key) Prod.snd bindings
    (fun d : Dict α => d.get? key) hcounts hother empty
  rw [ofList, hlook, get?_empty]
  exact or_iff_left fun h => nomatch h.2

/-- What is bound in a dictionary is found among its entries, in whatever order they are listed. -/
theorem get?_eq_some_iff_of_perm {bindings : List (String × α)} (h : bindings.Perm d.entries)
    {key : String} {value : α} :
    d.get? key = some value ↔ ∃ b ∈ bindings, b.1 = key ∧ b.2 = value := by
  rw [get?_eq_some_iff, ← h.mem_iff]
  constructor
  · exact fun hmem => ⟨_, hmem, rfl, rfl⟩
  · rintro ⟨⟨key, value⟩, hmem, rfl, rfl⟩
    exact hmem

/-- **The entries of a dictionary make that dictionary, in whatever order they come.** -/
theorem ofList_of_perm {bindings : List (String × α)} (h : bindings.Perm d.entries) :
    ofList bindings = d := by
  have hsame : ∀ key, ∀ b ∈ bindings, ∀ b' ∈ bindings, b.1 = key → b'.1 = key → b.2 = b'.2 := by
    intro key b hb b' hb' hkey hkey'
    have hget := (get?_eq_some_iff_of_perm h).mpr ⟨b, hb, hkey, rfl⟩
    have hget' := (get?_eq_some_iff_of_perm h).mpr ⟨b', hb', hkey', rfl⟩
    exact Option.some.inj (hget.symm.trans hget')
  refine ext_get? fun key => Option.ext fun value => ?_
  rw [get?_ofList_eq_some_iff, lastValue_iff_exists_mem (hsame key), get?_eq_some_iff_of_perm h]

/-- **A dictionary of distinct keys holds what it is made from.** -/
theorem entries_ofList_perm {bindings : List (String × α)} (h : (bindings.map Prod.fst).Nodup) :
    (ofList bindings).entries.Perm bindings := by
  have hsame : ∀ key, ∀ b ∈ bindings, ∀ b' ∈ bindings, b.1 = key → b'.1 = key → b.2 = b'.2 := by
    rintro key b hb b' hb' hkey hkey'
    rw [List.inj_on_of_nodup_map h hb hb' (hkey.trans hkey'.symm)]
  refine (List.perm_ext_iff_of_nodup (nodup_entries _) h.of_map).mpr fun ⟨key, value⟩ => ?_
  rw [← get?_eq_some_iff, get?_ofList_eq_some_iff, lastValue_iff_exists_mem (hsame key)]
  constructor
  · rintro ⟨⟨key, value⟩, hmem, rfl, rfl⟩
    exact hmem
  · exact fun hmem => ⟨_, hmem, rfl, rfl⟩

theorem ofList_concat (bindings : List (String × α)) (b : String × α) :
    ofList (bindings ++ [b]) = (ofList bindings).insert b.1 b.2 := by
  rw [ofList, List.foldl_append]
  rfl

/-- **Later bindings go before earlier ones.** -/
theorem get?_ofList_append (bindings later : List (String × α)) (key : String) :
    (ofList (bindings ++ later)).get? key
      = ((ofList later).get? key).or ((ofList bindings).get? key) := by
  induction later using List.reverseRecOn with
  | nil => rw [List.append_nil]; rfl
  | append_singleton later b ih =>
      rw [← List.append_assoc, ofList_concat, ofList_concat, get?_insert, get?_insert, ih]
      split <;> rfl

/-! ## Filling a dictionary from another one -/

variable {β : Type v}

/-- The dictionary with the keys of some entries bound to values that are made from theirs and from
what the key was bound to before. -/
def fill (make : Option β → α → β) (entries : List (String × α)) (d : Dict β) : Dict β :=
  entries.foldl (fun d e => d.insert e.1 (make (d.get? e.1) e.2)) d

theorem get?_fill_entries (make : Option β → α → β) {entries : List (String × α)}
    (hentries : (entries.map Prod.fst).Nodup) {d : Dict β}
    (hfree : ∀ e ∈ entries, d.get? e.1 = none) (key : String) :
    (fill make entries d).get? key = ((find? key entries).map (make none)).or (d.get? key) := by
  induction entries generalizing d with
  | nil => rfl
  | cons e entries ih =>
      obtain ⟨k, a⟩ := e
      obtain ⟨hlater, hrest⟩ := List.nodup_cons.mp hentries
      have hk : d.get? k = none := hfree (k, a) List.mem_cons_self
      have hne (e : String × α) (he : e ∈ entries) : e.1 ≠ k := fun heq => by
        have hmem : e.1 ∈ entries.map Prod.fst := List.mem_map_of_mem he
        exact hlater (heq ▸ hmem)
      have hfree' : ∀ e ∈ entries, (d.insert k (make none a)).get? e.1 = none := fun e he => by
        rw [get?_insert_ne _ _ (hne e he)]
        exact hfree e (List.mem_cons_of_mem _ he)
      have hstep : fill make ((k, a) :: entries) d
          = fill make entries (d.insert k (make none a)) := by
        rw [fill, List.foldl_cons, hk]
        rfl
      rw [hstep, ih hrest hfree', find?, get?_insert]
      by_cases hkey : key = k
      · -- the key of the first one is not among those behind it
        have hlast : find? key entries = none := by
          cases hfind : find? key entries with
          | none => rfl
          | some b => exact absurd hkey (hne _ (mem_of_find? hfind))
        rw [if_pos hkey, if_pos hkey, hlast]
        rfl
      · rw [if_neg hkey, if_neg hkey]

/-- A look-up among the entries of a dictionary does not depend on the order of these. -/
theorem find?_eq_get?_of_perm {entries : List (String × α)} (h : entries.Perm d.entries)
    (key : String) : find? key entries = d.get? key := by
  have hkeys : (entries.map Prod.fst).Nodup := (h.map Prod.fst).nodup_iff.mpr d.nodup_keys
  refine Option.ext fun value => ?_
  rw [get?_eq_some_iff, ← h.mem_iff]
  exact ⟨mem_of_find?, find?_of_mem hkeys⟩

/-- **What is filled from a dictionary has its keys**, each with what is made from its value,
whatever the order in which the entries are visited. -/
theorem get?_fill (make : Option β → α → β) {entries : List (String × α)}
    (h : entries.Perm d.entries) (key : String) :
    (fill make entries ∅).get? key = (d.get? key).map (make none) := by
  have hnone : (∅ : Dict β).get? key = none := rfl
  have hkeys : (entries.map Prod.fst).Nodup := (h.map Prod.fst).nodup_iff.mpr d.nodup_keys
  rw [get?_fill_entries make hkeys fun _ _ => rfl, hnone, Option.or_none,
    find?_eq_get?_of_perm h]

end Dict

end HostAgent
