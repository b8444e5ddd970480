import HostAgent.OverrideFile
import HostAgent.Proofs.Ini.Tables
import HostAgent.Proofs.Overrides.LastEntry

set_option autoImplicit false

/-! # Equality of overrides

Overrides that come from assignments are in a normal form: sections and keys are stored in folded
case, and no section is stored without a key (`Normal`). In this form two stores with the same
look-ups are the same store (`Normal.ext_get?`), and only the empty list of assignments gives the
empty store. So the order of the assignments does not matter as long as no two of them give one key
different values (`ofEntries_eq_iff_get?`), and a file with such assignments is read alike in
whatever order its tables are walked (`Consistent.ofEntries_assignments_eq`).
-/

namespace HostAgent.Overrides

/-! ## The normal form -/

/-- Stored names are in folded case, and every section that is stored has a key. -/
structure Normal (o : Overrides) : Prop where
  group_folded : ∀ group values, o.sections.get? group = some values → foldCase group = group
  key_folded : ∀ group values key value, o.sections.get? group = some values →
    values.get? key = some value → foldCase key = key
  has_key : ∀ group values, o.sections.get? group = some values →
    ∃ key value, values.get? key = some value

theorem normal_empty : Normal empty where
  group_folded _ _ h := nomatch h
  key_folded _ _ _ _ h := nomatch h
  has_key _ _ h := nomatch h

/-- An assignment keeps the normal form. -/
theorem Normal.assign {o : Overrides} (h : o.Normal) (e : Entry) : (o.assign e).Normal := by
  -- a section of the new store is the one that was assigned to, or an old one
  have hcases : ∀ group values, (o.assign e).sections.get? group = some values →
      (group = foldCase e.group
        ∧ values = ((o.sections.get? group).getD ∅).insert (foldCase e.key) e.value)
      ∨ (group ≠ foldCase e.group ∧ o.sections.get? group = some values) := by
    intro group values hget
    rw [Overrides.assign, Dict.get?_insert] at hget
    by_cases hgroup : group = foldCase e.group
    · rw [if_pos hgroup] at hget
      exact .inl ⟨hgroup, hgroup ▸ (Option.some.inj hget).symm⟩
    · rw [if_neg hgroup] at hget
      exact .inr ⟨hgroup, hget⟩
  constructor
  · intro group values hget
    rcases hcases group values hget with ⟨rfl, -⟩ | ⟨-, hold⟩
    · exact foldCase_foldCase e.group
    · exact h.group_folded group values hold
  · intro group values key value hget hkey
    rcases hcases group values hget with ⟨-, rfl⟩ | ⟨-, hold⟩
    · rw [Dict.get?_insert] at hkey
      split at hkey
      · next heq => rw [heq, foldCase_foldCase]
      · -- a key that was in the section before
        cases hold : o.sections.get? group with
        | none =>
            rw [hold] at hkey
            cases hkey
        | some old =>
            rw [hold, Option.getD_some] at hkey
            exact h.key_folded group old key value hold hkey
    · exact h.key_folded group values key value hold hkey
  · intro group values hget
    rcases hcases group values hget with ⟨-, rfl⟩ | ⟨-, hold⟩
    · exact ⟨foldCase e.key, e.value, Dict.get?_insert_self _ _ _⟩
    · exact h.has_key group values hold

theorem normal_ofEntries (entries : List Entry) : (ofEntries entries).Normal := by
  induction entries using List.reverseRecOn with
  | nil => exact normal_empty
  | append_singleton entries e ih =>
      rw [ofEntries, List.foldl_append]
      exact ih.assign e

/-! ## Look-ups decide -/

namespace Normal

variable {o o' : Overrides}

/-- A value that is stored is found under the names it is stored with. -/
theorem get?_of_stored (h : o.Normal) {group key value : String} {values : Dict String}
    (hgroup : o.sections.get? group = some values) (hkey : values.get? key = some value) :
    o.get? group key = some value := by
  have hg := h.group_folded group values hgroup
  have hk := h.key_folded group values key value hgroup hkey
  rw [get?_eq, hg, hk, hgroup, Option.bind_some, hkey]

/-- A section of the one store is a section of the other one. -/
theorem exists_section (h : o.Normal) (hget : ∀ group key, o.get? group key = o'.get? group key)
    {group : String} {values : Dict String} (hgroup : o.sections.get? group = some values) :
    ∃ values', o'.sections.get? group = some values' := by
  obtain ⟨key, value, hkey⟩ := h.has_key group values hgroup
  have hfound := h.get?_of_stored hgroup hkey
  rw [hget, get?_eq, h.group_folded group values hgroup] at hfound
  cases hgroup' : o'.sections.get? group with
  | none =>
      rw [hgroup'] at hfound
      cases hfound
  | some values' => exact ⟨values', rfl⟩

/-- The keys of a section of the one store are keys of that section of the other one. -/
theorem get?_section (h : o.Normal) (hget : ∀ group key, o.get? group key = o'.get? group key)
    {group key value : String} {values values' : Dict String}
    (hgroup : o.sections.get? group = some values) (hgroup' : o'.sections.get? group = some values')
    (hkey : values.get? key = some value) : values'.get? key = some value := by
  have hfound := h.get?_of_stored hgroup hkey
  rwa [hget, get?_eq, h.group_folded group values hgroup, hgroup', Option.bind_some,
    h.key_folded group values key value hgroup hkey] at hfound

/-- **Stores in normal form with the same look-ups are equal.** -/
theorem ext_get? (h : o.Normal) (h' : o'.Normal)
    (hget : ∀ group key, o.get? group key = o'.get? group key) : o = o' := by
  have hback : ∀ group key, o'.get? group key = o.get? group key := fun group key =>
    (hget group key).symm
  have hsections : o.sections = o'.sections := by
    refine Dict.ext_get? fun group => ?_
    cases hgroup : o.sections.get? group with
    | none =>
        cases hgroup' : o'.sections.get? group with
        | none => rfl
        | some values' =>
            obtain ⟨values, hsome⟩ := h'.exists_section hback hgroup'
            cases hgroup.symm.trans hsome
    | some values =>
        obtain ⟨values', hgroup'⟩ := h.exists_section hget hgroup
        rw [hgroup']
        refine congrArg some (Dict.ext_get? fun key => Option.ext fun value => ?_)
        exact ⟨h.get?_section hget hgroup hgroup', h'.get?_section hback hgroup' hgroup⟩
  obtain ⟨sections⟩ := o
  obtain ⟨sections'⟩ := o'
  exact congrArg Overrides.mk hsections

/-- No value is set only in the empty store. -/
theorem isEmpty_iff (h : o.Normal) : o.isEmpty = true ↔ o = empty := by
  constructor
  · intro hempty
    refine h.ext_get? normal_empty fun group key => ?_
    rw [isEmpty, List.all_eq_true] at hempty
    rw [get?_eq]
    cases hgroup : o.sections.get? (foldCase group) with
    | none => rfl
    | some values =>
        have hmem : values ∈ o.sections.values :=
          List.mem_map_of_mem (f := Prod.snd) (Dict.get?_eq_some_iff.mp hgroup)
        exact Dict.isEmpty_iff_forall_get?.mp (hempty values hmem) (foldCase key)
  · rintro rfl
    rfl

end Normal

/-! ## The order of assignments -/

/-- No two assignments of a list give one key different values. -/
def Consistent (entries : List Entry) : Prop :=
  ∀ e ∈ entries, ∀ e' ∈ entries, e'.Concerns e.group e.key → e'.value = e.value

theorem Entry.Concerns.alike {e e' : Entry} {group key : String} (h : e.Concerns group key)
    (h' : e'.Concerns group key) : e'.Concerns e.group e.key := by
  obtain ⟨hgroup, hkey⟩ := Entry.concerns_iff.mp h
  obtain ⟨hgroup', hkey'⟩ := Entry.concerns_iff.mp h'
  exact Entry.concerns_iff.mpr ⟨hgroup.symm.trans hgroup', hkey.symm.trans hkey'⟩

/-- Without contradictions a look-up finds any assignment to its key. -/
theorem Consistent.get?_eq_some_iff {entries : List Entry} (h : Consistent entries)
    {group key value : String} :
    (ofEntries entries).get? group key = some value
      ↔ ∃ e ∈ entries, e.Concerns group key ∧ e.value = value := by
  rw [get?_ofEntries_eq_some_iff]
  refine lastValue_iff_exists_mem fun e he e' he' hconcerns hconcerns' => ?_
  exact (h e he e' he' (hconcerns.alike hconcerns')).symm

theorem Consistent.perm {entries entries' : List Entry} (h : Consistent entries)
    (hperm : entries.Perm entries') : Consistent entries' :=
  fun e he e' he' => h e (hperm.mem_iff.mpr he) e' (hperm.mem_iff.mpr he')

/-- **Without contradictions the order of assignments does not matter.** -/
theorem Consistent.ofEntries_eq_of_perm {entries entries' : List Entry} (h : Consistent entries)
    (hperm : entries.Perm entries') : ofEntries entries = ofEntries entries' := by
  refine (normal_ofEntries entries).ext_get? (normal_ofEntries entries') fun group key => ?_
  refine Option.ext fun value => ?_
  rw [h.get?_eq_some_iff, (h.perm hperm).get?_eq_some_iff]
  exact exists_congr fun e => and_congr_left fun _ => hperm.mem_iff

/-- **The walk through the tables of a file does not matter** if none of its names leads into
another one and no two of its assignments contradict each other. -/
theorem Consistent.ofEntries_assignments_eq {walk : Ini.Walk} {items : List Ini.Item}
    (h : Consistent (assignments walk items))
    (hsimple : ∀ e ∈ (Ini.bindings items).entries, Ini.Path.IsSimple e.1) (walk' : Ini.Walk) :
    ofEntries (assignments walk items) = ofEntries (assignments walk' items) := by
  refine h.ofEntries_eq_of_perm ?_
  rw [assignments, assignments, Ini.tree_eq_of_simple walk hsimple walk']
  exact (Ini.perm_texts walk walk' _).map _

/-- Without contradictions in a file, its assignments may be collected in any order. -/
theorem ofText_eq_of_perm {walk : Ini.Walk} {text : String} {items : List Ini.Item}
    (hread : Ini.read text = .ok items) (h : Consistent (assignments walk items))
    {listing : List Entry} (hperm : (assignments walk items).Perm listing) :
    ofText text walk = .ok (ofEntries listing) := by
  rw [← h.ofEntries_eq_of_perm hperm, ofText, hread]
  rfl

/-- **Overrides are what look-ups find in them.** Two lists of assignments give the same overrides
if and only if all look-ups agree. Only the empty overrides have no value set, and only the empty
list of assignments gives them. If no two assignments give one key different values, up to the case
of names, every order of them gives the same overrides; so the assignments of a settings file may be
collected in any order. -/
theorem ofEntries_eq_iff_get? (entries entries' : List Entry) :
    (ofEntries entries = ofEntries entries'
        ↔ ∀ group key, (ofEntries entries).get? group key = (ofEntries entries').get? group key)
      ∧ ((ofEntries entries).isEmpty = true ↔ ofEntries entries = empty)
      ∧ ((ofEntries entries).isEmpty = true ↔ entries = [])
      ∧ (Consistent entries → entries.Perm entries' → ofEntries entries = ofEntries entries')
      ∧ ∀ (walk : Ini.Walk) (text : String) (items : List Ini.Item) (listing : List Entry),
        Ini.read text = .ok items → Consistent (assignments walk items) →
          (assignments walk items).Perm listing → ofText text walk = .ok (ofEntries listing) := by
  have hempty := (normal_ofEntries entries).isEmpty_iff
  refine ⟨⟨fun h _ _ => by rw [h], ?_⟩, hempty, hempty.trans ⟨fun h => ?_, fun h => by rw [h]; rfl⟩,
    fun h hperm => h.ofEntries_eq_of_perm hperm,
    fun _ _ _ _ hread h hperm => ofText_eq_of_perm hread h hperm⟩
  · exact (normal_ofEntries entries).ext_get? (normal_ofEntries entries')
  · -- any assignment would be found
    refine List.eq_nil_iff_forall_not_mem.mpr fun e he => ?_
    have hnone : (ofEntries entries).get? e.group e.key = none := by
      rw [h]
      rfl
    have hconcerns : e.Concerns e.group e.key := Entry.concerns_iff.mpr ⟨rfl, rfl⟩
    exact get?_ofEntries_eq_none_iff.mp hnone e he hconcerns

end HostAgent.Overrides
