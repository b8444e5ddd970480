import HostAgent.Proofs.Dict
import HostAgent.Proofs.Overrides
import HostAgent.Proofs.Text.Case

set_option autoImplicit false

/-! # The assignment that a look-up finds

An assignment *concerns* a key of a section if its section and its key are alike to these. Among a
list of assignments a look-up finds the last one that concerns its key, and it finds nothing if
there is none (`get?_ofEntries_eq_last`). So it depends neither on how names are spelled nor on the
assignments to other keys.
-/

namespace HostAgent.Overrides

/-- An assignment to a key of a section, whatever the case in which either is spelled. -/
structure Entry.Concerns (e : Entry) (group key : String) : Prop where
  group_alike : Alike e.group group
  key_alike : Alike e.key key

/-- Two assignments of one value that differ at most in the case of their names. -/
structure Entry.Respells (e e' : Entry) : Prop where
  group_alike : Alike e.group e'.group
  key_alike : Alike e.key e'.key
  value_eq : e.value = e'.value

theorem Entry.concerns_iff {e : Entry} {group key : String} :
    e.Concerns group key ↔ SameName group e.group ∧ SameName key e.key := by
  constructor
  · rintro ⟨hgroup, hkey⟩
    exact ⟨(sameName_iff_alike.mpr hgroup).symm, (sameName_iff_alike.mpr hkey).symm⟩
  · rintro ⟨hgroup, hkey⟩
    exact ⟨sameName_iff_alike.mp hgroup.symm, sameName_iff_alike.mp hkey.symm⟩

variable {entries : List Entry} {e e' : Entry} {group key group' key' : String}

theorem get?_assign_of_concerns (o : Overrides) (h : e.Concerns group key) :
    (o.assign e).get? group key = some e.value := by
  rw [get?_assign, if_pos (Entry.concerns_iff.mp h)]

theorem get?_assign_of_not_concerns (o : Overrides) (h : ¬e.Concerns group key) :
    (o.assign e).get? group key = o.get? group key := by
  rw [get?_assign, if_neg (mt Entry.concerns_iff.mpr h)]

/-! ## The last assignment -/

/-- **A look-up finds the last assignment that concerns its key.** -/
theorem get?_ofEntries_eq_some_iff {value : String} :
    (ofEntries entries).get? group key = some value
      ↔ LastValue (fun e : Entry => e.Concerns group key) Entry.value entries value := by
  have hlook := look_foldl_eq_some_iff (a := value) (fun e : Entry => e.Concerns group key)
    Entry.value entries (fun o : Overrides => o.get? group key)
    (fun o _ he => get?_assign_of_concerns o he) (fun o _ he => get?_assign_of_not_concerns o he)
    empty
  rw [ofEntries, hlook]
  exact or_iff_left fun h => nomatch h.2

theorem get?_ofEntries_eq_none_iff :
    (ofEntries entries).get? group key = none ↔ ∀ e ∈ entries, ¬e.Concerns group key :=
  look_foldl_eq_none_iff (fun e : Entry => e.Concerns group key) Entry.value entries
    (fun o : Overrides => o.get? group key)
    (fun o _ he => get?_assign_of_concerns o he) (fun o _ he => get?_assign_of_not_concerns o he)
    rfl

/-! ## What does not matter -/

/-- **The spelling of what is looked up does not matter.** -/
theorem get?_congr (o : Overrides) (hgroup : Alike group group') (hkey : Alike key key') :
    o.get? group key = o.get? group' key' := by
  have hg : foldCase group = foldCase group' := sameName_iff_alike.mpr hgroup
  have hk : foldCase key = foldCase key' := sameName_iff_alike.mpr hkey
  rw [get?_eq, get?_eq, hg, hk]

/-- Assignments that differ in case alone do the same. -/
theorem assign_congr (o : Overrides) (h : e.Respells e') : o.assign e = o.assign e' := by
  have hg : foldCase e.group = foldCase e'.group := sameName_iff_alike.mpr h.group_alike
  have hk : foldCase e.key = foldCase e'.key := sameName_iff_alike.mpr h.key_alike
  rw [assign, assign, hg, hk, h.value_eq]

/-- **The spelling of assignments does not matter.** -/
theorem ofEntries_congr {entries' : List Entry} (h : List.Forall₂ Entry.Respells entries entries') :
    ofEntries entries = ofEntries entries' := by
  unfold ofEntries
  generalize empty = o
  induction h generalizing o with
  | nil => rfl
  | cons he _ ih => rw [List.foldl_cons, List.foldl_cons, assign_congr o he, ih]

/-- **Assignments to other keys do not matter.** -/
theorem get?_ofEntries_skip {before after : List Entry} (h : ¬e.Concerns group key) :
    (ofEntries (before ++ e :: after)).get? group key
      = (ofEntries (before ++ after)).get? group key := by
  unfold ofEntries
  rw [List.foldl_append, List.foldl_append, List.foldl_cons]
  generalize before.foldl assign empty = o
  -- the assignment changes the store, so the look-up is followed along what comes after it
  have hsame : ∀ o o' : Overrides, o.get? group key = o'.get? group key →
      (after.foldl assign o).get? group key = (after.foldl assign o').get? group key := by
    induction after with
    | nil => exact fun _ _ hget => hget
    | cons next after ih =>
        intro o o' hget
        refine ih _ _ ?_
        rw [get?_assign, get?_assign, hget]
  exact hsame _ _ (get?_assign_of_not_concerns o h)

/-- **A look-up finds the last assignment to its key.** Its value is that of the last assignment
whose section and key are those of the look-up up to the case of ASCII letters, and there is none if
no assignment is such. The case in which either side is spelled does not matter, assignments to
other sections and keys do not interfere, and where a name has a character beyond ASCII, the other
one has the same. -/
theorem get?_ofEntries_eq_last (entries : List Entry) (group key : String) :
    (∀ value, (ofEntries entries).get? group key = some value
        ↔ ∃ before e after, entries = before ++ e :: after ∧ e.Concerns group key
          ∧ e.value = value ∧ ∀ later ∈ after, ¬later.Concerns group key)
      ∧ ((ofEntries entries).get? group key = none ↔ ∀ e ∈ entries, ¬e.Concerns group key)
      ∧ (∀ group' key', Alike group group' → Alike key key' →
        (ofEntries entries).get? group key = (ofEntries entries).get? group' key')
      ∧ (∀ respelled, List.Forall₂ Entry.Respells entries respelled →
        (ofEntries entries).get? group key = (ofEntries respelled).get? group key)
      ∧ (∀ before other after, entries = before ++ other :: after → ¬other.Concerns group key →
        (ofEntries entries).get? group key = (ofEntries (before ++ after)).get? group key)
      ∧ (∀ e ∈ entries, e.Concerns group key → ∀ (i : Nat) (c : Char), 127 < c.toNat →
        (e.group.toList[i]? = some c ↔ group.toList[i]? = some c)
          ∧ (e.key.toList[i]? = some c ↔ key.toList[i]? = some c)) := by
  refine ⟨fun value => get?_ofEntries_eq_some_iff, get?_ofEntries_eq_none_iff,
    fun group' key' hgroup hkey => get?_congr _ hgroup hkey, fun respelled h => ?_,
    fun before other after heq h => ?_, fun e _ he i c hc => ?_⟩
  · rw [ofEntries_congr h]
  · rw [heq, get?_ofEntries_skip h]
  · exact ⟨he.group_alike.getElem?_iff hc, he.key_alike.getElem?_iff hc⟩

/-- Two spellings of a section are one section, in which a later assignment replaces an earlier one;
`Ó` and `ó` are two letters. -/
example :
    let o := ofEntries [⟨"wsfc", "port", "1"⟩, ⟨"WSFC", "Port", "2"⟩, ⟨"wsfc", "pórt", "3"⟩]
    o.get? "Wsfc" "PORT" = some "2" ∧ o.get? "Wsfc" "PÓRT" = none := by
  decide +kernel

end HostAgent.Overrides
