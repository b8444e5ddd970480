import HostAgent.Overrides

set_option autoImplicit false

/-! # Looking up overrides

An assignment is seen by look-ups for its own key, in any case, and by no other look-up
(`Overrides.get?_assign`).
-/

namespace HostAgent.Overrides

theorem get?_eq (o : Overrides) (group key : String) :
    o.get? group key = (o.sections.get? (foldCase group)).bind (·.get? (foldCase key)) := rfl

/-- **A look-up sees the assignments to its key and nothing else.** -/
theorem get?_assign (o : Overrides) (e : Entry) (group key : String) :
    (o.assign e).get? group key
      = if SameName group e.group ∧ SameName key e.key then some e.value else o.get? group key := by
  rw [get?_eq, get?_eq, assign]
  by_cases hgroup : SameName group e.group
  · have hg : foldCase group = foldCase e.group := hgroup
    rw [hg, Dict.get?_insert_self, Option.bind_some]
    by_cases hkey : SameName key e.key
    · have hk : foldCase key = foldCase e.key := hkey
      rw [if_pos ⟨hgroup, hkey⟩, hk, Dict.get?_insert_self]
    · -- another key of the section, which is there already or is empty
      rw [if_neg fun h => hkey h.2, Dict.get?_insert_ne _ _ hkey]
      cases o.sections.get? (foldCase e.group) with
      | none => rfl
      | some values => rfl
  · rw [if_neg fun h => hgroup h.1, Dict.get?_insert_ne _ _ hgroup]

end HostAgent.Overrides
