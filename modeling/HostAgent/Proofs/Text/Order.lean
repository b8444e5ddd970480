import HostAgent.Text.Order
import Mathlib.Data.List.Sort
import Mathlib.Data.String.Basic

set_option autoImplicit false

/-! # Sorted lists of texts

`sortDistinct` keeps the members of a list and puts them into strictly increasing order, so its
result depends on the set of members alone (`sortDistinct_congr`). `sortTexts` is insertion sort
(`sortTexts_eq_insertionSort`): it keeps repetitions, forgets the order of a list
(`sortTexts_eq_of_perm`), and leaves a list alone that is strictly increasing already.
-/

namespace HostAgent

theorem mem_insertDistinct {a s : String} {texts : List String} :
    a ∈ insertDistinct s texts ↔ a = s ∨ a ∈ texts := by
  induction texts with
  | nil => simp [insertDistinct]
  | cons t rest ih =>
      rw [insertDistinct]
      split
      · exact List.mem_cons
      · split
        · next heq =>
          subst heq
          simp
        · rw [List.mem_cons, ih, List.mem_cons]
          exact or_left_comm

@[simp] theorem mem_sortDistinct {a : String} {texts : List String} :
    a ∈ sortDistinct texts ↔ a ∈ texts := by
  induction texts with
  | nil => exact Iff.rfl
  | cons t rest ih =>
      show a ∈ insertDistinct t (sortDistinct rest) ↔ _
      rw [mem_insertDistinct, ih, List.mem_cons]

theorem pairwise_insertDistinct (s : String) {texts : List String}
    (h : texts.Pairwise (· < ·)) : (insertDistinct s texts).Pairwise (· < ·) := by
  induction texts with
  | nil => exact List.pairwise_singleton _ s
  | cons t rest ih =>
      obtain ⟨ht, hrest⟩ := List.pairwise_cons.mp h
      rw [insertDistinct]
      split
      · next hlt =>
        refine List.pairwise_cons.mpr ⟨fun a ha => ?_, h⟩
        rcases List.mem_cons.mp ha with rfl | ha
        · exact hlt
        · exact String.lt_trans hlt (ht a ha)
      · split
        · exact h
        · next hnlt hne =>
          -- the text goes behind the first one, which stays the least
          have hts : t < s := by
            by_cases hts : t < s
            · exact hts
            · exact absurd (String.le_antisymm (String.not_lt.mp hts) (String.not_lt.mp hnlt)) hne
          refine List.pairwise_cons.mpr ⟨fun a ha => ?_, ih hrest⟩
          rcases mem_insertDistinct.mp ha with rfl | ha
          · exact hts
          · exact ht a ha

theorem pairwise_sortDistinct (texts : List String) : (sortDistinct texts).Pairwise (· < ·) := by
  induction texts with
  | nil => exact .nil
  | cons t rest ih => exact pairwise_insertDistinct t ih

/-- **Lists of the same texts are sorted into the same list**, however often and in whatever
order they hold them. -/
theorem sortDistinct_congr {texts texts' : List String} (h : ∀ a, a ∈ texts ↔ a ∈ texts') :
    sortDistinct texts = sortDistinct texts' := by
  refine (pairwise_sortDistinct texts).eq_of_mem_iff (pairwise_sortDistinct texts') fun a => ?_
  rw [mem_sortDistinct, mem_sortDistinct, h a]

theorem insertText_eq_orderedInsert (s : String) (texts : List String) :
    insertText s texts = texts.orderedInsert (· ≤ ·) s := by
  induction texts with
  | nil => rfl
  | cons t rest ih =>
      rw [insertText, List.orderedInsert, ih]
      by_cases h : t < s
      · rw [if_pos h, if_neg (String.not_le.mpr h)]
      · rw [if_neg h, if_pos (String.not_lt.mp h)]

theorem sortTexts_eq_insertionSort (texts : List String) :
    sortTexts texts = texts.insertionSort (· ≤ ·) := by
  induction texts with
  | nil => rfl
  | cons s rest ih =>
      show insertText s (sortTexts rest) = _
      rw [ih, insertText_eq_orderedInsert, List.insertionSort_cons]

theorem sortTexts_eq_self {texts : List String} (h : texts.Pairwise (· < ·)) :
    sortTexts texts = texts := by
  rw [sortTexts_eq_insertionSort]
  exact (h.imp le_of_lt).insertionSort_eq

/-- **The order of a list does not matter to the sorted list.** -/
theorem sortTexts_eq_of_perm {texts texts' : List String} (h : texts.Perm texts') :
    sortTexts texts = sortTexts texts' := by
  rw [sortTexts_eq_insertionSort, sortTexts_eq_insertionSort]
  have hperm := (List.perm_insertionSort (· ≤ ·) texts).trans
    (h.trans (List.perm_insertionSort (· ≤ ·) texts').symm)
  exact hperm.eq_of_pairwise (fun _ _ _ _ => String.le_antisymm)
    (List.pairwise_insertionSort _ _) (List.pairwise_insertionSort _ _)

end HostAgent
