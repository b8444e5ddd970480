import HostAgent.Text.Case
import Mathlib.Data.List.Forall2

set_option autoImplicit false

/-! # Texts that differ in case

Two texts are *alike* when they have the same length, and at each place the same character or the
two cases of one of the letters `A` to `Z`. These are the texts that the folding of case makes equal
(`sameName_iff_alike`). Where one of two alike texts has a character beyond ASCII, the other one has
the same character (`Alike.getElem?_iff`).
-/

namespace HostAgent

/-! ## Characters -/

/-- The same character, or a letter from `A` to `Z` and its small form. -/
def AlikeChars (a b : Char) : Prop :=
  a = b ∨ (a.isUpper = true ∧ b.toNat = a.toNat + 32) ∨ (b.isUpper = true ∧ a.toNat = b.toNat + 32)

theorem isUpper_iff (c : Char) : c.isUpper = true ↔ 65 ≤ c.toNat ∧ c.toNat ≤ 90 :=
  decide_eq_true_iff

theorem isLower_bounds {c : Char} (h : c.isLower = true) : 97 ≤ c.toNat ∧ c.toNat ≤ 122 := by
  obtain ⟨hlow, hhigh⟩ := (Bool.and_eq_true _ _).mp h
  exact ⟨of_decide_eq_true hlow, of_decide_eq_true hhigh⟩

theorem toNat_toLower (c : Char) :
    c.toLower.toNat = if c.isUpper = true then c.toNat + 32 else c.toNat := by
  by_cases h : c.isUpper = true
  · have hbounds := (isUpper_iff c).mp h
    have hlower : c.toLower.toNat = (c.val + 32).toNat :=
      congrArg Char.toNat (dif_pos (of_decide_eq_true h))
    have hval : c.val.toNat = c.toNat := rfl
    rw [if_pos h, hlower, UInt32.toNat_add, hval]
    show (c.toNat + 32) % 4294967296 = c.toNat + 32
    omega
  · have hsame : c.toLower = c := dif_neg fun hbounds => h (decide_eq_true hbounds)
    rw [if_neg h, hsame]

/-- The folding of case makes alike characters equal, and no others. -/
theorem toLower_eq_toLower_iff {a b : Char} : a.toLower = b.toLower ↔ AlikeChars a b := by
  rw [AlikeChars, ← Char.toNat_inj, ← Char.toNat_inj, toNat_toLower, toNat_toLower]
  simp only [isUpper_iff]
  split <;> split <;> omega

/-- A character beyond ASCII is alike to itself only. -/
theorem AlikeChars.eq_of_not_ascii {a b : Char} (h : AlikeChars a b)
    (hascii : 127 < a.toNat ∨ 127 < b.toNat) : a = b := by
  rw [AlikeChars, isUpper_iff, isUpper_iff] at h
  rcases h with rfl | ⟨hupper, hsmall⟩ | ⟨hupper, hsmall⟩
  · rfl
  · omega
  · omega

/-! ## Texts -/

/-- Texts of the same length whose characters are alike, one by one. -/
def Alike (s t : String) : Prop := List.Forall₂ AlikeChars s.toList t.toList

/-- **Names are the same exactly when they are alike.** -/
theorem sameName_iff_alike {s t : String} : SameName s t ↔ Alike s t := by
  have hfolded : SameName s t ↔ s.toList.map Char.toLower = t.toList.map Char.toLower := by
    rw [SameName, ← String.toList_inj, toList_foldCase, toList_foldCase]
  calc SameName s t
      ↔ List.Forall₂ Eq (s.toList.map Char.toLower) (t.toList.map Char.toLower) := by
        rw [hfolded, List.forall₂_eq_eq_eq]
    _ ↔ List.Forall₂ (fun a b : Char => a.toLower = b.toLower) s.toList t.toList := by
        rw [List.forall₂_map_left_iff, List.forall₂_map_right_iff]
    _ ↔ Alike s t := by
        simp only [toLower_eq_toLower_iff]
        rfl

instance (s t : String) : Decidable (Alike s t) :=
  decidable_of_iff (SameName s t) sameName_iff_alike

theorem Alike.symm {s t : String} (h : Alike s t) : Alike t s :=
  sameName_iff_alike.mp (Eq.symm (sameName_iff_alike.mpr h))

theorem Alike.trans {s t u : String} (h : Alike s t) (h' : Alike t u) : Alike s u :=
  sameName_iff_alike.mp (Eq.trans (sameName_iff_alike.mpr h) (sameName_iff_alike.mpr h'))

/-- Beyond ASCII, alike texts have the same characters in the same places. -/
theorem Alike.getElem?_iff {s t : String} (h : Alike s t) {i : Nat} {c : Char}
    (hc : 127 < c.toNat) : s.toList[i]? = some c ↔ t.toList[i]? = some c := by
  have hplaces := (List.forall₂_iff_get.mp h).2
  have hlength := h.length_eq
  constructor
  · intro hs
    obtain ⟨hi, rfl⟩ := List.getElem?_eq_some_iff.mp hs
    have heq := (hplaces i hi (hlength ▸ hi)).eq_of_not_ascii (.inl hc)
    exact List.getElem?_eq_some_iff.mpr ⟨hlength ▸ hi, heq.symm⟩
  · intro ht
    obtain ⟨hi, rfl⟩ := List.getElem?_eq_some_iff.mp ht
    have heq := (hplaces i (hlength ▸ hi) hi).eq_of_not_ascii (.inr hc)
    exact List.getElem?_eq_some_iff.mpr ⟨hlength ▸ hi, heq⟩

theorem foldCase_foldCase (s : String) : foldCase (foldCase s) = foldCase s := by
  have hlower (c : Char) : c.toLower.toLower = c.toLower := by
    rw [← Char.toNat_inj, toNat_toLower c.toLower]
    split
    · next h =>
      have hbounds := (isUpper_iff _).mp h
      rw [toNat_toLower] at hbounds
      -- a small letter is no capital, and what is no capital stays as it is
      split at hbounds
      · next hc =>
        have hc' := (isUpper_iff c).mp hc
        omega
      · next hc => exact absurd ((isUpper_iff c).mpr hbounds) hc
    · rfl
  refine String.toList_inj.mp ?_
  rw [toList_foldCase, toList_foldCase, List.map_map]
  exact List.map_congr_left fun c _ => hlower c

end HostAgent
