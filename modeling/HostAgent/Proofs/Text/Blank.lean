import HostAgent.Text.Blank
import HostAgent.Text.Split
import Mathlib.Data.List.DropRight

set_option autoImplicit false

/-! # Trimmed texts and pieces of texts

Trimming leaves no blank at either end, so a second trimming changes nothing, and it adds no
character. The pieces of a text between the occurrences of a separator do not hold the separator,
and the pieces of two texts with a separator between them are those of the one and the other.
Joining the pieces gives the text back, and cutting a text that was joined gives the pieces back.
-/

namespace HostAgent

/-! ## Trimming -/

theorem trimEndChars_eq (cs : List Char) : trimEndChars cs = cs.rdropWhile isBlank := rfl

/-- What is cut off at the end does not bring a blank to the front. -/
theorem dropWhile_trimEndChars {cs : List Char} (h : cs.dropWhile isBlank = cs) :
    (trimEndChars cs).dropWhile isBlank = trimEndChars cs := by
  obtain ⟨cut, hcut⟩ := List.rdropWhile_prefix isBlank cs
  rw [← trimEndChars_eq] at hcut
  cases hkept : trimEndChars cs with
  | nil => rfl
  | cons c rest =>
      -- the first character that is kept is the first one of all
      rw [hkept, List.cons_append] at hcut
      have hc : ¬isBlank c = true := by
        intro hblank
        rw [← hcut, List.dropWhile_cons_of_pos hblank] at h
        have hle : ((rest ++ cut).dropWhile isBlank).length ≤ (rest ++ cut).length :=
          (List.dropWhile_sublist isBlank).length_le
        rw [h, List.length_cons] at hle
        omega
      exact List.dropWhile_cons_of_neg hc

theorem trimChars_trimChars (cs : List Char) : trimChars (trimChars cs) = trimChars cs := by
  have hfront : (trimChars cs).dropWhile isBlank = trimChars cs :=
    dropWhile_trimEndChars (List.dropWhile_idempotent isBlank cs)
  calc trimChars (trimChars cs)
      = trimEndChars ((trimChars cs).dropWhile isBlank) := rfl
    _ = trimEndChars (trimEndChars (cs.dropWhile isBlank)) := by rw [hfront, trimChars]
    _ = trimChars cs := List.rdropWhile_idempotent isBlank (cs.dropWhile isBlank)

/-- **A text that was trimmed is trimmed.** -/
theorem isTrimmed_trim (s : String) : IsTrimmed (trim s) := by
  unfold IsTrimmed
  rw [trim, toList_trim, trimChars_trimChars]
  rfl

/-- Blanks around a text do not survive trimming. -/
theorem trimChars_append {front back : List Char} (hfront : ∀ c ∈ front, isBlank c = true)
    (hback : ∀ c ∈ back, isBlank c = true) (cs : List Char) :
    trimChars (front ++ (cs ++ back)) = trimChars cs := by
  have hend : ∀ ds : List Char, trimEndChars (ds ++ back) = trimEndChars ds := by
    intro ds
    rw [trimEndChars, List.reverse_append,
      List.dropWhile_append_of_pos fun c hc => hback c (List.mem_reverse.mp hc), trimEndChars]
  rw [trimChars, List.dropWhile_append_of_pos hfront, List.dropWhile_append]
  cases hcs : cs.dropWhile isBlank with
  | nil =>
      -- nothing but blanks
      have hblank : back.dropWhile isBlank = [] := List.dropWhile_eq_nil_iff.mpr hback
      rw [List.isEmpty_nil, if_pos rfl, hblank, trimChars, hcs]
  | cons c rest => rw [List.isEmpty_cons, if_neg Bool.false_ne_true, hend, trimChars, hcs]

theorem trimChars_cons {c : Char} (h : isBlank c = true) (cs : List Char) :
    trimChars (c :: cs) = trimChars cs := by
  simpa using trimChars_append (List.forall_mem_singleton.mpr h) (List.forall_mem_nil _) cs

theorem trimChars_concat {c : Char} (h : isBlank c = true) (cs : List Char) :
    trimChars (cs ++ [c]) = trimChars cs :=
  trimChars_append (List.forall_mem_nil _) (List.forall_mem_singleton.mpr h) cs

/-- A text without blanks at its ends is left as it is. -/
theorem trimChars_eq_self_of_ends {c d : Char} (hc : isBlank c = false) (hd : isBlank d = false)
    (cs : List Char) : trimChars (c :: (cs ++ [d])) = c :: (cs ++ [d]) := by
  rw [trimChars, List.dropWhile_cons_of_neg (by simp [hc]), ← List.cons_append, trimEndChars,
    List.reverse_append, List.reverse_singleton, List.singleton_append,
    List.dropWhile_cons_of_neg (by simp [hd]), List.reverse_cons, List.reverse_reverse]

/-- A text without blanks is left as it is. -/
theorem trimChars_of_forall {cs : List Char} (h : ∀ c ∈ cs, isBlank c = false) :
    trimChars cs = cs := by
  have hkeep : ∀ ds : List Char, (∀ c ∈ ds, isBlank c = false) → ds.dropWhile isBlank = ds := by
    rintro (_ | ⟨d, ds⟩) hds
    · rfl
    · exact List.dropWhile_cons_of_neg (by rw [hds d List.mem_cons_self]; exact Bool.false_ne_true)
  rw [trimChars, hkeep cs h, trimEndChars,
    hkeep cs.reverse fun c hc => h c (List.mem_reverse.mp hc), List.reverse_reverse]

theorem mem_of_mem_trimChars {c : Char} {cs : List Char} (h : c ∈ trimChars cs) : c ∈ cs := by
  have hfront : c ∈ cs.dropWhile isBlank := (List.rdropWhile_prefix isBlank _).subset h
  exact List.dropWhile_subset isBlank hfront

/-! ## Pieces -/

/-- **No piece holds the separator.** -/
theorem not_mem_of_mem_splitChars {separator : Char} {cs piece : List Char}
    (h : piece ∈ splitChars separator cs) : separator ∉ piece := by
  induction cs generalizing piece with
  | nil =>
      obtain rfl := List.mem_singleton.mp h
      exact List.not_mem_nil
  | cons c rest ih =>
      rw [splitChars] at h
      split at h
      · rcases List.mem_cons.mp h with rfl | h
        · exact List.not_mem_nil
        · exact ih h
      · next hne =>
        split at h
        · obtain rfl := List.mem_singleton.mp h
          exact fun hs => hne (List.mem_singleton.mp hs).symm
        · next first others hrest =>
          rw [hrest] at ih
          rcases List.mem_cons.mp h with rfl | h
          · intro hs
            rcases List.mem_cons.mp hs with hc | hs
            · exact hne hc.symm
            · exact ih List.mem_cons_self hs
          · exact ih (List.mem_cons_of_mem first h)

theorem not_mem_of_mem_splitText {separator : Char} {s piece : String}
    (h : piece ∈ splitText separator s) : separator ∉ piece.toList := by
  obtain ⟨cs, hcs, rfl⟩ := List.mem_map.mp h
  rw [String.toList_ofList]
  exact not_mem_of_mem_splitChars hcs

theorem splitChars_ne_nil {separator : Char} (cs : List Char) : splitChars separator cs ≠ [] := by
  cases cs with
  | nil => exact List.cons_ne_nil _ _
  | cons c cs =>
      rw [splitChars]
      by_cases hc : c = separator
      · rw [if_pos hc]
        exact List.cons_ne_nil _ _
      · rw [if_neg hc]
        cases splitChars separator cs <;> exact List.cons_ne_nil _ _

theorem splitChars_append {separator : Char} (cs ds : List Char) :
    splitChars separator (cs ++ separator :: ds)
      = splitChars separator cs ++ splitChars separator ds := by
  induction cs with
  | nil =>
      show splitChars separator (separator :: ds) = [] :: splitChars separator ds
      rw [splitChars, if_pos rfl]
  | cons c cs ih =>
      rw [List.cons_append, splitChars, splitChars, ih]
      by_cases hc : c = separator
      · rw [if_pos hc, if_pos hc, List.cons_append]
      · rw [if_neg hc, if_neg hc]
        cases hcs : splitChars separator cs with
        | nil => exact absurd hcs (splitChars_ne_nil cs)
        | cons piece pieces => rfl

theorem splitChars_of_not_mem {separator : Char} {cs : List Char} (h : separator ∉ cs) :
    splitChars separator cs = [cs] := by
  induction cs with
  | nil => rfl
  | cons c cs ih =>
      have hc : c ≠ separator := fun hc => h (hc ▸ List.mem_cons_self)
      rw [splitChars, if_neg hc, ih (fun hmem => h (List.mem_cons_of_mem c hmem))]

/-- A character behind the text belongs to its last piece. -/
theorem exists_splitChars_concat {separator c : Char} (hc : c ≠ separator) (cs : List Char) :
    ∃ pieces last, splitChars separator cs = pieces ++ [last]
      ∧ splitChars separator (cs ++ [c]) = pieces ++ [last ++ [c]] := by
  induction cs with
  | nil => exact ⟨[], [], rfl, splitChars_of_not_mem (by simpa using hc.symm)⟩
  | cons d cs ih =>
      obtain ⟨pieces, last, hcs, hconcat⟩ := ih
      rw [List.cons_append, splitChars, splitChars, hcs, hconcat]
      by_cases hd : d = separator
      · rw [if_pos hd, if_pos hd]
        exact ⟨[] :: pieces, last, rfl, rfl⟩
      · rw [if_neg hd, if_neg hd]
        cases pieces with
        | nil => exact ⟨[], d :: last, rfl, rfl⟩
        | cons piece pieces => exact ⟨(d :: piece) :: pieces, last, rfl, rfl⟩

/-! ## Cutting and joining -/

theorem splitChars_eq_splitOn (separator : Char) (cs : List Char) :
    splitChars separator cs = cs.splitOn separator := by
  induction cs with
  | nil => rfl
  | cons c cs ih =>
      have hcons : (c :: cs).splitOn separator = if c == separator then [] :: cs.splitOn separator
          else (cs.splitOn separator).modifyHead (List.cons c) :=
        List.splitOnP_cons_eq_if_modifyHead ..
      rw [hcons, splitChars, ← ih]
      by_cases hc : c = separator
      · rw [if_pos hc, if_pos (beq_iff_eq.mpr hc)]
      · rw [if_neg hc, if_neg (mt beq_iff_eq.mp hc)]
        cases hcs : splitChars separator cs with
        | nil => exact absurd hcs (splitChars_ne_nil cs)
        | cons piece pieces => rfl

theorem map_toList_splitText (separator : Char) (s : String) :
    (splitText separator s).map String.toList = s.toList.splitOn separator := by
  rw [splitText, List.map_map, splitChars_eq_splitOn]
  exact (List.map_congr_left fun cs _ => String.toList_ofList).trans (List.map_id _)

/-- **Joining the pieces of a text gives it back.** -/
theorem intercalate_splitText {mark : String} {separator : Char} (h : mark.toList = [separator])
    (s : String) : mark.intercalate (splitText separator s) = s := by
  refine String.toList_inj.mp ?_
  rw [String.toList_intercalate, h, map_toList_splitText, List.intercalate_splitOn]

/-- **Cutting what was joined gives the pieces back**, if none of them holds the separator. -/
theorem splitText_intercalate {mark : String} {separator : Char} (h : mark.toList = [separator])
    {pieces : List String} (hpieces : ∀ piece ∈ pieces, separator ∉ piece.toList)
    (hne : pieces ≠ []) : splitText separator (mark.intercalate pieces) = pieces := by
  have hfree : ∀ cs ∈ pieces.map String.toList, separator ∉ cs := by
    intro cs hcs
    obtain ⟨piece, hpiece, rfl⟩ := List.mem_map.mp hcs
    exact hpieces piece hpiece
  have hcut := List.splitOn_intercalate separator hfree (mt List.map_eq_nil_iff.mp hne)
  rw [splitText, splitChars_eq_splitOn, String.toList_intercalate, h, hcut, List.map_map]
  exact (List.map_congr_left fun piece _ => String.ofList_toList).trans (List.map_id _)

end HostAgent
