import HostAgent.Proofs.Account.Selection
import HostAgent.Proofs.Dict
import Mathlib.Logic.Relation

set_option autoImplicit false

/-! # Account keys and the layout of their text

What a text publishes is the sum of what its lines publish. So two texts with a line break between
them publish the keys of both, of which the later ones replace the earlier ones (`Union`), and
report what both report.

Of a line only what remains after trimming counts, and nothing of a blank line. So blanks may come
and go at the beginning and at the end of any line, among them the carriage return before a line
break and the line breaks between which there is nothing (`LayoutEdit`).
-/

namespace HostAgent.AccountKey

/-! ## Two texts, one behind the other -/

/-- The keys of two texts together: of two keys for one user that of the second text. -/
structure Union (first second keys : List AccountKey) : Prop where
  ordered : (keys.map (·.userName)).Pairwise (· < ·)
  mem_iff : ∀ key, key ∈ keys
    ↔ key ∈ second ∨ key ∈ first ∧ ∀ other ∈ second, other.userName ≠ key.userName

theorem mem_values_selection_iff_get? (now : Instant) (lines : List (List Char))
    (key : AccountKey) : key ∈ (selection now lines).values
      ↔ (selection now lines).get? key.userName = some key := by
  rw [mem_values_selection_iff, get?_selection, and_iff_left rfl]

theorem get?_selection_eq_none_iff (now : Instant) (lines : List (List Char)) (user : String) :
    (selection now lines).get? user = none
      ↔ ∀ other ∈ (selection now lines).values, other.userName ≠ user := by
  constructor
  · rintro hnone other hother rfl
    rw [(mem_values_selection_iff_get? now lines other).mp hother] at hnone
    cases hnone
  · intro h
    refine Option.eq_none_iff_forall_ne_some.mpr fun key hkey => ?_
    obtain ⟨hlast, huser⟩ := (get?_selection now lines user key).mp hkey
    exact h key ((mem_values_selection_iff now lines key).mpr hlast) huser

theorem get?_selection_append (now : Instant) (lines later : List (List Char)) (user : String) :
    (selection now (lines ++ later)).get? user
      = ((selection now later).get? user).or ((selection now lines).get? user) := by
  rw [selection, List.filterMap_append, List.map_append, Dict.get?_ofList_append]
  rfl

/-- **Keys of later lines replace those of earlier lines.** -/
theorem union_selection (now : Instant) (lines later : List (List Char)) (key : AccountKey) :
    key ∈ (selection now (lines ++ later)).values
      ↔ key ∈ (selection now later).values
        ∨ key ∈ (selection now lines).values
          ∧ ∀ other ∈ (selection now later).values, other.userName ≠ key.userName := by
  rw [mem_values_selection_iff_get?, mem_values_selection_iff_get?, mem_values_selection_iff_get?,
    get?_selection_append, Option.or_eq_some_iff, ← get?_selection_eq_none_iff,
    and_comm (a := (selection now lines).get? key.userName = some key)]

/-! ## Layout -/

/-- A text that ends where a line begins. -/
def BeforeLine (before : String) : Prop := before = "" ∨ ∃ lines, before = lines ++ "\n"

/-- A change of nothing but the layout of the lines. -/
inductive LayoutEdit : String → String → Prop
  /-- A carriage return before a line break. -/
  | carriageReturn (before after : String) :
      LayoutEdit (before ++ "\n" ++ after) (before ++ "\r\n" ++ after)
  /-- A blank line before a line. -/
  | blankLine {before blanks : String} (after : String) (hbefore : BeforeLine before)
      (hblanks : isBlankText blanks = true) :
      LayoutEdit (before ++ after) (before ++ blanks ++ "\n" ++ after)
  /-- A blank line behind the last line. -/
  | lastBlankLine {blanks : String} (raw : String) (hblanks : isBlankText blanks = true) :
      LayoutEdit raw (raw ++ "\n" ++ blanks)
  /-- Blanks at the beginning of a line. -/
  | indentation {before blanks : String} (after : String) (hbefore : BeforeLine before)
      (hblanks : isBlankText blanks = true) :
      LayoutEdit (before ++ after) (before ++ blanks ++ after)

/-- The lines of some characters that are not blank, trimmed. -/
def contentOf (cs : List Char) : List (List Char) :=
  ((splitChars '\n' cs).map trimChars).filter fun line => !line.isEmpty

theorem contentOf_append (cs ds : List Char) :
    contentOf (cs ++ '\n' :: ds) = contentOf cs ++ contentOf ds := by
  rw [contentOf, splitChars_append, List.map_append, List.filter_append]
  rfl

theorem contentLines_append (raw later : String) :
    contentLines (raw ++ "\n" ++ later) = contentLines raw ++ contentLines later := by
  rw [contentLines, String.toList_append, String.toList_append, List.append_assoc]
  exact contentOf_append raw.toList later.toList

theorem contentOf_cons {c : Char} (h : isBlank c = true) (cs : List Char) :
    contentOf (c :: cs) = contentOf cs := by
  rw [contentOf, contentOf, splitChars]
  by_cases hc : c = '\n'
  · -- a line without anything comes first
    rw [if_pos hc]
    rfl
  · -- the blank belongs to the first line
    rw [if_neg hc]
    cases hcs : splitChars '\n' cs with
    | nil => exact absurd hcs (splitChars_ne_nil cs)
    | cons piece pieces => simp only [List.map_cons, trimChars_cons h]

theorem contentOf_concat {c : Char} (h : isBlank c = true) (cs : List Char) :
    contentOf (cs ++ [c]) = contentOf cs := by
  rw [contentOf, contentOf]
  by_cases hc : c = '\n'
  · rw [← contentOf, ← contentOf, hc, contentOf_append]
    exact List.append_nil _
  · obtain ⟨pieces, last, hcs, hconcat⟩ := exists_splitChars_concat hc cs
    rw [hcs, hconcat, List.map_append, List.map_append, List.map_singleton, List.map_singleton,
      trimChars_concat h]

theorem contentLines_blanks_append {blanks : String} (h : isBlankText blanks = true)
    (raw : String) :
    contentLines (blanks ++ raw) = contentLines raw := by
  have hall : ∀ cs : List Char, (∀ c ∈ cs, isBlank c = true) →
      contentOf (cs ++ raw.toList) = contentOf raw.toList := by
    intro cs hcs
    induction cs with
    | nil => rfl
    | cons c cs ih =>
        obtain ⟨hc, hcs⟩ := List.forall_mem_cons.mp hcs
        rw [List.cons_append, contentOf_cons hc, ih hcs]
  rw [contentLines, String.toList_append]
  exact hall blanks.toList (List.all_eq_true.mp h)

theorem contentLines_append_blanks {blanks : String} (h : isBlankText blanks = true)
    (raw : String) :
    contentLines (raw ++ blanks) = contentLines raw := by
  have hall : ∀ cs : List Char, (∀ c ∈ cs, isBlank c = true) →
      contentOf (raw.toList ++ cs) = contentOf raw.toList := by
    intro cs hcs
    induction cs using List.reverseRecOn with
    | nil => rw [List.append_nil]
    | append_singleton cs c ih =>
        obtain ⟨hcs, hc⟩ := List.forall_mem_append.mp hcs
        rw [← List.append_assoc, contentOf_concat (hc c List.mem_cons_self), ih hcs]
  rw [contentLines, String.toList_append]
  exact hall blanks.toList (List.all_eq_true.mp h)

/-- Blanks at the beginning of a line do not count. -/
theorem contentLines_of_beforeLine {before blanks : String} (hbefore : BeforeLine before)
    (hblanks : isBlankText blanks = true) (after : String) :
    contentLines (before ++ blanks ++ after) = contentLines (before ++ after) := by
  obtain rfl | ⟨lines, rfl⟩ := hbefore
  · rw [String.empty_append, String.empty_append, contentLines_blanks_append hblanks]
  · rw [String.append_assoc, contentLines_append, contentLines_append,
      contentLines_blanks_append hblanks]

/-- **What remains of the lines does not depend on the layout.** -/
theorem LayoutEdit.contentLines_eq {raw raw' : String} (h : LayoutEdit raw raw') :
    contentLines raw' = contentLines raw := by
  cases h with
  | carriageReturn before after =>
      have hreturn : isBlankText "\r" = true := by decide
      have hbreak : ("\r\n" : String) = "\r" ++ "\n" := rfl
      rw [hbreak, ← String.append_assoc, contentLines_append, contentLines_append,
        contentLines_append_blanks hreturn]
  | @blankLine before blanks after hbefore hblanks =>
      have hline : isBlankText (blanks ++ "\n") = true := by
        rw [isBlankText, String.toList_append, List.all_append, Bool.and_eq_true]
        exact ⟨hblanks, by decide⟩
      have hfront : before ++ blanks ++ "\n" = before ++ (blanks ++ "\n") := String.append_assoc
      rw [hfront, contentLines_of_beforeLine hbefore hline]
  | @lastBlankLine blanks _ hblanks =>
      have hblank := contentLines_append_blanks hblanks ""
      rw [contentLines_append]
      rw [String.empty_append] at hblank
      rw [hblank]
      exact List.append_nil _
  | indentation after hbefore hblanks => exact contentLines_of_beforeLine hbefore hblanks after

theorem readAll_congr_contentLines {raw raw' : String} (h : contentLines raw' = contentLines raw)
    (now : Instant) : readAll raw' now = readAll raw now := by
  rw [readAll, readAll, readLines, readLines, h]

/-! ## What a text publishes is put together from its lines -/

/-- **Two texts with a line break between them publish the keys of both**, and their reports come
one behind the other. The layout of the lines does not matter, not even to the reports. -/
theorem readAll_joined_and_laid_out (now : Instant) :
    (∀ first second : String,
      Union (readAll first now).1 (readAll second now).1 (readAll (first ++ "\n" ++ second) now).1
      ∧ (readAll (first ++ "\n" ++ second) now).2
        = (readAll first now).2 ++ (readAll second now).2)
    ∧ ∀ raw raw' : String, Relation.ReflTransGen LayoutEdit raw raw' →
      readAll raw' now = readAll raw now := by
  refine ⟨fun first second => ⟨⟨pairwise_map_userName_readAll _ now, fun key => ?_⟩, ?_⟩,
    fun raw raw' h => ?_⟩
  · rw [readAll_eq, readAll_eq, readAll_eq, textLines_append]
    exact union_selection now _ _ key
  · rw [readAll_eq, readAll_eq, readAll_eq, textLines_append]
    exact List.flatMap_append
  · induction h with
    | refl => rfl
    | tail _ hlast ih => exact (readAll_congr_contentLines hlast.contentLines_eq now).trans ih

/-- A carriage return and an indentation change neither the key nor the place of the fault. -/
theorem readAll_joined_and_laid_out_of_two_lines :
    let key := "\x7b\"userName\":\"ann\",\"modulus\":\"m\",\"exponent\":\"e\"\x7d"
    let raw := key ++ "\n" ++ "\x7b \x7d"
    let edited := key ++ "\r\n" ++ "\t" ++ "\x7b \x7d"
    let now : Instant := ⟨0, 0⟩
    Relation.ReflTransGen LayoutEdit raw edited ∧ readAll edited now = readAll raw now
      ∧ (readAll edited now).1.map (·.userName) = ["ann"] ∧ (readAll edited now).2.length = 1 := by
  intro key raw edited now
  have hreturn : LayoutEdit raw (key ++ "\r\n" ++ "\x7b \x7d") := .carriageReturn _ _
  have hindented : LayoutEdit (key ++ "\r\n" ++ "\x7b \x7d") edited :=
    .indentation _ (.inr ⟨key ++ "\r", rfl⟩) (by decide)
  have hedits := (Relation.ReflTransGen.single hreturn).tail hindented
  exact ⟨hedits, (readAll_joined_and_laid_out now).2 raw edited hedits, by decide +kernel,
    by decide +kernel⟩

end HostAgent.AccountKey
