import HostAgent.Ini.Grammar
import HostAgent.Proofs.Text.Blank

set_option autoImplicit false

/-! # Moving through a settings file

A cursor stands *before* the text that is left to be read. Every cursor that reading gets to has a
line feed in column zero (`Cursor.Before`), so what follows a line feed is in column one at most.

The pieces of a file are read by a few motions: characters of a kind are passed over, a piece of
text is read up to its stop, and the gap between two items is passed over. Each of them is described
by the text that it leaves: `Before.skipWhile`, `Before.exists_readUntil`, `Before.exists_skipGap`.
-/

namespace HostAgent.Ini

namespace Cursor

/-- The cursor stands before `rest`; a line feed there is in column zero. -/
structure Before (c : Cursor) (rest : List Char) : Prop where
  rest_eq : c.rest = rest
  column_eq : rest.head? = some '\n' → c.column = 0

variable {c : Cursor} {ch : Char} {cs rest : List Char} {p : Char → Bool}

theorem before_enter (rest : List Char) (line column : Nat) :
    (enter rest line column).Before rest := by
  cases rest with
  | nil => exact ⟨rfl, fun h => nomatch h⟩
  | cons ch rest =>
      rw [enter]
      by_cases hch : ch = '\n'
      · rw [if_pos hch]
        exact ⟨rfl, fun _ => rfl⟩
      · rw [if_neg hch]
        exact ⟨rfl, fun h => absurd (Option.some.inj h) hch⟩

theorem enter_column_le (rest : List Char) (line : Nat) : (enter rest line 0).column ≤ 1 := by
  cases rest with
  | nil => exact Nat.zero_le 1
  | cons ch rest =>
      rw [enter]
      split
      · exact Nat.zero_le 1
      · exact Nat.le_refl 1

namespace Before

theorem head?_eq (h : c.Before rest) : c.head? = rest.head? := by rw [head?, h.rest_eq]

theorem next (h : c.Before (ch :: rest)) : c.next.Before rest := by
  rw [Cursor.next, h.rest_eq]
  exact before_enter rest c.line c.column

/-- What follows a line feed is at the start of a line. -/
theorem column_next_le (h : c.Before ('\n' :: rest)) : c.next.column ≤ 1 := by
  rw [Cursor.next, h.column_eq rfl]
  exact enter_column_le _ _

end Before

/-! ## Passing over characters -/

theorem skipFrom_eq (p : Char → Bool) (line column : Nat) (rest : List Char) :
    skipFrom p line column rest = (enter rest line column).skipWhile p := by
  cases rest with
  | nil => rfl
  | cons ch rest =>
      have hrest := (before_enter (ch :: rest) line column).rest_eq
      rw [skipFrom, skipWhile, hrest]

namespace Before

theorem skipWhile_of_pos (h : c.Before (ch :: rest)) (hch : p ch = true) :
    c.skipWhile p = c.next.skipWhile p := by
  have htail : c.rest.tail = rest := by rw [h.rest_eq, List.tail_cons]
  rw [Cursor.skipWhile, h.rest_eq]
  show (if p ch = true then skipFrom p c.line c.column rest else c) = c.next.skipWhile p
  rw [if_pos hch, skipFrom_eq, Cursor.next, htail]

theorem skipWhile_of_head (h : c.Before rest) (hrest : ∀ ch, rest.head? = some ch → p ch = false) :
    c.skipWhile p = c := by
  rw [Cursor.skipWhile, h.rest_eq]
  cases rest with
  | nil => rfl
  | cons ch rest =>
      have hch : p ch = false := hrest ch rfl
      show (if p ch = true then skipFrom p c.line c.column rest else c) = c
      rw [hch, if_neg Bool.false_ne_true]

/-- Characters that are passed over in front make no difference. -/
theorem exists_skipWhile_append (h : c.Before (cs ++ rest)) (hcs : ∀ ch ∈ cs, p ch = true) :
    ∃ c' : Cursor, c'.Before rest ∧ c.skipWhile p = c'.skipWhile p := by
  induction cs generalizing c with
  | nil => exact ⟨c, h, rfl⟩
  | cons ch cs ih =>
      obtain ⟨c', h', hskip⟩ := ih h.next fun d hd => hcs d (List.mem_cons_of_mem ch hd)
      exact ⟨c', h', (skipWhile_of_pos h (hcs ch List.mem_cons_self)).trans hskip⟩

/-- **Passing over characters leaves the text behind them.** -/
theorem skipWhile (h : c.Before (cs ++ rest)) (hcs : ∀ ch ∈ cs, p ch = true)
    (hrest : ∀ ch, rest.head? = some ch → p ch = false) : (c.skipWhile p).Before rest := by
  obtain ⟨c', h', hskip⟩ := h.exists_skipWhile_append hcs
  rw [hskip, h'.skipWhile_of_head hrest]
  exact h'

end Before

end Cursor

/-! ## Kinds of characters -/

theorem isIndent_iff {ch : Char} : isIndent ch = true ↔ ch = ' ' ∨ ch = '\t' := by
  simp [isIndent]

theorem isLineEnd_iff {ch : Char} : isLineEnd ch = true ↔ ch = '\n' ∨ ch = '\r' := by
  simp [isLineEnd]

theorem isBlank_of_isIndent {ch : Char} (h : isIndent ch = true) : isBlank ch = true := by
  rcases isIndent_iff.mp h with rfl | rfl <;> decide

theorem isBlank_of_isLineEnd {ch : Char} (h : isLineEnd ch = true) : isBlank ch = true := by
  rcases isLineEnd_iff.mp h with rfl | rfl <;> decide

theorem isLineEnd_eq_false_of_isIndent {ch : Char} (h : isIndent ch = true) :
    isLineEnd ch = false := by
  rcases isIndent_iff.mp h with rfl | rfl <;> decide

/-! ## Pieces of text -/

/-- The character belongs to a piece of text up to `stop`, and to no escape. -/
def Stop.Passes (stop : Stop) (ch : Char) : Prop := stop.endsAt (some ch) = false ∧ ch ≠ '\\'

namespace Cursor.Before

variable {c : Cursor} {cs rest : List Char} {stop : Stop}

theorem readUntilWithin_of_stop (hstop : stop.endsAt c.head? = true) (fuel : Nat) :
    readUntilWithin stop (fuel + 1) c = .ok ([], c) := by
  rw [readUntilWithin, if_pos hstop]
  rfl

theorem readUntilWithin_of_passes {ch : Char} (hhead : c.head? = some ch) (hch : stop.Passes ch)
    (fuel : Nat) : readUntilWithin stop (fuel + 1) c
      = (readUntilWithin stop fuel c.next).map fun (piece, c) => (ch :: piece, c) := by
  rw [readUntilWithin, hhead, hch.1, if_neg Bool.false_ne_true]
  split
  · next heq => cases heq
  · next heq => exact absurd (Option.some.inj heq) hch.2
  · next heq =>
    obtain rfl := Option.some.inj heq
    cases readUntilWithin stop fuel c.next <;> rfl

theorem exists_readUntilWithin (h : c.Before (cs ++ rest)) (hcs : ∀ ch ∈ cs, stop.Passes ch)
    (hstop : stop.endsAt rest.head? = true) {fuel : Nat} (hfuel : cs.length ≤ fuel) :
    ∃ c', readUntilWithin stop (fuel + 1) c = .ok (cs, c') ∧ c'.Before rest := by
  induction cs generalizing c fuel with
  | nil =>
      have hhead : c.head? = rest.head? := h.head?_eq
      exact ⟨c, readUntilWithin_of_stop (hhead ▸ hstop) fuel, h⟩
  | cons ch cs ih =>
      obtain ⟨fuel, rfl⟩ : ∃ less, fuel = less + 1 := Nat.exists_eq_succ_of_ne_zero (by
        rintro rfl
        exact Nat.not_succ_le_zero _ hfuel)
      have hhead : c.head? = some ch := h.head?_eq
      obtain ⟨c', hread, hbefore⟩ :=
        ih h.next (fun ch' hch' => hcs ch' (List.mem_cons_of_mem ch hch'))
          (Nat.le_of_succ_le_succ hfuel)
      refine ⟨c', ?_, hbefore⟩
      rw [readUntilWithin_of_passes hhead (hcs ch List.mem_cons_self), hread]
      rfl

/-- **A piece of text is read up to its stop.** -/
theorem exists_readUntil (h : c.Before (cs ++ rest)) (hcs : ∀ ch ∈ cs, stop.Passes ch)
    (hstop : stop.endsAt rest.head? = true) :
    ∃ c', readUntil stop c = .ok (cs, c') ∧ c'.Before rest := by
  have hfuel : cs.length ≤ c.rest.length := by
    rw [h.rest_eq, List.length_append]
    exact Nat.le_add_right _ _
  exact h.exists_readUntilWithin hcs hstop hfuel

theorem readParts_of_unquoted {ch : Char} (hhead : c.head? = some ch) (hdouble : ch ≠ '"')
    (hsingle : ch ≠ '\'') (fuel : Nat) (first : Bool) : readParts (fuel + 1) first c
      = (readUntil .lineEnd c).map fun (part, c) =>
        (if first then trimChars part else trimEndChars part, c) := by
  rw [readParts, hhead]
  split
  · next heq => cases heq
  · next heq => exact absurd (Option.some.inj heq) hdouble
  · next heq => exact absurd (Option.some.inj heq) hsingle
  · cases readUntil .lineEnd c <;> rfl

/-- **A value without quotes and escapes is what its line holds behind the delimiter**, less the
blanks in front. -/
theorem exists_readValue {mark : Char} {blanks value : List Char}
    (h : c.Before (mark :: (blanks ++ (value ++ rest))))
    (hblanks : ∀ ch ∈ blanks, isIndent ch = true)
    (hvalue : ∀ ch ∈ value, Stop.lineEnd.Passes ch) (htrimmed : trimChars value = value)
    (hfirst : ∃ ch, value.head? = some ch ∧ isBlank ch = false ∧ ch ≠ '"' ∧ ch ≠ '\'')
    (hstop : Stop.lineEnd.endsAt rest.head? = true) :
    ∃ c', readValue c = .ok (value, c') ∧ c'.Before rest := by
  obtain ⟨ch, hhead, hblank, hdouble, hsingle⟩ := hfirst
  obtain ⟨value', rfl⟩ := List.head?_eq_some_iff.mp hhead
  have hstart : (c.next.skipWhile fun ch => isBlank ch && !isLineEnd ch).Before
      (ch :: value' ++ rest) := by
    refine h.next.skipWhile (fun d hd => ?_) fun d hd => ?_
    · rw [isBlank_of_isIndent (hblanks d hd), isLineEnd_eq_false_of_isIndent (hblanks d hd)]
      rfl
    · obtain rfl : ch = d := Option.some.inj hd
      rw [hblank, Bool.false_and]
  obtain ⟨c', hread, hbefore⟩ := hstart.exists_readUntil hvalue hstop
  refine ⟨c', ?_, hbefore⟩
  rw [readValue, readParts_of_unquoted hstart.head?_eq hdouble hsingle, hread]
  show Except.ok (trimChars (ch :: value'), c') = .ok (ch :: value', c')
  rw [htrimmed]

end Cursor.Before

/-! ## Gaps -/

/-- What ends a line: a line feed, or a carriage return and a line feed. -/
inductive LineEnd
  | lf
  | crlf
deriving DecidableEq, Repr

/-- The characters that end a line. -/
def LineEnd.chars : LineEnd → List Char
  | .lf => ['\n']
  | .crlf => ['\r', '\n']

theorem LineEnd.endsAt_head? (mark : LineEnd) (rest : List Char) :
    Stop.lineEnd.endsAt (mark.chars ++ rest).head? = true := by
  cases mark <;> rfl

namespace Cursor.Before

variable {c : Cursor} {ch : Char} {cs rest : List Char}

theorem skipGapWithin_succ (h : c.Before (ch :: rest)) (fuel : Nat) : skipGapWithin (fuel + 1) c
    = if isLineEnd ch = true then
        if (rest.head?.map isIndent).getD false = true then c.next else skipGapWithin fuel c.next
      else if isBlank ch = true then skipGapWithin fuel c.next
      else c := by
  rw [skipGapWithin, h.head?_eq, ← h.next.head?_eq]
  rfl

/-- More fuel than text makes no difference. -/
theorem skipGapWithin_eq (h : c.Before rest) {fuel fuel' : Nat} (hfuel : rest.length < fuel)
    (hfuel' : rest.length < fuel') : skipGapWithin fuel c = skipGapWithin fuel' c := by
  induction rest generalizing c fuel fuel' with
  | nil =>
      obtain ⟨fuel, rfl⟩ := Nat.exists_eq_succ_of_ne_zero (Nat.ne_zero_of_lt hfuel)
      obtain ⟨fuel', rfl⟩ := Nat.exists_eq_succ_of_ne_zero (Nat.ne_zero_of_lt hfuel')
      rw [skipGapWithin, skipGapWithin, h.head?_eq]
      rfl
  | cons ch rest ih =>
      obtain ⟨fuel, rfl⟩ := Nat.exists_eq_succ_of_ne_zero (Nat.ne_zero_of_lt hfuel)
      obtain ⟨fuel', rfl⟩ := Nat.exists_eq_succ_of_ne_zero (Nat.ne_zero_of_lt hfuel')
      have hrest : skipGapWithin fuel c.next = skipGapWithin fuel' c.next :=
        ih h.next (Nat.lt_of_succ_lt_succ hfuel) (Nat.lt_of_succ_lt_succ hfuel')
      rw [h.skipGapWithin_succ, h.skipGapWithin_succ, hrest]

/-- One step into a gap. -/
theorem skipGap_eq (h : c.Before (ch :: rest)) : skipGap c
    = if isLineEnd ch = true then
        if (rest.head?.map isIndent).getD false = true then c.next else skipGap c.next
      else if isBlank ch = true then skipGap c.next
      else c := by
  have hfuel : rest.length < c.rest.length := by
    rw [h.rest_eq, List.length_cons]
    exact Nat.lt_succ_self _
  have hnext : skipGapWithin c.rest.length c.next = skipGap c.next :=
    h.next.skipGapWithin_eq hfuel (by rw [h.next.rest_eq]; exact Nat.lt_succ_self _)
  rw [skipGap, h.skipGapWithin_succ, hnext]

/-- A gap ends at whatever is not blank. -/
theorem skipGap_of_head (h : c.Before rest)
    (hrest : ∀ ch, rest.head? = some ch → isBlank ch = false) : skipGap c = c := by
  cases rest with
  | nil =>
      rw [skipGap, skipGapWithin, h.head?_eq]
      rfl
  | cons ch rest =>
      have hblank : isBlank ch = false := hrest ch rfl
      have hend : isLineEnd ch = false := by
        rw [← Bool.not_eq_true]
        intro hend
        cases hblank.symm.trans (isBlank_of_isLineEnd hend)
      rw [h.skipGap_eq, hend, if_neg Bool.false_ne_true, hblank, if_neg Bool.false_ne_true]

theorem skipGap_of_end (h : c.Before []) : skipGap c = c :=
  h.skipGap_of_head fun _ hnone => nomatch hnone

/-- Where blanks are passed over, a line end is passed over as well. -/
theorem exists_skipWhile_mark {mark : LineEnd} (h : c.Before (mark.chars ++ rest)) :
    ∃ c' : Cursor, c'.Before rest ∧ c'.column ≤ 1
      ∧ c.skipWhile isBlank = c'.skipWhile isBlank := by
  cases mark with
  | lf => exact ⟨c.next, h.next, h.column_next_le, skipWhile_of_pos h rfl⟩
  | crlf =>
      have hfeed : c.next.Before ('\n' :: rest) := h.next
      refine ⟨c.next.next, hfeed.next, hfeed.column_next_le, ?_⟩
      exact (skipWhile_of_pos h rfl).trans (skipWhile_of_pos hfeed rfl)

/-- Indentation in front of a gap belongs to it. -/
theorem exists_skipGap_append (h : c.Before (cs ++ rest)) (hcs : ∀ ch ∈ cs, isIndent ch = true) :
    ∃ c', c'.Before rest ∧ skipGap c = skipGap c' := by
  induction cs generalizing c with
  | nil => exact ⟨c, h, rfl⟩
  | cons ch cs ih =>
      have hch := hcs ch List.mem_cons_self
      obtain ⟨c', hbefore, hskip⟩ := ih h.next fun d hd => hcs d (List.mem_cons_of_mem ch hd)
      refine ⟨c', hbefore, ?_⟩
      rw [h.skipGap_eq, isLineEnd_eq_false_of_isIndent hch, if_neg Bool.false_ne_true,
        isBlank_of_isIndent hch, if_pos rfl, hskip]

/-- **Past a line end, a gap reaches the start of the next line**, and goes on from there unless
that line is indented. -/
theorem exists_skipGap {mark : LineEnd} (h : c.Before (mark.chars ++ rest)) :
    ∃ c', c'.Before rest ∧ c'.column ≤ 1
      ∧ skipGap c = if (rest.head?.map isIndent).getD false = true then c' else skipGap c' := by
  cases mark with
  | lf => exact ⟨c.next, h.next, h.column_next_le, h.skipGap_eq⟩
  | crlf =>
      have hfeed : c.next.Before ('\n' :: rest) := h.next
      refine ⟨c.next.next, hfeed.next, hfeed.column_next_le, ?_⟩
      exact h.skipGap_eq.trans hfeed.skipGap_eq

/-! ## Comments -/

/-- What a comment passes over. -/
theorem bne_lineFeed_of_mem (hcs : '\n' ∉ cs) (hch : ch ∈ cs) : (ch != '\n') = true := by
  rw [bne_iff_ne]
  rintro rfl
  exact hcs hch

/-- A comment on the last line ends with the file. -/
theorem skipComment_of_end (h : c.Before cs) (hcs : '\n' ∉ cs) : (skipComment c).Before [] := by
  rw [← List.append_nil cs] at h
  have hend := h.skipWhile (fun _ hch => bne_lineFeed_of_mem hcs hch) fun _ hnone => nomatch hnone
  rw [skipComment, hend.head?_eq]
  exact hend

/-- **Past a comment is the start of the next line.** -/
theorem skipComment_of_mark {mark : LineEnd} (h : c.Before (cs ++ (mark.chars ++ rest)))
    (hcs : '\n' ∉ cs) : (skipComment c).Before rest ∧ (skipComment c).column ≤ 1 := by
  have hsplit : ∃ before, cs ++ (mark.chars ++ rest) = before ++ '\n' :: rest ∧ '\n' ∉ before := by
    cases mark with
    | lf => exact ⟨cs, rfl, hcs⟩
    | crlf =>
        refine ⟨cs ++ ['\r'], by simp [LineEnd.chars], ?_⟩
        simp [hcs]
  obtain ⟨before, heq, hbefore⟩ := hsplit
  rw [heq] at h
  have hend := h.skipWhile (fun ch hch => bne_lineFeed_of_mem hbefore hch) fun ch hch => by
    obtain rfl := Option.some.inj hch
    rfl
  rw [skipComment, hend.head?_eq]
  exact ⟨hend.next, hend.column_next_le⟩

end Cursor.Before

end HostAgent.Ini
