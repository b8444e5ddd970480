import HostAgent.Json.Skip
import Mathlib.Data.List.Forall2
import Mathlib.Data.List.TakeWhile

set_option autoImplicit false

/-! # JSON texts as they are written

A text can be written in many ways: each of its characters stands for itself or takes an escape,
and an escape is short, or four hexadecimal digits, or for a character beyond sixteen bits two times
four. Reading undoes all of this (`readTextBody_of_spelled`). A text that is passed over may also
hold halves of characters (`skipTextBody_of_quoted`).

Blanks may stand between any two tokens. Where a token ends is told by what comes behind it, if not
by the token itself, so what comes behind a value is restricted to what may stand there (`Follow`).
-/

namespace HostAgent.Json

universe u v

/-- A step that succeeds hands on what it found. -/
theorem ok_bind {α β : Type} (a : α) (f : α → Except Fault β) :
    (Except.ok a >>= f) = f a := rfl

theorem exists_of_mem_forall₂ {α : Type u} {β : Type v} {R : α → β → Prop} {as : List α}
    {bs : List β} (h : List.Forall₂ R as bs) : ∀ b ∈ bs, ∃ a ∈ as, R a b := by
  induction h with
  | nil => exact nofun
  | cons hab _ ih =>
      refine List.forall_mem_cons.mpr ⟨⟨_, List.mem_cons_self, hab⟩, fun b hb => ?_⟩
      obtain ⟨a, ha, hab⟩ := ih b hb
      exact ⟨a, List.mem_cons_of_mem _ ha, hab⟩

/-! ## Blanks and marks -/

/-- A run of the blanks that may stand between tokens. -/
def Blanks (cs : List Char) : Prop := ∀ c ∈ cs, c = ' ' ∨ c = '\n' ∨ c = '\t' ∨ c = '\r'

/-- The characters that may come behind a value, none of which a value begins with. -/
def marks : List Char := [' ', '\n', '\t', '\r', ',', ']', '\x7d']

/-- What may come behind a value. -/
inductive Follow : List Char → Prop
  | nil : Follow []
  | cons {c : Char} {rest : List Char} (h : c ∈ marks) : Follow (c :: rest)

/-- What a value may begin with. -/
inductive Starts : List Char → Prop
  | cons {c : Char} {rest : List Char} (h : c ∉ marks) : Starts (c :: rest)

theorem Blanks.nil : Blanks [] := nofun

theorem isSpace_iff (c : Char) :
    isSpace c = true ↔ c = ' ' ∨ c = '\n' ∨ c = '\t' ∨ c = '\r' := by
  simp only [isSpace, Bool.or_eq_true, decide_eq_true_eq, or_assoc]

theorem skipSpace_append {front : List Char} (h : Blanks front) (cs : List Char) :
    skipSpace (front ++ cs) = skipSpace cs :=
  List.dropWhile_append_of_pos fun c hc => (isSpace_iff c).mpr (h c hc)

theorem skipSpace_cons {c : Char} (h : isSpace c = false) (rest : List Char) :
    skipSpace (c :: rest) = c :: rest :=
  List.dropWhile_cons_of_neg (by rw [h]; exact Bool.false_ne_true)

theorem isSpace_eq_false_of_not_mem {c : Char} (h : c ∉ marks) : isSpace c = false := by
  rw [← Bool.not_eq_true, isSpace_iff]
  rintro (rfl | rfl | rfl | rfl) <;> exact h (by decide)

/-- Reading goes on at the first character of a value. -/
theorem Starts.skipSpace_eq {v : List Char} (h : Starts v) (rest : List Char) :
    skipSpace (v ++ rest) = v ++ rest := by
  obtain ⟨hc⟩ := h
  exact skipSpace_cons (isSpace_eq_false_of_not_mem hc) _

theorem Starts.append {v : List Char} (h : Starts v) (rest : List Char) : Starts (v ++ rest) := by
  obtain ⟨hc⟩ := h
  exact .cons hc

/-- Blanks may come before what may come behind a value. -/
theorem Follow.append {back cs : List Char} (hback : Blanks back) (h : Follow cs) :
    Follow (back ++ cs) := by
  cases back with
  | nil => exact h
  | cons c back =>
      refine .cons ?_
      rcases hback c List.mem_cons_self with rfl | rfl | rfl | rfl <;> decide

/-! ## Escapes -/

/-- `c` is the hexadecimal digit of value `n`, in either case. -/
def IsHexDigit (c : Char) (n : Nat) : Prop :=
  n < 16 ∧ (c = Nat.digitChar n ∨ c = (Nat.digitChar n).toUpper)

/-- Four hexadecimal digits and their value. -/
inductive HexQuad : List Char → Nat → Prop
  | mk {a b c d : Char} {k l m n : Nat} (ha : IsHexDigit a k) (hb : IsHexDigit b l)
      (hc : IsHexDigit c m) (hd : IsHexDigit d n) :
      HexQuad [a, b, c, d] (((k * 16 + l) * 16 + m) * 16 + n)

/-- The letters of the short escapes and the characters that they stand for. -/
def shortEscapes : List (Char × Char) :=
  [('"', '"'), ('\\', '\\'), ('/', '/'), ('b', '\x08'), ('f', '\x0c'), ('n', '\n'), ('r', '\r'),
    ('t', '\t')]

theorem digit?_of_isHexDigit {c : Char} {n : Nat} (h : IsHexDigit c n) :
    Hexadecimal.digit? c = some n := by
  have hall : ∀ k : Fin 16, Hexadecimal.digit? (Nat.digitChar k) = some k.val
      ∧ Hexadecimal.digit? (Nat.digitChar k).toUpper = some k.val := by decide
  obtain ⟨hn, rfl | rfl⟩ := h
  · exact (hall ⟨n, hn⟩).1
  · exact (hall ⟨n, hn⟩).2

theorem readHex_of_quad {digits : List Char} {n : Nat} (h : HexQuad digits n) (rest : List Char) :
    readHex (digits ++ rest) = .ok (n, rest) := by
  obtain ⟨ha, hb, hc, hd⟩ := h
  simp only [List.cons_append, List.nil_append, readHex, Hexadecimal.value?, List.foldlM,
    digit?_of_isHexDigit ha, digit?_of_isHexDigit hb, digit?_of_isHexDigit hc,
    digit?_of_isHexDigit hd]
  simp

theorem shortEscape?_of_mem {e c : Char} (h : (e, c) ∈ shortEscapes) :
    shortEscape? e = some c ∧ e ≠ 'u' := by
  have hall : ∀ m ∈ shortEscapes, shortEscape? m.1 = some m.2 ∧ m.1 ≠ 'u' := by decide
  exact hall (e, c) h

/-! ## Texts -/

/-- A character that may stand for itself in a text. -/
def IsPlain (c : Char) : Prop := ' ' ≤ c ∧ c ≠ '"' ∧ c ≠ '\\'

instance (c : Char) : Decidable (IsPlain c) := instDecidableAnd

/-- The ways in which a character is written in a text. -/
inductive SpellsChar (c : Char) : List Char → Prop
  | itself (h : IsPlain c) : SpellsChar c [c]
  | short {e : Char} (h : (e, c) ∈ shortEscapes) : SpellsChar c ['\\', e]
  | unit {digits : List Char} (h : HexQuad digits c.toNat) : SpellsChar c ('\\' :: 'u' :: digits)
  | pair {high low : List Char} {p q : Nat} (hq : q < 0x400)
      (hcode : c.toNat = 0x10000 + p * 0x400 + q) (hhigh : HexQuad high (0xD800 + p))
      (hlow : HexQuad low (0xDC00 + q)) :
      SpellsChar c ('\\' :: 'u' :: (high ++ '\\' :: 'u' :: low))

/-- The ways in which a text is written. -/
def SpellsText (s : String) (t : List Char) : Prop :=
  ∃ parts, List.Forall₂ SpellsChar s.toList parts ∧ t = '"' :: (parts.flatten ++ ['"'])

/-- What a text that need not stand for anything consists of. -/
inductive QuotedPart : List Char → Prop
  | itself {c : Char} (h : IsPlain c) : QuotedPart [c]
  | short {e c : Char} (h : (e, c) ∈ shortEscapes) : QuotedPart ['\\', e]
  | unit {digits : List Char} {n : Nat} (h : HexQuad digits n) :
      QuotedPart ('\\' :: 'u' :: digits)

/-- A text that is well formed. -/
def QuotedText (t : List Char) : Prop :=
  ∃ parts : List (List Char), (∀ part ∈ parts, QuotedPart part)
    ∧ t = '"' :: (parts.flatten ++ ['"'])

/-- All characters of a text may stand for themselves. -/
def isPlainText (s : String) : Bool := s.toList.all fun c => IsPlain c

theorem spellsText_of_plain {s : String} (h : isPlainText s = true) :
    SpellsText s ('"' :: (s.toList ++ ['"'])) := by
  refine ⟨s.toList.map fun c => [c], List.forall₂_map_right_iff.mpr ?_, ?_⟩
  · exact List.forall₂_same.mpr fun c hc =>
      .itself (of_decide_eq_true (List.all_eq_true.mp h c hc))
  · rw [← List.flatMap_def, List.flatMap_singleton']

theorem SpellsText.starts {s : String} {t : List Char} (h : SpellsText s t) : Starts t := by
  obtain ⟨parts, -, rfl⟩ := h
  exact .cons (by decide)

theorem QuotedText.starts {t : List Char} (h : QuotedText t) : Starts t := by
  obtain ⟨parts, -, rfl⟩ := h
  exact .cons (by decide)

theorem toNat_bounds (c : Char) :
    c.toNat < 0x110000 ∧ ¬(0xD800 ≤ c.toNat ∧ c.toNat ≤ 0xDFFF) := by
  have hvalid := c.valid
  simp only [UInt32.isValidChar, Nat.isValidChar] at hvalid
  have hval : c.val.toNat = c.toNat := rfl
  omega

theorem readEscape_short {e c : Char} (h : (e, c) ∈ shortEscapes) (rest : List Char) :
    readEscape (e :: rest) = .ok (c, rest) := by
  obtain ⟨hshort, hne⟩ := shortEscape?_of_mem h
  rw [readEscape, hshort]
  exact hne

theorem readEscape_unit {digits : List Char} {c : Char} (h : HexQuad digits c.toNat)
    (rest : List Char) : readEscape ('u' :: (digits ++ rest)) = .ok (c, rest) := by
  obtain ⟨-, hhalf⟩ := toNat_bounds c
  simp only [readEscape, readHex_of_quad h, ok_bind]
  rw [if_neg (by omega), if_neg (by omega), Char.ofNat_toNat]
  rfl

/-- The two halves of a character beyond sixteen bits are put together. -/
theorem readEscape_pair {high low : List Char} {c : Char} {p q : Nat} (hq : q < 0x400)
    (hcode : c.toNat = 0x10000 + p * 0x400 + q) (hhigh : HexQuad high (0xD800 + p))
    (hlow : HexQuad low (0xDC00 + q)) (rest : List Char) :
    readEscape ('u' :: (high ++ '\\' :: 'u' :: (low ++ rest))) = .ok (c, rest) := by
  obtain ⟨hbound, -⟩ := toNat_bounds c
  have hchar : (0xD800 + p - 0xD800) * 0x400 + (0xDC00 + q - 0xDC00) + 0x10000 = c.toNat := by
    omega
  -- the first half is not a second one, so it asks for one
  simp only [readEscape, readHex_of_quad hhigh, ok_bind]
  rw [if_neg (by omega), if_pos (by omega)]
  simp only [readLowHalf, readHex_of_quad hlow, ok_bind]
  rw [if_pos (by omega), hchar, Char.ofNat_toNat]
  rfl

/-- A character that may stand for itself is no control, and in a text of characters it is no
mark. -/
theorem isControl_of_isPlain {c : Char} (h : IsPlain c) : isControl c = false := by
  rw [isControl, decide_eq_false (Char.not_lt.mpr h.1), Bool.false_and]

theorem readTextWithin_escape (fuel : Nat) {c : Char} {t cs : List Char}
    (h : readEscape t = .ok (c, cs)) :
    readTextWithin (fuel + 1) ('\\' :: t) = do
      let (text, rest) ← readTextWithin fuel cs
      return (c :: text, rest) := by
  simp only [readTextWithin, h, ok_bind]

theorem readTextWithin_plain (fuel : Nat) {c : Char} (h : IsPlain c) (cs : List Char) :
    readTextWithin (fuel + 1) (c :: cs) = do
      let (text, rest) ← readTextWithin fuel cs
      return (c :: text, rest) := by
  have hcontrol := isControl_of_isPlain h
  obtain ⟨-, hquote, hslash⟩ := h
  rw [readTextWithin, if_neg (by rw [hcontrol]; exact Bool.false_ne_true)]
  · rfl
  · exact fun h => absurd h hquote
  · exact hslash

theorem readTextWithin_spelled (fuel : Nat) {c : Char} {t : List Char} (h : SpellsChar c t)
    (cs : List Char) :
    readTextWithin (fuel + 1) (t ++ cs) = do
      let (text, rest) ← readTextWithin fuel cs
      return (c :: text, rest) := by
  cases h with
  | itself h => exact readTextWithin_plain fuel h cs
  | short h => exact readTextWithin_escape fuel (readEscape_short h cs)
  | unit h => exact readTextWithin_escape fuel (readEscape_unit h cs)
  | pair hq hcode hhigh hlow =>
      have hread := readEscape_pair hq hcode hhigh hlow cs
      rw [List.cons_append, List.cons_append, List.append_assoc]
      exact readTextWithin_escape fuel hread

theorem readTextWithin_of_spelled {cs : List Char} {parts : List (List Char)}
    (h : List.Forall₂ SpellsChar cs parts) (fuel : Nat) (rest : List Char) :
    readTextWithin (cs.length + 1 + fuel) (parts.flatten ++ '"' :: rest) = .ok (cs, rest) := by
  induction h with
  | nil =>
      rw [List.length_nil, Nat.zero_add, Nat.add_comm]
      rfl
  | cons hc _ ih =>
      rw [List.length_cons, Nat.add_right_comm _ 1 1, Nat.add_right_comm _ 1 fuel,
        List.flatten_cons, List.append_assoc, readTextWithin_spelled _ hc, ih]
      rfl

theorem length_le_length_flatten {parts : List (List Char)} (h : ∀ part ∈ parts, part ≠ []) :
    parts.length ≤ parts.flatten.length := by
  induction parts with
  | nil => exact Nat.le_refl 0
  | cons part parts ih =>
      have hpart := List.length_pos_of_ne_nil (h part List.mem_cons_self)
      have hparts := ih fun other hother => h other (List.mem_cons_of_mem part hother)
      rw [List.flatten_cons, List.length_append, List.length_cons]
      omega

theorem SpellsChar.ne_nil {c : Char} {t : List Char} (h : SpellsChar c t) : t ≠ [] := by
  cases h <;> exact List.cons_ne_nil _ _

theorem QuotedPart.ne_nil {t : List Char} (h : QuotedPart t) : t ≠ [] := by
  cases h <;> exact List.cons_ne_nil _ _

/-- **A text is read back, however its characters are written.** -/
theorem readTextBody_of_spelled {cs : List Char} {parts : List (List Char)}
    (h : List.Forall₂ SpellsChar cs parts) (rest : List Char) :
    readTextBody (parts.flatten ++ '"' :: rest) = .ok (cs, rest) := by
  have hne : ∀ part ∈ parts, part ≠ [] := by
    intro part hpart
    obtain ⟨c, -, hc⟩ := exists_of_mem_forall₂ h part hpart
    exact hc.ne_nil
  have hlength := length_le_length_flatten hne
  have hfuel : cs.length + 1 ≤ (parts.flatten ++ '"' :: rest).length := by
    rw [h.length_eq, List.length_append, List.length_cons]
    omega
  obtain ⟨fuel, hfuel⟩ := Nat.exists_eq_add_of_le hfuel
  rw [readTextBody, hfuel, readTextWithin_of_spelled h]

/-! ## Texts that are passed over -/

theorem skipTextWithin_part (fuel : Nat) {part : List Char} (h : QuotedPart part)
    (cs : List Char) : skipTextWithin (fuel + 1) (part ++ cs) = skipTextWithin fuel cs := by
  cases h with
  | itself h =>
      have hcontrol := isControl_of_isPlain h
      obtain ⟨-, hquote, hslash⟩ := h
      rw [List.singleton_append, skipTextWithin,
        if_neg (by rw [hcontrol]; exact Bool.false_ne_true)]
      · exact fun h => absurd h hquote
      · exact hslash
  | @short e c h =>
      obtain ⟨hshort, hne⟩ := shortEscape?_of_mem h
      have hskip : skipEscape (e :: cs) = .ok cs := by
        rw [skipEscape, hshort]
        exact hne
      rw [List.cons_append, List.singleton_append, skipTextWithin, hskip]
      rfl
  | @unit digits n h =>
      have hskip : skipEscape ('u' :: (digits ++ cs)) = .ok cs := by
        rw [skipEscape, readHex_of_quad h]
        rfl
      rw [List.cons_append, List.cons_append, skipTextWithin, hskip]
      rfl

theorem skipTextWithin_of_parts {parts : List (List Char)} (h : ∀ part ∈ parts, QuotedPart part)
    (fuel : Nat) (rest : List Char) :
    skipTextWithin (parts.length + 1 + fuel) (parts.flatten ++ '"' :: rest) = .ok rest := by
  induction parts with
  | nil =>
      rw [List.length_nil, Nat.zero_add, Nat.add_comm]
      rfl
  | cons part parts ih =>
      obtain ⟨hpart, hparts⟩ := List.forall_mem_cons.mp h
      rw [List.length_cons, Nat.add_right_comm _ 1 1, Nat.add_right_comm _ 1 fuel,
        List.flatten_cons, List.append_assoc, skipTextWithin_part _ hpart, ih hparts]

/-- **A text that is well formed is passed over.** -/
theorem skipTextBody_of_quoted {parts : List (List Char)} (h : ∀ part ∈ parts, QuotedPart part)
    (rest : List Char) : skipTextBody (parts.flatten ++ '"' :: rest) = .ok rest := by
  have hlength := length_le_length_flatten fun part hpart => (h part hpart).ne_nil
  have hfuel : parts.length + 1 ≤ (parts.flatten ++ '"' :: rest).length := by
    rw [List.length_append, List.length_cons]
    omega
  obtain ⟨fuel, hfuel⟩ := Nat.exists_eq_add_of_le hfuel
  rw [skipTextBody, hfuel, skipTextWithin_of_parts h]

end HostAgent.Json
