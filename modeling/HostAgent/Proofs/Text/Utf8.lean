import HostAgent.Text.Utf8
import Mathlib.Data.List.Basic

set_option autoImplicit false

/-! # Texts and their bytes

The bytes of a text are read back as that text, both strictly and with replacements
(`Utf8.decode?_encode`, `Utf8.decodeLossy_encode`). A character takes one to four bytes. Its lead
byte tells how many follow and within which bounds the next one lies, so the four forms are read
back one by one, and a list of characters by induction.
-/

namespace HostAgent.Utf8

/-! ## Bytes of a form -/

theorem toNat_ofNat {n : Nat} (h : n < 256) : (UInt8.ofNat n).toNat = n :=
  UInt8.toNat_ofNat_of_lt h

/-- A byte within the bounds carries its six bits. -/
theorem continuation_cons {more code low high n : Nat} {rest : List UInt8} (hn : n < 256)
    (hlow : low ≤ n) (hhigh : n ≤ high) :
    continuation (more + 1) code low high (UInt8.ofNat n :: rest)
      = ((continuation more (code * 64 + n % 64) 0x80 0xBF rest).1,
        (continuation more (code * 64 + n % 64) 0x80 0xBF rest).2 + 1) := by
  have hc : continues (UInt8.ofNat n) low high = true := by
    rw [continues, toNat_ofNat hn, Bool.and_eq_true, decide_eq_true_eq, decide_eq_true_eq]
    exact ⟨hlow, hhigh⟩
  rw [continuation, if_pos hc, payload, toNat_ofNat hn]

/-- After the first continuation byte only its six bits matter. -/
theorem continuation_continued {more code n : Nat} {rest : List UInt8} (hlow : 0x80 ≤ n)
    (hhigh : n ≤ 0xBF) :
    continuation (more + 1) code 0x80 0xBF (UInt8.ofNat n :: rest)
      = ((continuation more (code * 64 + n % 64) 0x80 0xBF rest).1,
        (continuation more (code * 64 + n % 64) 0x80 0xBF rest).2 + 1) :=
  continuation_cons (by omega) hlow hhigh

theorem continuation_zero (code low high : Nat) (bytes : List UInt8) :
    continuation 0 code low high bytes = (some code, 0) := rfl

/-- The lead byte of a form of one byte. -/
theorem leadByte_one {n : Nat} (h : n < 0x80) :
    leadByte (UInt8.ofNat n) = some (0, n, 0x80, 0xBF) := by
  rw [leadByte, toNat_ofNat (by omega)]
  simp only [if_pos h]

/-- The lead byte of a form of two bytes. -/
theorem leadByte_two {n : Nat} (hlow : 0xC2 ≤ n) (hhigh : n < 0xE0) :
    leadByte (UInt8.ofNat n) = some (1, n - 0xC0, 0x80, 0xBF) := by
  rw [leadByte, toNat_ofNat (by omega)]
  simp only [if_neg (show ¬n < 0x80 by omega), if_neg (show ¬n < 0xC2 by omega), if_pos hhigh]

/-- The lead byte of a form of three bytes. The first lead byte of them keeps out shorter forms, and
another one the surrogates. -/
theorem leadByte_three {n m : Nat} (hlow : 0xE0 ≤ n) (hhigh : n < 0xF0) (hm : 0x80 ≤ m)
    (hm' : m ≤ 0xBF) (hfirst : n = 0xE0 → 0xA0 ≤ m) (hsurrogate : n = 0xED → m ≤ 0x9F) :
    ∃ low high, leadByte (UInt8.ofNat n) = some (2, n - 0xE0, low, high) ∧ low ≤ m ∧ m ≤ high := by
  rw [leadByte, toNat_ofNat (by omega)]
  simp only [if_neg (show ¬n < 0x80 by omega), if_neg (show ¬n < 0xC2 by omega),
    if_neg (show ¬n < 0xE0 by omega), beq_iff_eq]
  by_cases hE0 : n = 0xE0
  · subst hE0
    exact ⟨0xA0, 0xBF, rfl, hfirst rfl, hm'⟩
  · by_cases hED : n = 0xED
    · subst hED
      exact ⟨0x80, 0x9F, rfl, hm, hsurrogate rfl⟩
    · rw [if_neg hE0, if_neg hED, if_pos hhigh]
      exact ⟨0x80, 0xBF, rfl, hm, hm'⟩

/-- The lead byte of a form of four bytes. The first lead byte of them keeps out shorter forms, and
the last one what lies beyond the last character. -/
theorem leadByte_four {n m : Nat} (hlow : 0xF0 ≤ n) (hhigh : n ≤ 0xF4) (hm : 0x80 ≤ m)
    (hm' : m ≤ 0xBF) (hfirst : n = 0xF0 → 0x90 ≤ m) (hlast : n = 0xF4 → m ≤ 0x8F) :
    ∃ low high, leadByte (UInt8.ofNat n) = some (3, n - 0xF0, low, high) ∧ low ≤ m ∧ m ≤ high := by
  rw [leadByte, toNat_ofNat (by omega)]
  simp only [if_neg (show ¬n < 0x80 by omega), if_neg (show ¬n < 0xC2 by omega),
    if_neg (show ¬n < 0xE0 by omega), if_neg (show ¬n < 0xF0 by omega), beq_iff_eq,
    if_neg (show ¬n = 0xE0 by omega), if_neg (show ¬n = 0xED by omega)]
  by_cases hF0 : n = 0xF0
  · subst hF0
    exact ⟨0x90, 0xBF, rfl, hfirst rfl, hm'⟩
  · by_cases hF4 : n = 0xF4
    · subst hF4
      exact ⟨0x80, 0x8F, rfl, hm, hlast rfl⟩
    · rw [if_neg hF0, if_pos (show n < 0xF4 by omega)]
      exact ⟨0x80, 0xBF, rfl, hm, hm'⟩

/-! ## Characters -/

/-- A character is no surrogate, and lies within the range of characters. -/
theorem isValidChar_toNat (c : Char) : c.toNat < 0xD800 ∨ (0xDFFF < c.toNat ∧ c.toNat < 0x110000) :=
  c.valid

/-- **The bytes of a character are read as that character.** -/
theorem nextChar_encodeChar (c : Char) (rest : List UInt8) :
    ∃ lead tail, String.utf8EncodeChar c = lead :: tail
      ∧ nextChar lead (tail ++ rest) = (some c, tail.length) := by
  have hvalid := isValidChar_toNat c
  have hback : Char.ofNat c.toNat = c := Char.ofNat_toNat c
  have hform : String.utf8EncodeChar c = _ := String.utf8EncodeChar.eq_1 c
  rw [show c.val.toNat = c.toNat from rfl] at hform
  generalize c.toNat = v at hvalid hback hform
  by_cases h₁ : v ≤ 0x7F
  · rw [if_pos h₁] at hform
    refine ⟨_, _, hform, ?_⟩
    rw [nextChar, leadByte_one (by omega)]
    simp only [continuation_zero, hback, List.length_nil]
  · rw [if_neg h₁] at hform
    by_cases h₂ : v ≤ 0x7FF
    · rw [if_pos h₂] at hform
      refine ⟨_, _, hform, ?_⟩
      have hcode : (v / 64 % 32 + 192 - 0xC0) * 64 + (v % 64 + 128) % 64 = v := by omega
      rw [nextChar, leadByte_two (by omega) (by omega)]
      simp only [List.cons_append, List.nil_append]
      rw [continuation_continued (by omega) (by omega), continuation_zero, hcode]
      simp only [hback, List.length_cons, List.length_nil]
    · rw [if_neg h₂] at hform
      by_cases h₃ : v ≤ 0xFFFF
      · rw [if_pos h₃] at hform
        refine ⟨_, _, hform, ?_⟩
        obtain ⟨low, high, hlead, hlow, hhigh⟩ := @leadByte_three (v / 4096 % 16 + 224)
          (v / 64 % 64 + 128) (by omega) (by omega) (by omega) (by omega) (by omega) (by omega)
        have hcode : ((v / 4096 % 16 + 224 - 0xE0) * 64 + (v / 64 % 64 + 128) % 64) * 64
            + (v % 64 + 128) % 64 = v := by omega
        rw [nextChar, hlead]
        simp only [List.cons_append, List.nil_append]
        rw [continuation_cons (by omega) hlow hhigh, continuation_continued (by omega) (by omega),
          continuation_zero, hcode]
        simp only [hback, List.length_cons, List.length_nil]
      · rw [if_neg h₃] at hform
        refine ⟨_, _, hform, ?_⟩
        obtain ⟨low, high, hlead, hlow, hhigh⟩ := @leadByte_four (v / 262144 % 8 + 240)
          (v / 4096 % 64 + 128) (by omega) (by omega) (by omega) (by omega) (by omega) (by omega)
        have hcode : (((v / 262144 % 8 + 240 - 0xF0) * 64 + (v / 4096 % 64 + 128) % 64) * 64
            + (v / 64 % 64 + 128) % 64) * 64 + (v % 64 + 128) % 64 = v := by omega
        rw [nextChar, hlead]
        simp only [List.cons_append, List.nil_append]
        rw [continuation_cons (by omega) hlow hhigh, continuation_continued (by omega) (by omega),
          continuation_continued (by omega) (by omega), continuation_zero, hcode]
        simp only [hback, List.length_cons, List.length_nil]

/-! ## Texts -/

/-- Bytes that belong to a character already read are passed over. -/
theorem readChars_length_append (bytes rest : List UInt8) :
    readChars bytes.length (bytes ++ rest) = readChars 0 rest := by
  induction bytes with
  | nil => rfl
  | cons b bytes ih => exact ih

theorem readChars_encodeChars (cs : List Char) : readChars 0 (encodeChars cs) = cs.map some := by
  induction cs with
  | nil => rfl
  | cons c cs ih =>
      obtain ⟨lead, tail, hform, hnext⟩ := nextChar_encodeChar c (encodeChars cs)
      have hbytes : encodeChars (c :: cs) = lead :: (tail ++ encodeChars cs) := by
        rw [encodeChars, List.flatMap_cons, hform, List.cons_append]
        rfl
      rw [hbytes, readChars, hnext]
      show some c :: readChars tail.length (tail ++ encodeChars cs) = _
      rw [readChars_length_append, ih, List.map_cons]

/-- **The bytes of a text are read back as that text.** -/
theorem decode?_encode (s : String) : decode? (encode s) = some s := by
  have hall : (s.toList.map some).mapM id = some s.toList := by
    induction s.toList with
    | nil => rfl
    | cons c cs ih => rw [List.map_cons, List.mapM_cons, ih]; rfl
  rw [decode?, encode, readChars_encodeChars, hall]
  exact congrArg some (String.ofList_toList (s := s))

theorem decodeLossy_encode (s : String) : decodeLossy (encode s) = s := by
  rw [decodeLossy, encode, readChars_encodeChars, List.map_map]
  exact (congrArg String.ofList (List.map_id s.toList)).trans String.ofList_toList

end HostAgent.Utf8
