import HostAgent.Proofs.Text.Blank
import HostAgent.Proofs.Text.Utf8
import HostAgent.Url.Basic

set_option autoImplicit false

/-! # Parameters are read back

Parameters added to a query are read back from it as they were, behind those that the query had
already (`Form.parameters_foldl_append`), whatever their names and values are.

The name and the value of a parameter are written byte by byte, in characters other than the two
that keep parameters apart. So the two marks of a pair are found where they were put, and each byte
is read back by itself; the rest is `Utf8.decodeLossy_encode`.
-/

namespace HostAgent

/-! ## Percent forms -/

namespace Percent

theorem encodeChars_cons {c : Char} (h : c.toNat < 0x80) (cs : List Char) :
    Utf8.encodeChars (c :: cs) = UInt8.ofNat c.toNat :: Utf8.encodeChars cs := by
  have hc : String.utf8EncodeChar c = [UInt8.ofNat c.toNat] := by
    rw [String.utf8EncodeChar.eq_1, if_pos (show c.val.toNat ≤ 0x7F from Nat.le_of_lt_succ h)]
    rfl
  rw [Utf8.encodeChars, List.flatMap_cons, hc]
  rfl

theorem charOf_ofNat {c : Char} (h : c.toNat < 0x80) : charOf (UInt8.ofNat c.toNat) = c := by
  rw [charOf, Utf8.toNat_ofNat (by omega), Char.ofNat_toNat]

theorem toNat_charOf {b : UInt8} (h : b.toNat < 0x80) : (charOf b).toNat = b.toNat := by
  have hvalid : b.toNat.isValidChar := Or.inl (by omega)
  rw [charOf, Char.ofNat, dif_pos hvalid]
  rfl

/-- A byte that does not begin a percent form is read as it is. -/
theorem decodeBytes_cons {b : UInt8} (h : b ≠ 0x25) (bytes : List UInt8) :
    decodeBytes (b :: bytes) = b :: decodeBytes bytes := by
  match bytes with
  | [] => rfl
  | [_] => rfl
  | high :: low :: bytes =>
    rw [decodeBytes, beq_false_of_ne h]

/-- The digits are ASCII characters, and they are read back. -/
theorem digit_spec : ∀ n : Fin 16,
    (digit n).toNat < 0x80 ∧ Hexadecimal.digit? (digit n) = some n.val
    ∧ digit n ≠ '+' ∧ digit n ≠ '&' ∧ digit n ≠ '=' := by
  decide

/-- A byte in percent form is read back. -/
theorem decode_byte (b : UInt8) (cs : List Char) : decode (byte b ++ cs) = b :: decode cs := by
  have hb : b.toNat < 256 := b.toNat_lt
  obtain ⟨hhigh, hhigh', -⟩ := digit_spec ⟨b.toNat / 16, by omega⟩
  obtain ⟨hlow, hlow', -⟩ := digit_spec ⟨b.toNat % 16, by omega⟩
  have hbyte : UInt8.ofNat (b.toNat / 16 * 16 + b.toNat % 16) = b := by
    rw [Nat.div_add_mod' b.toNat 16]
    exact UInt8.ofNat_toNat
  rw [decode, byte, List.cons_append, List.cons_append, List.cons_append, List.nil_append,
    encodeChars_cons (by decide), encodeChars_cons hhigh, encodeChars_cons hlow, decodeBytes]
  simp only [charOf_ofNat hhigh, charOf_ofNat hlow, hhigh', hlow']
  exact congrArg (· :: decode cs) hbyte

/-- A character that stands for itself is read as its byte. -/
theorem decode_charOf {b : UInt8} (h : b.toNat < 0x80) (hpercent : charOf b ≠ '%')
    (cs : List Char) :
    decode (charOf b :: cs) = b :: decode cs := by
  have hb : UInt8.ofNat (charOf b).toNat = b := by
    rw [toNat_charOf h]
    exact UInt8.ofNat_toNat
  have hne : b ≠ 0x25 := by
    rintro rfl
    exact hpercent rfl
  rw [decode, encodeChars_cons (by rw [toNat_charOf h]; exact h), hb, decodeBytes_cons hne]
  rfl

end Percent

/-! ## Names and values -/

namespace Form

/-- The bytes that a name or a value stands for. -/
def bytes (cs : List Char) : List UInt8 :=
  Percent.decode (cs.map fun c => if c = '+' then ' ' else c)

/-- What stands for itself in a parameter is none of the marks. -/
theorem ne_of_keeps {c : Char} (h : keeps c = true) : c ≠ '+' ∧ c ≠ '%' ∧ c ≠ '&' ∧ c ≠ '=' := by
  refine ⟨?_, ?_, ?_, ?_⟩ <;> · rintro rfl; exact absurd h (by decide)

/-- Each byte of a name or a value is read back by itself. -/
theorem bytes_encodeByte_append (b : UInt8) (cs : List Char) :
    bytes (encodeByte b ++ cs) = b :: bytes cs := by
  rw [bytes, List.map_append, encodeByte]
  by_cases hspace : b = 0x20
  · subst hspace
    exact Percent.decode_charOf (b := 0x20) (by decide) (by decide) _
  rw [if_neg hspace, Percent.encodeByte]
  by_cases hkept : b.toNat < 0x80 ∧ keeps (Percent.charOf b)
  · obtain ⟨hplus, hpercent, -⟩ := ne_of_keeps hkept.2
    rw [if_pos hkept, List.map_singleton, if_neg hplus]
    exact Percent.decode_charOf hkept.1 hpercent _
  · have hb : b.toNat < 256 := b.toNat_lt
    have hhigh := (Percent.digit_spec ⟨b.toNat / 16, by omega⟩).2.2.1
    have hlow := (Percent.digit_spec ⟨b.toNat % 16, by omega⟩).2.2.1
    have hplain : (Percent.byte b).map (fun c => if c = '+' then ' ' else c) = Percent.byte b := by
      rw [Percent.byte, List.map_cons, List.map_cons, List.map_singleton, if_neg (by decide),
        if_neg hhigh, if_neg hlow]
    rw [if_neg hkept, hplain]
    exact Percent.decode_byte b _

theorem bytes_encode (s : String) : bytes (encode s) = Utf8.encode s := by
  rw [encode]
  induction Utf8.encode s with
  | nil => rfl
  | cons b bs ih => rw [List.flatMap_cons, bytes_encodeByte_append, ih]

/-- **A name or a value is read back as it was.** -/
theorem decode_encode (s : String) : decode (encode s) = s := by
  show Utf8.decodeLossy (bytes (encode s)) = s
  rw [bytes_encode, Utf8.decodeLossy_encode]

/-- No name and no value holds a mark that keeps parameters apart. -/
theorem not_mem_encode (s : String) : '&' ∉ encode s ∧ '=' ∉ encode s := by
  have hbyte : ∀ b : UInt8, ∀ c ∈ encodeByte b, c ≠ '&' ∧ c ≠ '=' := by
    intro b c hc
    rw [encodeByte] at hc
    by_cases hspace : b = 0x20
    · rw [if_pos hspace, List.mem_singleton] at hc
      subst hc
      exact ⟨by decide, by decide⟩
    rw [if_neg hspace, Percent.encodeByte] at hc
    by_cases hkept : b.toNat < 0x80 ∧ keeps (Percent.charOf b)
    · rw [if_pos hkept, List.mem_singleton] at hc
      subst hc
      exact (ne_of_keeps hkept.2).2.2
    · have hb : b.toNat < 256 := b.toNat_lt
      rw [if_neg hkept, Percent.byte, List.mem_cons, List.mem_cons, List.mem_singleton] at hc
      rcases hc with rfl | rfl | rfl
      · exact ⟨by decide, by decide⟩
      · exact (Percent.digit_spec ⟨b.toNat / 16, by omega⟩).2.2.2
      · exact (Percent.digit_spec ⟨b.toNat % 16, by omega⟩).2.2.2
  constructor
  · intro hmem
    obtain ⟨b, -, hb⟩ := List.mem_flatMap.mp hmem
    exact (hbyte b '&' hb).1 rfl
  · intro hmem
    obtain ⟨b, -, hb⟩ := List.mem_flatMap.mp hmem
    exact (hbyte b '=' hb).2 rfl

/-! ## Parameters -/

theorem not_mem_encodePair (pair : String × String) : '&' ∉ encodePair pair := by
  intro hmem
  rw [encodePair, List.mem_append, List.mem_cons] at hmem
  rcases hmem with hmem | hmem | hmem
  · exact (not_mem_encode pair.1).1 hmem
  · exact absurd hmem (by decide)
  · exact (not_mem_encode pair.2).1 hmem

theorem encodePair_ne_nil (pair : String × String) : encodePair pair ≠ [] := by
  rw [encodePair]
  exact List.append_ne_nil_of_right_ne_nil _ (List.cons_ne_nil _ _)

theorem decodePair_encodePair (pair : String × String) : decodePair (encodePair pair) = pair := by
  have hname : ∀ c ∈ encode pair.1, (c != '=') = true := by
    intro c hc
    exact bne_iff_ne.mpr fun h => (not_mem_encode pair.1).2 (h ▸ hc)
  rw [decodePair, encodePair, List.takeWhile_append_of_pos hname,
    List.dropWhile_append_of_pos hname]
  show (decode (encode pair.1 ++ []), decode (encode pair.2)) = pair
  rw [List.append_nil, decode_encode, decode_encode]

theorem parameters_encodePair (pair : String × String) : parameters (encodePair pair) = [pair] := by
  have hkept : [encodePair pair].filter (!·.isEmpty) = [encodePair pair] := by
    refine List.filter_eq_self.mpr fun piece hpiece => ?_
    rw [List.mem_singleton.mp hpiece, List.isEmpty_eq_false_iff.mpr (encodePair_ne_nil pair)]
    rfl
  rw [parameters, splitChars_of_not_mem (not_mem_encodePair pair), hkept, List.map_singleton,
    decodePair_encodePair]

theorem parameters_append (query : List Char) (pair : String × String) :
    parameters (append query pair) = parameters query ++ [pair] := by
  rw [append]
  cases query with
  | nil => exact parameters_encodePair pair
  | cons c query =>
      rw [List.isEmpty_cons, if_neg Bool.false_ne_true, ← parameters_encodePair pair]
      rw [parameters, splitChars_append, List.filter_append, List.map_append]
      rfl

/-- **Parameters added to a query are read back behind those that were there.** -/
theorem parameters_foldl_append (pairs : List (String × String)) (query : List Char) :
    parameters (pairs.foldl append query) = parameters query ++ pairs := by
  induction pairs generalizing query with
  | nil => exact (List.append_nil _).symm
  | cons pair pairs ih =>
      rw [List.foldl_cons, ih, parameters_append, List.append_assoc, List.singleton_append]

end Form

theorem Url.parameters_withParameters (u : Url) (pairs : List (String × String)) :
    (u.withParameters pairs).parameters = u.parameters ++ pairs := by
  rw [Url.withParameters, Url.parameters]
  show Form.parameters (String.ofList _).toList = _
  rw [String.toList_ofList, Form.parameters_foldl_append]
  rfl

end HostAgent
