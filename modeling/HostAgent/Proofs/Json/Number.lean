import HostAgent.Proofs.Json.Text
import HostAgent.Proofs.Text.Reading
import Mathlib.Algebra.Ring.Nat

set_option autoImplicit false

/-! # JSON numbers as they are written

A number has a whole part without needless zeros, and may have a minus before it and a fraction and
an exponent behind it. A whole number of at most 64 bits is read as its value
(`readNumber_of_natural`); any number, however large or long, is passed over
(`skipNumber_of_whole`).

A number has no end of its own. So its readers are followed part by part, each up to the character
that cannot belong to the part.
-/

namespace HostAgent.Json

/-! ## Numbers in parts -/

/-- The digits of a whole number: a zero, or digits that do not begin with one. -/
inductive WholeText : List Char → Prop
  | zero : WholeText ['0']
  | other {d : Char} {digits : List Char} (hd : d.isDigit = true) (hne : d ≠ '0')
      (hdigits : ∀ c ∈ digits, c.isDigit = true) : WholeText (d :: digits)

/-- A point and digits, or nothing. -/
inductive FractionText : List Char → Prop
  | none : FractionText []
  | some {digits : List Char} (hne : digits ≠ []) (hdigits : ∀ c ∈ digits, c.isDigit = true) :
      FractionText ('.' :: digits)

/-- The mark of an exponent, its sign if it has one, and digits; or nothing. -/
inductive ExponentText : List Char → Prop
  | none : ExponentText []
  | some {mark d : Char} {sign digits : List Char} (hmark : mark = 'e' ∨ mark = 'E')
      (hsign : sign = [] ∨ sign = ['+'] ∨ sign = ['-']) (hd : d.isDigit = true)
      (hdigits : ∀ c ∈ digits, c.isDigit = true) :
      ExponentText (mark :: (sign ++ d :: digits))

/-- A number. -/
def NumberText (t : List Char) : Prop :=
  ∃ sign whole fraction exponent, (sign = [] ∨ sign = ['-']) ∧ WholeText whole
    ∧ FractionText fraction ∧ ExponentText exponent ∧ t = sign ++ (whole ++ (fraction ++ exponent))

/-- A whole number of at most 64 bits. -/
def SpellsWord64 (n : Nat) (t : List Char) : Prop :=
  n < 2 ^ 64 ∧ WholeText t ∧ Nat.ofDigitChars 10 t 0 = n

/-! ## Where the parts end -/

theorem isDigit_eq (c : Char) : isDigit c = c.isDigit := rfl

/-- A text that does not begin with a digit. -/
def NoDigit (cs : List Char) : Prop := digitRun cs = []

theorem NoDigit.cons {c : Char} (h : c.isDigit = false) (rest : List Char) : NoDigit (c :: rest) :=
  List.takeWhile_cons_of_neg (by rw [isDigit_eq, h]; exact Bool.false_ne_true)

theorem NoDigit.afterDigits_eq {cs : List Char} (h : NoDigit cs) : afterDigits cs = cs := by
  have happend : digitRun cs ++ afterDigits cs = cs := List.takeWhile_append_dropWhile
  rwa [h, List.nil_append] at happend

theorem digitRun_append {digits cs : List Char} (hdigits : ∀ c ∈ digits, c.isDigit = true)
    (h : NoDigit cs) : digitRun (digits ++ cs) = digits := by
  have happend : digitRun (digits ++ cs) = digits ++ digitRun cs :=
    List.takeWhile_append_of_pos hdigits
  rw [happend, h, List.append_nil]

theorem afterDigits_append {digits cs : List Char} (hdigits : ∀ c ∈ digits, c.isDigit = true)
    (h : NoDigit cs) : afterDigits (digits ++ cs) = cs := by
  have happend : afterDigits (digits ++ cs) = afterDigits cs :=
    List.dropWhile_append_of_pos hdigits
  rw [happend, h.afterDigits_eq]

theorem marks_end_numbers {c : Char} (h : c ∈ marks) :
    c.isDigit = false ∧ c ≠ '.' ∧ isExponentMark c = false := by
  have hall : marks.all fun c => c.isDigit = false ∧ c ≠ '.' ∧ isExponentMark c = false := by
    decide
  exact of_decide_eq_true (List.all_eq_true.mp hall c h)

theorem Follow.noDigit {cs : List Char} (h : Follow cs) : NoDigit cs := by
  cases h with
  | nil => rfl
  | cons hc => exact .cons (marks_end_numbers hc).1 _

theorem isExponentMark_iff (c : Char) : isExponentMark c = true ↔ c = 'e' ∨ c = 'E' := by
  rw [isExponentMark, Bool.or_eq_true, decide_eq_true_eq, decide_eq_true_eq]

theorem ExponentText.noDigit {t rest : List Char} (h : ExponentText t) (hrest : Follow rest) :
    NoDigit (t ++ rest) := by
  cases h with
  | none => exact hrest.noDigit
  | some hmark =>
      refine .cons ?_ _
      rcases hmark with rfl | rfl <;> rfl

theorem FractionText.noDigit {t cs : List Char} (h : FractionText t) (hcs : NoDigit cs) :
    NoDigit (t ++ cs) := by
  cases h with
  | none => exact hcs
  | some => exact .cons rfl _

/-! ## Whole numbers of 64 bits -/

theorem readAfterWhole_of_follow (n : Nat) {rest : List Char} (h : Follow rest) :
    readAfterWhole false n 0 rest = .ok (.natural n, rest) := by
  cases h with
  | nil => rfl
  | @cons c rest hc =>
      obtain ⟨-, hpoint, hmark⟩ := marks_end_numbers hc
      rw [readAfterWhole]
      · simp only [hmark, Bool.false_eq_true, if_false]
        rfl
      · exact fun h => absurd h hpoint

/-- No digit is left out of a number that fits. -/
theorem absorb_of_le {digits : List Char} (hdigits : ∀ c ∈ digits, c.isDigit = true) {value : Nat}
    (h : Nat.ofDigitChars 10 digits value ≤ Decimal.max64) :
    absorb value digits = (Nat.ofDigitChars 10 digits value, 0) := by
  induction digits generalizing value with
  | nil => rfl
  | cons c digits ih =>
      obtain ⟨-, hrest⟩ := List.forall_mem_cons.mp hdigits
      rw [Nat.ofDigitChars_cons, Nat.mul_comm 10 value] at h ⊢
      have hnext := Nat.le_trans (Decimal.le_ofDigitChars _ digits) h
      simp only [absorb, if_pos hnext]
      exact ih hrest h

theorem WholeText.exists_digit {t : List Char} (h : WholeText t) :
    ∃ d digits, t = d :: digits ∧ d.isDigit = true := by
  cases h with
  | zero => exact ⟨_, _, rfl, rfl⟩
  | other hd => exact ⟨_, _, rfl, hd⟩

theorem SpellsWord64.starts {n : Nat} {t : List Char} (h : SpellsWord64 n t) : Starts t := by
  obtain ⟨d, digits, rfl, hd⟩ := h.2.1.exists_digit
  refine .cons fun hmark => ?_
  rw [(marks_end_numbers hmark).1] at hd
  cases hd

/-- **A whole number of 64 bits is read as its value.** -/
theorem readNumber_of_natural {n : Nat} {t rest : List Char} (h : SpellsWord64 n t)
    (hrest : Follow rest) : readNumber false (t ++ rest) = .ok (.natural n, rest) := by
  obtain ⟨hn, hwhole, rfl⟩ := h
  have hmax : Decimal.max64 + 1 = 2 ^ 64 := by decide
  cases hwhole with
  | zero =>
      have hread := readAfterWhole_of_follow 0 hrest
      cases hrest with
      | nil => exact hread
      | cons hc =>
          have hdigit := (marks_end_numbers hc).1
          simp only [List.singleton_append, readNumber, isDigit_eq, hdigit, Bool.false_eq_true,
            if_false]
          exact hread
  | @other d digits hd hne hdigits =>
      have hall : ∀ c ∈ d :: digits, c.isDigit = true := List.forall_mem_cons.mpr ⟨hd, hdigits⟩
      have hrun := digitRun_append hall hrest.noDigit
      have hafter := afterDigits_append hall hrest.noDigit
      have hbound : Nat.ofDigitChars 10 (d :: digits) 0 ≤ Decimal.max64 := by omega
      have habsorb := absorb_of_le hall hbound
      rw [List.cons_append] at hrun hafter ⊢
      rw [readNumber]
      · simp only [isDigit_eq, hd, if_true, hrun, hafter, habsorb]
        exact readAfterWhole_of_follow _ hrest
      · exact hne

/-! ## Numbers that are passed over -/

theorem skipExponent_of_digits {sign digits rest : List Char} {d : Char}
    (hsign : sign = [] ∨ sign = ['+'] ∨ sign = ['-']) (hd : d.isDigit = true)
    (hdigits : ∀ c ∈ digits, c.isDigit = true) (hrest : Follow rest) :
    skipExponent (sign ++ d :: digits ++ rest) = .ok rest := by
  have hread : (readExponentSign (sign ++ d :: digits ++ rest)).2 = d :: (digits ++ rest) := by
    rcases hsign with rfl | rfl | rfl
    · have hplus : d ≠ '+' := fun h => by rw [h] at hd; cases hd
      have hminus : d ≠ '-' := fun h => by rw [h] at hd; cases hd
      simp [readExponentSign, hplus, hminus]
    · rfl
    · rfl
  simp only [skipExponent, hread, isDigit_eq, hd, if_true]
  rw [afterDigits_append hdigits hrest.noDigit]

theorem skipAfterWhole_of_exponent {t rest : List Char} (h : ExponentText t)
    (hrest : Follow rest) : skipAfterWhole (t ++ rest) = .ok rest := by
  cases h with
  | none =>
      cases hrest with
      | nil => rfl
      | cons hc =>
          obtain ⟨-, hpoint, hmark⟩ := marks_end_numbers hc
          simp only [List.nil_append, skipAfterWhole, if_neg hpoint, hmark, Bool.false_eq_true,
            if_false]
  | @some mark d sign digits hmark hsign hd hdigits =>
      have hskip := skipExponent_of_digits hsign hd hdigits hrest
      have hpoint : mark ≠ '.' := by rcases hmark with rfl | rfl <;> decide
      rw [List.cons_append, skipAfterWhole, if_neg hpoint,
        if_pos ((isExponentMark_iff mark).mpr hmark), hskip]

theorem skipAfterWhole_of_parts {fraction exponent rest : List Char}
    (hfraction : FractionText fraction) (hexponent : ExponentText exponent)
    (hrest : Follow rest) : skipAfterWhole (fraction ++ (exponent ++ rest)) = .ok rest := by
  cases hfraction with
  | none => exact skipAfterWhole_of_exponent hexponent hrest
  | @some digits hne hdigits =>
      have hend := hexponent.noDigit hrest
      have hfilled : ¬digits.isEmpty = true := fun h => hne (List.isEmpty_iff.mp h)
      rw [List.cons_append, skipAfterWhole, if_pos rfl, digitRun_append hdigits hend,
        afterDigits_append hdigits hend, if_neg hfilled]
      cases hexponent with
      | none =>
          cases hrest with
          | nil => rfl
          | cons hc =>
              have hmark := (marks_end_numbers hc).2.2
              simp only [List.nil_append, hmark, Bool.false_eq_true, if_false]
      | some hmark hsign hd hdigits =>
          have hskip := skipExponent_of_digits hsign hd hdigits hrest
          simp only [List.cons_append, if_pos ((isExponentMark_iff _).mpr hmark)]
          exact hskip

/-- **A number is passed over**, whatever its size. -/
theorem skipNumber_of_whole {whole fraction exponent rest : List Char} (hwhole : WholeText whole)
    (hfraction : FractionText fraction) (hexponent : ExponentText exponent)
    (hrest : Follow rest) :
    skipNumber (whole ++ (fraction ++ (exponent ++ rest))) = .ok rest := by
  have hparts := skipAfterWhole_of_parts hfraction hexponent hrest
  have hend := hfraction.noDigit (hexponent.noDigit hrest)
  cases hwhole with
  | zero =>
      have hrun : (digitRun (fraction ++ (exponent ++ rest))).isEmpty = true :=
        List.isEmpty_iff.mpr hend
      rw [List.singleton_append, skipNumber, if_pos rfl, if_pos hrun, hparts]
  | other hd hne hdigits =>
      rw [List.cons_append, skipNumber, if_neg hne, isDigit_eq, if_pos hd,
        afterDigits_append hdigits hend, hparts]

end HostAgent.Json
