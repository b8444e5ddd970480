import HostAgent.Overrides

set_option autoImplicit false

/-! # What the texts of settings say

A switch text says on or off, and a port text says a number. `SaysSwitch` and `SaysPort` tell when
they do, without the folding of case and the walk along the digits by which they are read
(`Switch.read_eq_some_iff`, `Overrides.readPort_eq_some_iff`).

A setting has several sources, each of which may be missing. What counts is the first of them that
says anything, and a default if none does (`SaysOr`). The look-ups that try one source after another
find just that (`getD_findSome?_eq_iff`).
-/

namespace HostAgent

/-! ## Switches -/

/-- The words for a position of a switch. -/
def switchWords : Bool → List String
  | true => ["true", "yes", "on", "1"]
  | false => ["false", "no", "off", "0"]

/-- Up to the blanks around it and the case of ASCII letters a text is one of the words for `b`. -/
def SaysSwitch (text : String) (b : Bool) : Prop :=
  ∃ word ∈ switchWords b, SameName (trim text) word

theorem saysSwitch_iff_mem (text : String) (b : Bool) :
    SaysSwitch text b ↔ foldCase (trim text) ∈ switchWords b := by
  -- the words are in lower case
  have hwords : ∀ word ∈ switchWords b, foldCase word = word := by
    cases b <;> decide
  constructor
  · rintro ⟨word, hword, hsame⟩
    have hfold : foldCase (trim text) = word := hsame.trans (hwords word hword)
    rwa [hfold]
  · intro hmem
    exact ⟨_, hmem, (hwords _ hmem).symm⟩

/-- **A switch text is read as what it says.** -/
theorem Switch.read_eq_some_iff {text : String} {b : Bool} :
    read text = some b ↔ SaysSwitch text b := by
  rw [saysSwitch_iff_mem]
  have hon : switchWords true = onWords := rfl
  have hoff : switchWords false = offWords := rfl
  have hdisjoint : ∀ word ∈ onWords, word ∉ offWords := by decide
  simp only [read]
  by_cases htrue : foldCase (trim text) ∈ onWords
  · rw [if_pos htrue]
    cases b with
    | true => exact iff_of_true rfl htrue
    | false => exact iff_of_false (fun h => nomatch h) (hdisjoint _ htrue)
  · rw [if_neg htrue]
    by_cases hfalse : foldCase (trim text) ∈ offWords
    · rw [if_pos hfalse]
      cases b with
      | true => exact iff_of_false (fun h => nomatch h) htrue
      | false => exact iff_of_true rfl hfalse
    · rw [if_neg hfalse]
      cases b with
      | true => exact iff_of_false (fun h => nomatch h) htrue
      | false => exact iff_of_false (fun h => nomatch h) hfalse

/-! ## Numbers -/

namespace Decimal

/-- A text is an optional plus sign and ASCII digits, at least one, and `n` is their value. -/
def Denotes (text : List Char) (n : Nat) : Prop :=
  ∃ digits, (text = digits ∨ text = '+' :: digits) ∧ digits ≠ []
    ∧ (∀ c ∈ digits, c.isDigit = true) ∧ n = Nat.ofDigitChars 10 digits 0

theorem isDigit_iff (c : Char) : c.isDigit = true ↔ '0' ≤ c ∧ c ≤ '9' := by
  rw [Char.isDigit, Bool.and_eq_true, decide_eq_true_iff, decide_eq_true_iff]
  exact Iff.rfl

theorem digit?_of_isDigit {c : Char} (h : c.isDigit = true) :
    digit? c = some (c.toNat - '0'.toNat) := by
  rw [digit?, if_pos ((isDigit_iff c).mp h)]

theorem digit?_of_not_isDigit {c : Char} (h : ¬c.isDigit = true) : digit? c = none := by
  rw [digit?, if_neg (mt (isDigit_iff c).mpr h)]

/-- More digits do not make a number smaller. -/
theorem le_ofDigitChars (value : Nat) (digits : List Char) :
    value ≤ Nat.ofDigitChars 10 digits value := by
  induction digits generalizing value with
  | nil => exact Nat.le_refl value
  | cons c digits ih =>
      rw [Nat.ofDigitChars_cons]
      have hrest := ih (10 * value + (c.toNat - '0'.toNat))
      omega

theorem readDigits_eq_ok_iff {bound value n : Nat} (hvalue : value ≤ bound) (cs : List Char) :
    readDigits bound value cs = .ok n
      ↔ (∀ c ∈ cs, c.isDigit = true) ∧ n = Nat.ofDigitChars 10 cs value ∧ n ≤ bound := by
  induction cs generalizing value with
  | nil =>
      have hnil : Nat.ofDigitChars 10 [] value = value := rfl
      simp only [readDigits, Except.ok.injEq, List.not_mem_nil, false_implies, implies_true,
        true_and, hnil]
      constructor
      · rintro rfl
        exact ⟨rfl, hvalue⟩
      · exact fun h => h.1.symm
  | cons c cs ih =>
      rw [List.forall_mem_cons, readDigits, Nat.ofDigitChars_cons, Nat.mul_comm 10 value]
      by_cases hdigit : c.isDigit = true
      · rw [digit?_of_isDigit hdigit, and_iff_right hdigit]
        by_cases hbound : value * 10 + (c.toNat - '0'.toNat) ≤ bound
        · simp only [if_pos hbound]
          exact ih hbound
        · -- the number is over the bound from here on
          simp only [if_neg hbound]
          refine iff_of_false (fun h => nomatch h) ?_
          rintro ⟨-, rfl, hle⟩
          exact hbound (Nat.le_trans (le_ofDigitChars _ cs) hle)
      · rw [digit?_of_not_isDigit hdigit]
        exact iff_of_false (fun h => nomatch h) fun h => hdigit h.1.1

theorem readChars_cons_of_ne {c : Char} (h : c ≠ '+') (bound : Nat) (rest : List Char) :
    readChars bound (c :: rest) = readDigits bound 0 (c :: rest) := by
  unfold readChars
  split
  · next heq => nomatch heq
  · next heq => exact absurd (List.head_eq_of_cons_eq heq) h
  · next heq => exact absurd (List.head_eq_of_cons_eq heq) h
  · rfl

theorem denotes_cons_sign_iff {digits : List Char} {n : Nat} :
    Denotes ('+' :: digits) n
      ↔ digits ≠ [] ∧ (∀ c ∈ digits, c.isDigit = true) ∧ n = Nat.ofDigitChars 10 digits 0 := by
  constructor
  · rintro ⟨other, rfl | heq, hne, hdigits, hn⟩
    · -- the sign is no digit
      exact absurd (hdigits '+' List.mem_cons_self) (by decide)
    · obtain rfl := List.tail_eq_of_cons_eq heq
      exact ⟨hne, hdigits, hn⟩
  · rintro ⟨hne, hdigits, hn⟩
    exact ⟨digits, .inr rfl, hne, hdigits, hn⟩

theorem denotes_cons_iff_of_ne {c : Char} (h : c ≠ '+') {rest : List Char} {n : Nat} :
    Denotes (c :: rest) n
      ↔ (∀ d ∈ c :: rest, d.isDigit = true) ∧ n = Nat.ofDigitChars 10 (c :: rest) 0 := by
  constructor
  · rintro ⟨digits, rfl | heq, -, hdigits, hn⟩
    · exact ⟨hdigits, hn⟩
    · exact absurd (List.head_eq_of_cons_eq heq) h
  · rintro ⟨hdigits, hn⟩
    exact ⟨c :: rest, .inl rfl, List.cons_ne_nil c rest, hdigits, hn⟩

/-- **A number text within the bound is read as the number it denotes**, and nothing else is. -/
theorem readChars_eq_ok_iff {bound n : Nat} {cs : List Char} :
    readChars bound cs = .ok n ↔ Denotes cs n ∧ n ≤ bound := by
  have hread := fun cs => @readDigits_eq_ok_iff bound 0 n (Nat.zero_le bound) cs
  cases cs with
  | nil =>
      refine iff_of_false (fun h => nomatch h) ?_
      rintro ⟨⟨digits, rfl | heq, hne, -⟩, -⟩
      · exact hne rfl
      · cases heq
  | cons c rest =>
      by_cases hsign : c = '+'
      · subst hsign
        rw [denotes_cons_sign_iff]
        cases rest with
        | nil => exact iff_of_false (fun h => nomatch h) fun h => h.1.1 rfl
        | cons d digits =>
            rw [readChars, hread, and_iff_right (List.cons_ne_nil d digits), and_assoc]
            exact List.cons_ne_nil d digits
      · rw [readChars_cons_of_ne hsign, hread, denotes_cons_iff_of_ne hsign, and_assoc]

/-- A text denotes one number at most. -/
theorem Denotes.unique {text : List Char} {n m : Nat} (h : Denotes text n) (h' : Denotes text m) :
    n = m := by
  have hread : readChars (max n m) text = .ok n :=
    readChars_eq_ok_iff.mpr ⟨h, Nat.le_max_left n m⟩
  have hread' : readChars (max n m) text = .ok m :=
    readChars_eq_ok_iff.mpr ⟨h', Nat.le_max_right n m⟩
  exact Except.ok.inj (hread.symm.trans hread')

end Decimal

/-- Up to the blanks around it a text is an optional plus sign and ASCII digits, at least one, and
`n` is their value, which is at most 65535. -/
def SaysPort (text : String) (n : Nat) : Prop := Decimal.Denotes (trim text).toList n ∧ n ≤ 65535

/-- **A port text is read as what it says.** -/
theorem Overrides.readPort_eq_some_iff {text : String} {n : Nat} :
    readPort text = some n ↔ SaysPort text n := by
  have hread : Decimal.read Decimal.max16 (trim text) = .ok n ↔ SaysPort text n :=
    Decimal.readChars_eq_ok_iff
  rw [← hread, readPort]
  cases Decimal.read Decimal.max16 (trim text) with
  | error fault => exact iff_of_false (fun h => nomatch h) fun h => nomatch h
  | ok m => exact ⟨fun h => congrArg _ (Option.some.inj h), fun h => congrArg _ (Except.ok.inj h)⟩

/-! ## Sources in the order in which they count -/

section

variable {α : Type} (Says : String → α → Prop)

/-- `value` is what the first of the sources says that says anything. -/
def FirstSays (sources : List (Option String)) (value : α) : Prop :=
  ∃ before text after, sources = before ++ some text :: after ∧ Says text value
    ∧ ∀ earlier, some earlier ∈ before → ∀ other, ¬Says earlier other

/-- None of the sources says anything. -/
def NoneSays (sources : List (Option String)) : Prop :=
  ∀ text, some text ∈ sources → ∀ value, ¬Says text value

/-- `value` is what the first of the sources says that says anything, and the default if none of
them does. -/
def SaysOr (sources : List (Option String)) (default value : α) : Prop :=
  FirstSays Says sources value ∨ (NoneSays Says sources ∧ value = default)

variable {Says} {read : String → Option α} {sources : List (Option String)} {value : α}

theorem bind_eq_none_iff (hread : ∀ text v, read text = some v ↔ Says text v)
    (source : Option String) :
    source.bind read = none ↔ ∀ text, source = some text → ∀ v, ¬Says text v := by
  rw [Option.bind_eq_none_iff]
  refine forall₂_congr fun text _ => ?_
  rw [Option.eq_none_iff_forall_ne_some]
  exact forall_congr' fun v => not_congr (hread text v)

theorem findSome?_cons_eq_or {β : Type} (f : β → Option α) (b : β) (bs : List β) :
    (b :: bs).findSome? f = (f b).or (bs.findSome? f) := by
  rw [List.findSome?_cons]
  cases f b with
  | none => rfl
  | some a => rfl

/-- Trying one source after another finds what the first of them says that says anything. -/
theorem findSome?_eq_some_iff_firstSays (hread : ∀ text v, read text = some v ↔ Says text v) :
    sources.findSome? (·.bind read) = some value ↔ FirstSays Says sources value := by
  rw [List.findSome?_eq_some_iff]
  constructor
  · rintro ⟨before, source, after, rfl, hsource, hbefore⟩
    obtain ⟨text, rfl, htext⟩ := Option.bind_eq_some_iff.mp hsource
    refine ⟨before, text, after, rfl, (hread _ _).mp htext, fun earlier hearlier => ?_⟩
    exact (bind_eq_none_iff hread _).mp (hbefore _ hearlier) earlier rfl
  · rintro ⟨before, text, after, rfl, htext, hbefore⟩
    refine ⟨before, some text, after, rfl, (hread _ _).mpr htext, fun source hsource => ?_⟩
    refine (bind_eq_none_iff hread source).mpr ?_
    rintro earlier rfl
    exact hbefore earlier hsource

theorem findSome?_eq_none_iff_noneSays (hread : ∀ text v, read text = some v ↔ Says text v) :
    sources.findSome? (·.bind read) = none ↔ NoneSays Says sources := by
  rw [List.findSome?_eq_none_iff]
  constructor
  · intro h text htext
    exact (bind_eq_none_iff hread _).mp (h _ htext) text rfl
  · intro h source hsource
    refine (bind_eq_none_iff hread source).mpr ?_
    rintro text rfl
    exact h text hsource

/-- **With a default there is one value that the sources say, the one that is found.** -/
theorem getD_findSome?_eq_iff (hread : ∀ text v, read text = some v ↔ Says text v)
    {default : α} :
    (sources.findSome? (·.bind read)).getD default = value ↔ SaysOr Says sources default value := by
  rw [SaysOr, ← findSome?_eq_some_iff_firstSays hread, ← findSome?_eq_none_iff_noneSays hread]
  cases sources.findSome? (·.bind read) with
  | none => simp [eq_comm]
  | some found => simp

end

end HostAgent
