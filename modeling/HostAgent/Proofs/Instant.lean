import HostAgent.Instant
import HostAgent.Proofs.Text.Reading
import Mathlib.Data.List.TakeWhile
import Mathlib.Data.Option.Basic

set_option autoImplicit false

/-! # Which texts denote an instant

A text denotes an instant if it is written as a calendar date, a time of day and an offset from
universal time (`Timestamp.SpelledAs`), and these are within their bounds (`Timestamp.Valid`). Such
texts are read as the instants that they denote, and no others are read (`read?_eq_some_iff`).

A text is read part by part. A part of a fixed number of digits ends by itself; only the digits of a
fraction go on as long as there are any, so that they end where the offset begins.
-/

namespace HostAgent.Instant

/-! ## Dates and times as they are written -/

/-- A number of `count` digits. -/
def Digits (count n : Nat) (cs : List Char) : Prop :=
  cs.length = count ∧ (∀ c ∈ cs, c.isDigit = true) ∧ Nat.ofDigitChars 10 cs 0 = n

/-- A fraction of a second, in nanoseconds, if there is one. Only the first nine digits count. -/
inductive Fraction : Nat → List Char → Prop
  | absent : Fraction 0 []
  | given {digits : List Char} (hne : digits ≠ []) (hdigits : ∀ c ∈ digits, c.isDigit = true) :
      Fraction (Nat.ofDigitChars 10 ((digits ++ List.replicate 9 '0').take 9) 0) ('.' :: digits)

/-- An offset from universal time, in seconds. -/
inductive Offset : Int → List Char → Prop
  | universal {c : Char} (h : c = 'Z' ∨ c = 'z') : Offset 0 [c]
  | ahead {hours minutes : Nat} {h m : List Char} (hh : Digits 2 hours h) (hm : Digits 2 minutes m)
      (hbound : hours ≤ 23 ∧ minutes ≤ 59) :
      Offset ((hours * 60 + minutes) * 60) ('+' :: (h ++ ':' :: m))
  | behind {sign : Char} {hours minutes : Nat} {h m : List Char}
      (hsign : sign = '-' ∨ sign = '\u2212') (hh : Digits 2 hours h) (hm : Digits 2 minutes m)
      (hbound : hours ≤ 23 ∧ minutes ≤ 59) :
      Offset (-((hours * 60 + minutes) * 60)) (sign :: (h ++ ':' :: m))

/-- A date, a time of day and an offset from universal time. -/
structure Timestamp where
  year : Nat
  month : Nat
  day : Nat
  hour : Nat
  minute : Nat
  second : Nat
  nanos : Nat
  offset : Int

namespace Timestamp

/-- The date is one of the calendar, and the time one of a day that may have a leap second. -/
structure Valid (t : Timestamp) : Prop where
  date : 1 ≤ t.month ∧ t.month ≤ 12 ∧ 1 ≤ t.day ∧ t.day ≤ daysInMonth t.year t.month
  time : t.hour ≤ 23 ∧ t.minute ≤ 59 ∧ t.second ≤ 60

/-- The instant of a date and time. -/
def instant (t : Timestamp) : Instant where
  seconds := dayNumber t.year t.month t.day * 86400
    + ((t.hour * 60 + t.minute) * 60 + min t.second 59 : Nat) - t.offset
  nanos := if t.second = 60 then t.nanos + 1000000000 else t.nanos

/-- The ways in which a date and time is written. -/
inductive SpelledAs (t : Timestamp) : List Char → Prop
  | mk {year month day hour minute second fraction offset : List Char} {mark : Char}
      (hyear : Digits 4 t.year year) (hmonth : Digits 2 t.month month) (hday : Digits 2 t.day day)
      (hmark : mark ∈ ['T', 't', ' ']) (hhour : Digits 2 t.hour hour)
      (hminute : Digits 2 t.minute minute) (hsecond : Digits 2 t.second second)
      (hfraction : Fraction t.nanos fraction) (hoffset : Offset t.offset offset) :
      SpelledAs t (year ++ '-' :: (month ++ '-' :: (day ++ mark :: (hour ++ ':' :: (minute
        ++ ':' :: (second ++ (fraction ++ offset)))))))

end Timestamp

/-- A text denotes an instant. -/
def Denotes (text : List Char) (t : Instant) : Prop :=
  ∃ s : Timestamp, s.Valid ∧ s.SpelledAs text ∧ s.instant = t

/-! ## Part by part -/

/-- One digit more. -/
theorem digits_succ_iff {count n : Nat} {cs : List Char} :
    Digits (count + 1) n cs ↔ ∃ ds c high, Digits count high ds ∧ c.isDigit = true
      ∧ cs = ds ++ [c] ∧ n = high * 10 + (c.toNat - '0'.toNat) := by
  constructor
  · rintro ⟨hlength, hcs, rfl⟩
    obtain rfl | ⟨ds, c, rfl⟩ := cs.eq_nil_or_concat
    · nomatch hlength
    · rw [List.concat_eq_append] at hlength hcs ⊢
      obtain ⟨hds, hc⟩ := List.forall_mem_append.mp hcs
      rw [List.length_append, List.length_singleton] at hlength
      refine ⟨ds, c, _, ⟨Nat.succ.inj hlength, hds, rfl⟩, hc c List.mem_cons_self, rfl, ?_⟩
      rw [Nat.ofDigitChars_append, Nat.ofDigitChars_cons, Nat.ofDigitChars_nil, Nat.mul_comm]
  · rintro ⟨ds, c, high, ⟨rfl, hds, rfl⟩, hc, rfl, rfl⟩
    refine ⟨by rw [List.length_append, List.length_singleton], ?_, ?_⟩
    · exact List.forall_mem_append.mpr ⟨hds, List.forall_mem_singleton.mpr hc⟩
    · rw [Nat.ofDigitChars_append, Nat.ofDigitChars_cons, Nat.ofDigitChars_nil, Nat.mul_comm]

theorem digits?_eq_some_iff {count n : Nat} {cs rest : List Char} :
    digits? count cs = some (n, rest) ↔ ∃ ds, Digits count n ds ∧ cs = ds ++ rest := by
  induction count generalizing n rest with
  | zero =>
      rw [digits?, Option.some_inj, Prod.mk.injEq]
      constructor
      · rintro ⟨rfl, rfl⟩
        exact ⟨[], ⟨rfl, nofun, rfl⟩, rfl⟩
      · rintro ⟨ds, ⟨hlength, -, rfl⟩, rfl⟩
        obtain rfl := List.length_eq_zero_iff.mp hlength
        exact ⟨rfl, rfl⟩
  | succ count ih =>
      simp only [digits?, digits_succ_iff]
      constructor
      · intro h
        obtain ⟨⟨high, left⟩, hhigh, hlow⟩ := Option.bind_eq_some_iff.mp h
        obtain ⟨ds, hds, rfl⟩ := ih.mp hhigh
        cases left with
        | nil => nomatch hlow
        | cons c left =>
            obtain ⟨low, hc, heq⟩ := Option.bind_eq_some_iff.mp hlow
            obtain ⟨rfl, rfl⟩ := Prod.mk.inj (Option.some.inj heq)
            by_cases hdigit : c.isDigit = true
            · rw [Decimal.digit?_of_isDigit hdigit, Option.some_inj] at hc
              exact ⟨_, ⟨ds, c, high, hds, hdigit, rfl, by rw [hc]⟩, by simp⟩
            · rw [Decimal.digit?_of_not_isDigit hdigit] at hc
              nomatch hc
      · rintro ⟨_, ⟨ds, c, high, hds, hc, rfl, rfl⟩, rfl⟩
        have hhigh : digits? count (ds ++ [c] ++ rest) = some (high, c :: rest) :=
          ih.mpr ⟨ds, hds, by simp⟩
        rw [hhigh]
        show Option.bind (Decimal.digit? c) _ = _
        rw [Decimal.digit?_of_isDigit hc]
        rfl

theorem Digits.read {count n : Nat} {ds : List Char} (h : Digits count n ds) (rest : List Char) :
    digits? count (ds ++ rest) = some (n, rest) :=
  digits?_eq_some_iff.mpr ⟨ds, h, rfl⟩

theorem oneOf?_eq_some_iff {allowed cs rest : List Char} :
    oneOf? allowed cs = some rest ↔ ∃ c ∈ allowed, cs = c :: rest := by
  cases cs with
  | nil => exact iff_of_false nofun fun ⟨_, _, h⟩ => nomatch h
  | cons c cs =>
      rw [oneOf?]
      by_cases hc : c ∈ allowed
      · rw [if_pos hc, Option.some_inj]
        constructor
        · rintro rfl
          exact ⟨c, hc, rfl⟩
        · rintro ⟨_, _, heq⟩
          exact (List.cons.inj heq).2
      · rw [if_neg hc]
        refine iff_of_false nofun ?_
        rintro ⟨d, hd, heq⟩
        exact hc ((List.cons.inj heq).1 ▸ hd)

theorem oneOf?_singleton {c : Char} {cs rest : List Char} :
    oneOf? [c] cs = some rest ↔ cs = c :: rest := by
  rw [oneOf?_eq_some_iff]
  constructor
  · rintro ⟨d, hd, rfl⟩
    rw [List.mem_singleton.mp hd]
  · rintro rfl
    exact ⟨c, List.mem_singleton_self c, rfl⟩

theorem isSome_digit? (c : Char) : (Decimal.digit? c).isSome = c.isDigit := by
  cases hc : c.isDigit with
  | true => rw [Decimal.digit?_of_isDigit hc]; rfl
  | false => rw [Decimal.digit?_of_not_isDigit (by rw [hc]; exact Bool.false_ne_true)]; rfl

/-- The first nine digits of a fraction, filled up with zeros, are there and make its value. -/
theorem digits_nine {digits : List Char} (h : ∀ c ∈ digits, c.isDigit = true) :
    Digits 9 (Nat.ofDigitChars 10 ((digits ++ List.replicate 9 '0').take 9) 0)
      ((digits ++ List.replicate 9 '0').take 9) := by
  refine ⟨?_, fun c hc => ?_, rfl⟩
  · rw [List.length_take, List.length_append, List.length_replicate]
    omega
  · rcases List.mem_append.mp (List.mem_of_mem_take hc) with hc | hc
    · exact h c hc
    · rw [(List.mem_replicate.mp hc).2]
      rfl

theorem fraction?_point (rest : List Char) :
    fraction? ('.' :: rest)
      = if rest.takeWhile Char.isDigit = [] then none
        else some (Nat.ofDigitChars 10
          ((rest.takeWhile Char.isDigit ++ List.replicate 9 '0').take 9) 0,
          rest.dropWhile Char.isDigit) := by
  have hfun : (fun c => (Decimal.digit? c).isSome) = Char.isDigit := funext isSome_digit?
  have hdrop : rest.drop (rest.takeWhile Char.isDigit).length = rest.dropWhile Char.isDigit := by
    calc rest.drop (rest.takeWhile Char.isDigit).length
        = (rest.takeWhile Char.isDigit ++ rest.dropWhile Char.isDigit).drop
            (rest.takeWhile Char.isDigit).length := by rw [List.takeWhile_append_dropWhile]
      _ = rest.dropWhile Char.isDigit := List.drop_left
  have hnine := (digits_nine fun c (hc : c ∈ rest.takeWhile Char.isDigit) =>
    List.mem_takeWhile_imp hc).read ((rest.takeWhile Char.isDigit ++ List.replicate 9 '0').drop 9)
  rw [List.take_append_drop] at hnine
  simp only [fraction?, hfun, List.isEmpty_iff]
  split
  · rfl
  · rw [hnine, hdrop]
    rfl

/-- Without a point there is no fraction. -/
theorem fraction?_of_ne {c : Char} (hc : c ≠ '.') (rest : List Char) :
    fraction? (c :: rest) = some (0, c :: rest) := by
  rw [fraction?]
  exact fun _ heq => hc (List.cons.inj heq).1

theorem exists_fraction {n : Nat} {cs rest : List Char} (h : fraction? cs = some (n, rest)) :
    ∃ f, Fraction n f ∧ cs = f ++ rest := by
  cases cs with
  | nil =>
      obtain ⟨rfl, rfl⟩ := Prod.mk.inj (Option.some.inj h)
      exact ⟨[], .absent, rfl⟩
  | cons c cs =>
      by_cases hc : c = '.'
      · subst hc
        rw [fraction?_point] at h
        split at h
        · nomatch h
        · next hne =>
          obtain ⟨rfl, rfl⟩ := Prod.mk.inj (Option.some.inj h)
          refine ⟨_, .given hne fun c hc => List.mem_takeWhile_imp hc, ?_⟩
          rw [List.cons_append, List.takeWhile_append_dropWhile]
      · rw [fraction?_of_ne hc] at h
        obtain ⟨rfl, rfl⟩ := Prod.mk.inj (Option.some.inj h)
        exact ⟨[], .absent, rfl⟩

/-- A fraction ends where there is neither a digit nor a point. -/
theorem Fraction.read {n : Nat} {f : List Char} (h : Fraction n f) {c : Char}
    (hc : c.isDigit = false ∧ c ≠ '.') (rest : List Char) :
    fraction? (f ++ c :: rest) = some (n, c :: rest) := by
  obtain ⟨hdigit, hpoint⟩ := hc
  cases h with
  | absent => exact fraction?_of_ne hpoint rest
  | @given digits hne hdigits =>
      have hnot : ¬c.isDigit = true := by rw [hdigit]; exact Bool.false_ne_true
      have htake : (digits ++ c :: rest).takeWhile Char.isDigit = digits := by
        rw [List.takeWhile_append_of_pos hdigits, List.takeWhile_cons_of_neg hnot, List.append_nil]
      have hdrop : (digits ++ c :: rest).dropWhile Char.isDigit = c :: rest := by
        rw [List.dropWhile_append_of_pos hdigits, List.dropWhile_cons_of_neg hnot]
      rw [List.cons_append, fraction?_point, htake, hdrop, if_neg hne]

theorem Offset.exists_first {o : Int} {f : List Char} (h : Offset o f) :
    ∃ c left, f = c :: left ∧ c.isDigit = false ∧ c ≠ '.' := by
  cases h with
  | universal h => rcases h with rfl | rfl <;> exact ⟨_, _, rfl, by decide⟩
  | ahead => exact ⟨_, _, rfl, by decide⟩
  | behind hsign => rcases hsign with rfl | rfl <;> exact ⟨_, _, rfl, by decide⟩

/-- What follows the sign of an offset. -/
def signedOffset? (negative : Bool) (cs : List Char) : Option (Int × List Char) := do
  let (hours, rest) ← digits? 2 cs
  let rest ← oneOf? [':'] rest
  let (minutes, rest) ← digits? 2 rest
  if hours ≤ 23 ∧ minutes ≤ 59 then
    let seconds : Int := (hours * 60 + minutes) * 60
    some (if negative then -seconds else seconds, rest)
  else none

theorem offset?_cons (sign : Char) (cs : List Char) :
    offset? (sign :: cs)
      = if sign = 'Z' ∨ sign = 'z' then some (0, cs)
        else if sign = '+' then signedOffset? false cs
        else if sign = '-' ∨ sign = '\u2212' then signedOffset? true cs else none := by
  rw [offset?]
  split
  · rfl
  · split
    · rfl
    · split <;> rfl

theorem signedOffset?_eq_some_iff {negative : Bool} {o : Int} {cs rest : List Char} :
    signedOffset? negative cs = some (o, rest) ↔ ∃ hours minutes h m, Digits 2 hours h
      ∧ Digits 2 minutes m ∧ (hours ≤ 23 ∧ minutes ≤ 59) ∧ cs = h ++ ':' :: (m ++ rest)
      ∧ o = if negative then -((hours * 60 + minutes : Int) * 60)
        else (hours * 60 + minutes) * 60 := by
  constructor
  · intro h
    obtain ⟨⟨hours, left⟩, hhours, hleft⟩ := Option.bind_eq_some_iff.mp h
    obtain ⟨left', hcolon, hleft'⟩ := Option.bind_eq_some_iff.mp hleft
    obtain ⟨⟨minutes, left''⟩, hminutes, hleft''⟩ := Option.bind_eq_some_iff.mp hleft'
    obtain ⟨hour, hhour, rfl⟩ := digits?_eq_some_iff.mp hhours
    obtain rfl := oneOf?_singleton.mp hcolon
    obtain ⟨minute, hminute, rfl⟩ := digits?_eq_some_iff.mp hminutes
    by_cases hbound : hours ≤ 23 ∧ minutes ≤ 59
    · simp only [if_pos hbound] at hleft''
      obtain ⟨rfl, rfl⟩ := Prod.mk.inj (Option.some.inj hleft'')
      exact ⟨hours, minutes, hour, minute, hhour, hminute, hbound, rfl, rfl⟩
    · simp only [if_neg hbound] at hleft''
      nomatch hleft''
  · rintro ⟨hours, minutes, h, m, hh, hm, hbound, rfl, rfl⟩
    simp only [signedOffset?, hh.read, oneOf?_singleton.mpr rfl, hm.read, Option.bind_eq_bind,
      Option.bind_some, if_pos hbound]

theorem offset?_eq_some_iff {o : Int} {cs rest : List Char} :
    offset? cs = some (o, rest) ↔ ∃ f, Offset o f ∧ cs = f ++ rest := by
  constructor
  · intro h
    cases cs with
    | nil => nomatch h
    | cons sign cs =>
        rw [offset?_cons] at h
        split at h
        · next hz =>
          obtain ⟨rfl, rfl⟩ := Prod.mk.inj (Option.some.inj h)
          exact ⟨[sign], .universal hz, rfl⟩
        · split at h
          · next hplus =>
            obtain ⟨hours, minutes, hour, minute, hhour, hminute, hbound, rfl, rfl⟩ :=
              signedOffset?_eq_some_iff.mp h
            exact ⟨_, .ahead hhour hminute hbound, by simp [hplus]⟩
          · split at h
            · next hminus =>
              obtain ⟨hours, minutes, hour, minute, hhour, hminute, hbound, rfl, rfl⟩ :=
                signedOffset?_eq_some_iff.mp h
              exact ⟨_, .behind hminus hhour hminute hbound, by simp⟩
            · nomatch h
  · rintro ⟨f, h, rfl⟩
    cases h with
    | universal hz => rw [List.singleton_append, offset?_cons, if_pos hz]
    | @ahead hours minutes h m hh hm hbound =>
        rw [List.cons_append, offset?_cons, if_neg (by decide), if_pos rfl]
        exact signedOffset?_eq_some_iff.mpr ⟨_, _, _, _, hh, hm, hbound, by simp, rfl⟩
    | @behind sign hours minutes h m hsign hh hm hbound =>
        have hother : ¬(sign = 'Z' ∨ sign = 'z') ∧ sign ≠ '+' := by
          rcases hsign with rfl | rfl <;> decide
        rw [List.cons_append, offset?_cons, if_neg hother.1, if_neg hother.2, if_pos hsign]
        exact signedOffset?_eq_some_iff.mpr ⟨_, _, _, _, hh, hm, hbound, by simp, rfl⟩

/-- A text that denotes an instant is read as it. -/
theorem read?_of_denotes {s : String} {t : Instant} (h : Denotes s.toList t) :
    read? s = some t := by
  obtain ⟨d, ⟨hdate, htime⟩, hspelled, rfl⟩ := h
  rw [read?]
  generalize s.toList = cs at hspelled
  obtain ⟨hyear, hmonth, hday, hmark, hhour, hminute, hsecond, hfraction, hoffset⟩ := hspelled
  have hsign (c : Char) (rest : List Char) : oneOf? [c] (c :: rest) = some rest :=
    oneOf?_singleton.mpr rfl
  have hread := offset?_eq_some_iff.mpr ⟨_, hoffset, (List.append_nil _).symm⟩
  -- The fraction ends with the first character of the offset.
  obtain ⟨c, left, rfl, hc⟩ := hoffset.exists_first
  refine Option.bind_eq_some_iff.mpr ⟨_, hyear.read _, ?_⟩
  refine Option.bind_eq_some_iff.mpr ⟨_, hsign '-' _, ?_⟩
  refine Option.bind_eq_some_iff.mpr ⟨_, hmonth.read _, ?_⟩
  refine Option.bind_eq_some_iff.mpr ⟨_, hsign '-' _, ?_⟩
  refine Option.bind_eq_some_iff.mpr ⟨_, hday.read _, ?_⟩
  refine Option.bind_eq_some_iff.mpr ⟨_, oneOf?_eq_some_iff.mpr ⟨_, hmark, rfl⟩, ?_⟩
  refine Option.bind_eq_some_iff.mpr ⟨_, hhour.read _, ?_⟩
  refine Option.bind_eq_some_iff.mpr ⟨_, hsign ':' _, ?_⟩
  refine Option.bind_eq_some_iff.mpr ⟨_, hminute.read _, ?_⟩
  refine Option.bind_eq_some_iff.mpr ⟨_, hsign ':' _, ?_⟩
  refine Option.bind_eq_some_iff.mpr ⟨_, hsecond.read _, ?_⟩
  refine Option.bind_eq_some_iff.mpr ⟨_, hfraction.read hc left, ?_⟩
  refine Option.bind_eq_some_iff.mpr ⟨_, hread, ?_⟩
  refine Option.bind_eq_some_iff.mpr ⟨(), (Option.guard_eq_some' ()).mpr List.isEmpty_nil, ?_⟩
  refine Option.bind_eq_some_iff.mpr ⟨(), (Option.guard_eq_some' ()).mpr hdate, ?_⟩
  exact Option.bind_eq_some_iff.mpr ⟨(), (Option.guard_eq_some' ()).mpr htime, rfl⟩

/-- What is read as an instant denotes it. -/
theorem denotes_of_read? {s : String} {t : Instant} (h : read? s = some t) :
    Denotes s.toList t := by
  obtain ⟨⟨year, afterYear⟩, hyear, h⟩ := Option.bind_eq_some_iff.mp h
  obtain ⟨_, hdash, h⟩ := Option.bind_eq_some_iff.mp h
  obtain ⟨⟨month, afterMonth⟩, hmonth, h⟩ := Option.bind_eq_some_iff.mp h
  obtain ⟨_, hdash', h⟩ := Option.bind_eq_some_iff.mp h
  obtain ⟨⟨day, afterDay⟩, hday, h⟩ := Option.bind_eq_some_iff.mp h
  obtain ⟨_, hmark, h⟩ := Option.bind_eq_some_iff.mp h
  obtain ⟨⟨hour, afterHour⟩, hhour, h⟩ := Option.bind_eq_some_iff.mp h
  obtain ⟨_, hcolon, h⟩ := Option.bind_eq_some_iff.mp h
  obtain ⟨⟨minute, afterMinute⟩, hminute, h⟩ := Option.bind_eq_some_iff.mp h
  obtain ⟨_, hcolon', h⟩ := Option.bind_eq_some_iff.mp h
  obtain ⟨⟨second, afterSecond⟩, hsecond, h⟩ := Option.bind_eq_some_iff.mp h
  obtain ⟨⟨nanos, afterFraction⟩, hfraction, h⟩ := Option.bind_eq_some_iff.mp h
  obtain ⟨⟨offset, afterOffset⟩, hoffset, h⟩ := Option.bind_eq_some_iff.mp h
  obtain ⟨_, hend, h⟩ := Option.bind_eq_some_iff.mp h
  obtain ⟨_, hdate, h⟩ := Option.bind_eq_some_iff.mp h
  obtain ⟨_, htime, hinstant⟩ := Option.bind_eq_some_iff.mp h
  -- From the last part back to the first, every text is the part and what follows it.
  obtain rfl := List.isEmpty_iff.mp ((Option.guard_eq_some' _).mp hend)
  obtain ⟨_, offsetSpelled, rfl⟩ := offset?_eq_some_iff.mp hoffset
  obtain ⟨_, fractionSpelled, rfl⟩ := exists_fraction hfraction
  obtain ⟨_, secondSpelled, rfl⟩ := digits?_eq_some_iff.mp hsecond
  obtain rfl := oneOf?_singleton.mp hcolon'
  obtain ⟨_, minuteSpelled, rfl⟩ := digits?_eq_some_iff.mp hminute
  obtain rfl := oneOf?_singleton.mp hcolon
  obtain ⟨_, hourSpelled, rfl⟩ := digits?_eq_some_iff.mp hhour
  obtain ⟨_, markAllowed, rfl⟩ := oneOf?_eq_some_iff.mp hmark
  obtain ⟨_, daySpelled, rfl⟩ := digits?_eq_some_iff.mp hday
  obtain rfl := oneOf?_singleton.mp hdash'
  obtain ⟨_, monthSpelled, rfl⟩ := digits?_eq_some_iff.mp hmonth
  obtain rfl := oneOf?_singleton.mp hdash
  obtain ⟨_, yearSpelled, htext⟩ := digits?_eq_some_iff.mp hyear
  rw [htext, List.append_nil]
  exact ⟨⟨year, month, day, hour, minute, second, nanos, offset⟩,
    ⟨(Option.guard_eq_some' _).mp hdate, (Option.guard_eq_some' _).mp htime⟩,
    .mk yearSpelled monthSpelled daySpelled markAllowed hourSpelled minuteSpelled secondSpelled
      fractionSpelled offsetSpelled, Option.some.inj hinstant⟩

/-- **The texts that are read are those that denote an instant.** -/
theorem read?_eq_some_iff {s : String} {t : Instant} : read? s = some t ↔ Denotes s.toList t :=
  ⟨denotes_of_read?, read?_of_denotes⟩

end HostAgent.Instant
