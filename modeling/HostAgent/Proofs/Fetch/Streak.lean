import HostAgent.Fetch.Streak

set_option autoImplicit false

/-! # Streaks of failures in a list of results

The failures between one success and the next are a streak. The agent keeps of a streak its length
only, and reports a failure when that length has just become two. So it reports the second
failure of each streak that has one, and nothing else (`Streak.reported_eq_seconds`), whatever the
length of the streaks: that the count stops growing matters only far beyond two.
-/

namespace HostAgent

variable {ε α : Type}

/-- The failures among some results. -/
def failures (results : List (Except ε α)) : List ε :=
  results.filterMap fun
    | .error e => some e
    | .ok _ => none

theorem failures_append (results results' : List (Except ε α)) :
    failures (results ++ results') = failures results ++ failures results' :=
  List.filterMap_append

/-- The streaks of some results that come after the failures of a streak. -/
def streaksFrom (streak : List ε) : List (Except ε α) → List (List ε)
  | [] => [streak]
  | .ok _ :: results => streak :: streaksFrom [] results
  | .error e :: results => streaksFrom (streak ++ [e]) results

/-- The streaks of failures, each from one success to the next. -/
def streaks (results : List (Except ε α)) : List (List ε) := streaksFrom [] results

/-- The second failures of the streaks that have one. -/
def seconds (streaks : List (List ε)) : List ε := streaks.filterMap (·[1]?)

theorem seconds_cons (streak : List ε) (streaks : List (List ε)) :
    seconds (streak :: streaks) = streak[1]?.toList ++ seconds streaks := by
  rw [seconds, List.filterMap_cons]
  cases streak[1]? <;> rfl

/-- The streaks hold the failures and nothing else. -/
theorem flatten_streaksFrom (streak : List ε) (results : List (Except ε α)) :
    (streaksFrom streak results).flatten = streak ++ failures results := by
  induction results generalizing streak with
  | nil => rw [streaksFrom, List.flatten_singleton, failures, List.filterMap_nil, List.append_nil]
  | cons result results ih =>
      cases result with
      | ok a =>
          rw [streaksFrom, List.flatten_cons, ih]
          rfl
      | error e =>
          rw [streaksFrom, ih, List.append_assoc]
          rfl

theorem flatten_streaks (results : List (Except ε α)) :
    (streaks results).flatten = failures results := flatten_streaksFrom [] results

theorem length_seconds (streaks : List (List ε)) :
    (seconds streaks).length = streaks.countP (2 ≤ ·.length) := by
  induction streaks with
  | nil => rfl
  | cons streak streaks ih =>
      have hstreak : streak[1]?.toList.length = if 2 ≤ streak.length then 1 else 0 := by
        match streak with
        | [] => rfl
        | [_] => rfl
        | _ :: _ :: rest => exact (if_pos (Nat.le_add_left 2 rest.length)).symm
      rw [seconds_cons, List.length_append, ih, hstreak, List.countP_cons, Nat.add_comm]
      simp

/-- A streak with a second failure has two failures at least. -/
theorem two_mul_length_seconds_le (streaks : List (List ε)) :
    2 * (seconds streaks).length ≤ streaks.flatten.length := by
  induction streaks with
  | nil => exact Nat.le_refl 0
  | cons streak streaks ih =>
      have hstreak : 2 * streak[1]?.toList.length ≤ streak.length := by
        match streak with
        | [] => exact Nat.le_refl 0
        | [_] => exact Nat.zero_le 1
        | _ :: _ :: rest => exact Nat.le_add_left 2 rest.length
      rw [seconds_cons, List.length_append, List.flatten_cons, List.length_append]
      omega

namespace Streak

/-- The streak after some results. -/
def after (streak : Streak) (results : List (Except ε α)) : Streak :=
  results.foldl (fun
    | streak, .error _ => streak.fail
    | streak, .ok _ => streak.succeed) streak

/-- The failures that are reported as the results come in. -/
def reported (streak : Streak) : List (Except ε α) → List ε
  | [] => []
  | .ok _ :: results => reported streak.succeed results
  | .error e :: results =>
    (if streak.fail.isReported then [e] else []) ++ reported streak.fail results

theorem after_append (s : Streak) (results results' : List (Except ε α)) :
    s.after (results ++ results') = (s.after results).after results' := List.foldl_append

theorem reported_append (s : Streak) (results results' : List (Except ε α)) :
    s.reported (results ++ results') = s.reported results
      ++ (s.after results).reported results' := by
  induction results generalizing s with
  | nil => rfl
  | cons result results ih =>
      cases result with
      | ok a => exact ih s.succeed
      | error e =>
          rw [List.cons_append, reported, ih, reported, List.append_assoc]
          rfl

/-- A failure is reported if the streak so far has one failure. -/
theorem isReported_fail_iff {s : Streak} {n : Nat} (h : s.length = min n Decimal.max32) :
    s.fail.isReported = true ↔ n = 1 := by
  have hmax : 2 < Decimal.max32 := by decide
  rw [isReported, beq_iff_eq, fail, h, reportedAt]
  show min (min n Decimal.max32 + 1) Decimal.max32 = 2 ↔ n = 1
  omega

theorem length_fail {s : Streak} {n : Nat} (h : s.length = min n Decimal.max32) :
    s.fail.length = min (n + 1) Decimal.max32 := by
  rw [fail, h]
  show min (min n Decimal.max32 + 1) Decimal.max32 = _
  omega

/-- At its bound the count stays as it is. -/
example : fail ⟨Decimal.max32⟩ = ⟨Decimal.max32⟩ := by decide

/-- One more failure is the second one if it is reported. -/
theorem second_append {streak : List ε} {s : Streak}
    (h : s.length = min streak.length Decimal.max32) (e : ε) :
    (streak ++ [e])[1]?.toList = streak[1]?.toList ++ if s.fail.isReported then [e] else [] := by
  have hreported := isReported_fail_iff h
  match streak with
  | [] => rw [if_neg fun hr => nomatch hreported.mp hr]; rfl
  | [a] => rw [if_pos (hreported.mpr rfl)]; rfl
  | a :: b :: rest =>
      rw [if_neg fun hr => by simpa using hreported.mp hr]
      rfl

/-- The second failures are the one of the streak so far and those that are reported. -/
theorem seconds_streaksFrom (streak : List ε) (s : Streak)
    (h : s.length = min streak.length Decimal.max32) (results : List (Except ε α)) :
    seconds (streaksFrom streak results) = streak[1]?.toList ++ s.reported results := by
  -- the streak and its count grow together, and begin anew with every success
  induction results generalizing streak s with
  | nil => exact seconds_cons streak []
  | cons result results ih =>
      cases result with
      | ok a =>
          rw [streaksFrom, seconds_cons, ih [] s.succeed (Nat.zero_min _).symm, reported]
          rfl
      | error e =>
          have hfail : s.fail.length = min (streak ++ [e]).length Decimal.max32 := by
            rw [List.length_append, List.length_singleton, length_fail h]
          rw [streaksFrom, ih (streak ++ [e]) s.fail hfail, second_append h e, reported,
            List.append_assoc]

/-- **The second failure of each streak is reported, and no other.** -/
theorem reported_eq_seconds (results : List (Except ε α)) :
    start.reported results = seconds (streaks results) :=
  (seconds_streaksFrom [] start (Nat.zero_min _).symm results).symm

end Streak

end HostAgent
