import HostAgent.Proofs.Fetch.Streak
import Mathlib.Algebra.Ring.Nat
import Mathlib.Data.List.DropRight
import Mathlib.Data.List.Nodup

set_option autoImplicit false

/-! # Streaks of any length

The count of a streak has thirty-two bits and stops growing where they end, so that a long streak is
never taken for a new one. Here results of any number come in, one after another. The count is the
number of failures since the last success, or the bound if there are more (`Streak.length_after`),
and a failure is answered that it is to be reported if exactly one comes before it in its streak
(`Streak.answer_after`). In one streak this is said once at most
(`Streak.count_answers_asResults_le`).

What a streak is does not depend on the count: the failures since the last success are those that
`List.rtakeWhile` takes from the end, and the streaks are the pieces into which `List.splitOnP`
cuts the results at their successes (`map_asResults_streaks`).
-/

namespace HostAgent

variable {ε α : Type}

/-! ## Streaks as parts of the results -/

/-- Failures in a row, as results. -/
def asResults (α : Type) (row : List ε) : List (Except ε α) := row.map .error

theorem isOk_of_mem_asResults (row : List ε) : ∀ result ∈ asResults α row, result.isOk = false := by
  intro result h
  obtain ⟨e, -, rfl⟩ := List.mem_map.mp h
  rfl

/-- The failures since the last success, or all of them if there is none. -/
def sinceSuccess (results : List (Except ε α)) : List (Except ε α) :=
  results.rtakeWhile fun result => !result.isOk

theorem sinceSuccess_concat_ok (results : List (Except ε α)) (a : α) :
    sinceSuccess (results ++ [.ok a]) = [] :=
  List.rtakeWhile_concat_neg _ _ _ nofun

theorem sinceSuccess_concat_error (results : List (Except ε α)) (e : ε) :
    sinceSuccess (results ++ [.error e]) = sinceSuccess results ++ [.error e] :=
  List.rtakeWhile_concat_pos _ _ _ rfl

/-- The streaks that come after the failures of a streak are the pieces of both together. -/
theorem map_asResults_streaksFrom (streak : List ε) (results : List (Except ε α)) :
    (streaksFrom streak results).map (asResults α)
      = (asResults α streak ++ results).splitOnP Except.isOk := by
  induction results generalizing streak with
  | nil =>
      rw [List.append_nil, List.splitOnP_eq_singleton (isOk_of_mem_asResults streak)]
      rfl
  | cons result results ih =>
      cases result with
      | ok a =>
          rw [streaksFrom, List.map_cons, ih [],
            List.splitOnP_append_cons_of_forall_mem (isOk_of_mem_asResults streak) (.ok a) rfl]
          rfl
      | error e =>
          have hstreak : asResults α (streak ++ [e]) = asResults α streak ++ [.error e] :=
            List.map_append
          rw [streaksFrom, ih (streak ++ [e]), hstreak, List.append_assoc]
          rfl

/-- **The streaks are the pieces of the results between one success and the next.** -/
theorem map_asResults_streaks (results : List (Except ε α)) :
    (streaks results).map (asResults α) = results.splitOnP Except.isOk :=
  map_asResults_streaksFrom [] results

/-- There are as many streaks of two failures or more as there are such pieces. -/
theorem countP_streaks (results : List (Except ε α)) :
    (streaks results).countP (2 ≤ ·.length)
      = (results.splitOnP Except.isOk).countP (2 ≤ ·.length) := by
  have hlength : ∀ streak : List ε, (asResults α streak).length = streak.length :=
    fun _ => List.length_map _
  rw [← map_asResults_streaks, List.countP_map]
  simp only [Function.comp_def, hlength]

namespace Streak

/-! ## The count -/

/-- The count is the number of failures since the last success, up to its bound. -/
theorem length_after (results : List (Except ε α)) :
    (start.after results).length = min (sinceSuccess results).length Decimal.max32 := by
  -- the results grow at their end, where a success begins the count anew
  induction results using List.reverseRecOn with
  | nil => exact (Nat.zero_min _).symm
  | append_singleton results result ih =>
      rw [after_append]
      cases result with
      | ok a =>
          rw [sinceSuccess_concat_ok]
          exact (Nat.zero_min _).symm
      | error e =>
          rw [sinceSuccess_concat_error, List.length_append, List.length_singleton]
          exact length_fail ih

/-! ## The answers -/

/-- The answer to one more result: of a failure, whether it is to be reported. -/
def answer (s : Streak) : Except ε α → Option Bool
  | .error _ => some s.fail.isReported
  | .ok _ => none

/-- The answers to some results as they come in. -/
def answers (s : Streak) : List (Except ε α) → List (Option Bool)
  | [] => []
  | result :: results => s.answer result :: answers (s.after [result]) results

/-- Every result is answered by the streak after those before it. -/
theorem getElem?_answers (s : Streak) (results : List (Except ε α)) (i : Nat) :
    (s.answers results)[i]? = results[i]?.map (s.after (results.take i)).answer := by
  induction results generalizing s i with
  | nil => rfl
  | cons result results ih =>
      cases i with
      | zero => rfl
      | succ i => exact ih (s.after [result]) i

/-- A failure is to be reported if exactly one comes before it in its streak. -/
theorem answer_after (results : List (Except ε α)) :
    (start.after results).answer = fun
      | .error (_ : ε) => some (decide ((sinceSuccess results).length = 1))
      | .ok (_ : α) => none := by
  have hreported := isReported_fail_iff (length_after results)
  funext result
  cases result with
  | ok a => rfl
  | error e => exact congrArg some (Bool.eq_iff_iff.mpr (hreported.trans decide_eq_true_iff.symm))

/-- Failures in a row that come after `n` others of their streak have the numbers that follow, and
the failure with the number two is to be reported. -/
theorem answers_asResults {s : Streak} {n : Nat} (h : s.length = min n Decimal.max32)
    (row : List ε) :
    s.answers (asResults α row)
      = (List.range' (n + 1) row.length).map fun number => some (number == 2) := by
  induction row generalizing s n with
  | nil => rfl
  | cons e row ih =>
      have hreported : s.fail.isReported = (n + 1 == 2) := by
        rw [Bool.eq_iff_iff, isReported_fail_iff h]
        simp
      calc s.answers (asResults α (e :: row))
          = some s.fail.isReported :: s.fail.answers (asResults α row) := rfl
        _ = some (n + 1 == 2)
            :: (List.range' (n + 1 + 1) row.length).map fun number => some (number == 2) := by
            rw [hreported, ih (length_fail h)]
        _ = (List.range' (n + 1) (e :: row).length).map fun number => some (number == 2) := by
            rw [List.length_cons, List.range'_succ, List.map_cons]

/-- In one streak a failure is to be reported once at most. -/
theorem count_answers_asResults_le {s : Streak} {n : Nat} (h : s.length = min n Decimal.max32)
    (row : List ε) : (s.answers (asResults α row)).count (some true) ≤ 1 := by
  -- the numbers of the failures are distinct, so one of them at most is two
  have hcount : (s.answers (asResults α row)).count (some true)
      = (List.range' (n + 1) row.length).count 2 := by
    rw [answers_asResults h, List.count, List.countP_map, List.count]
    congr 1
    funext number
    simp
  rw [hcount]
  exact List.nodup_iff_count_le_one.mp (List.nodup_range' 1) 2

/-- As many failures are reported as are answered that they are to be. -/
theorem count_answers (s : Streak) (results : List (Except ε α)) :
    (s.answers results).count (some true) = (s.reported results).length := by
  induction results generalizing s with
  | nil => rfl
  | cons result results ih =>
      have hresult : [s.answer result].count (some true) = (s.reported [result]).length := by
        cases result with
        | ok a => rfl
        | error e => cases h : s.fail.isReported <;> simp [answer, reported, h]
      have hreported : s.reported (result :: results)
          = s.reported [result] ++ (s.after [result]).reported results :=
        reported_append s [result] results
      rw [hreported, List.length_append, ← ih, ← hresult, ← List.count_append]
      rfl

/-- **The count never wraps, and only the second failure of a streak is to be reported.** This holds
of results of any number.

The count is the smaller of the largest number of thirty-two bits and the number of failures since
the last success or the start. Each failure is answered that it is to be reported if exactly one
failure comes between it and the last success before it or the start. So of failures in a row,
however many and whatever came before, one at most is answered so. In all there are as many such
answers as there are streaks of two failures or more between the successes. -/
theorem length_and_answers_of_results (results : List (Except ε α)) :
    (start.after results).length = min (2 ^ 32 - 1) (sinceSuccess results).length
    ∧ (∀ i : Nat, (start.answers results)[i]? = results[i]?.map fun
      | .error _ => some (decide ((sinceSuccess (results.take i)).length = 1))
      | .ok _ => none)
    ∧ (∀ row : List ε, ((start.after results).answers (asResults α row)).count (some true) ≤ 1)
    ∧ (start.answers results).count (some true)
      = (results.splitOnP Except.isOk).countP (2 ≤ ·.length) := by
  refine ⟨?_, fun i => ?_, fun row => ?_, ?_⟩
  · rw [length_after, Nat.min_comm]
    rfl
  · rw [getElem?_answers, answer_after]
  · exact count_answers_asResults_le (length_after results) row
  · rw [count_answers, reported_eq_seconds, length_seconds, countP_streaks]

end Streak

end HostAgent
