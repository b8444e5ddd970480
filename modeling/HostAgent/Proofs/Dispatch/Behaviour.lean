import HostAgent.Dispatch.Run

set_option autoImplicit false

/-! # The behaviour of a domain within a cycle

Each of the three calls of a domain ends in an answer or in a panic. Which calls are made and
what becomes of the domain follow from these ends by one table, in which neither another domain
nor an earlier cycle occurs. A domain whose `set` depends on the host has one behaviour for each
host that its `set` may find.
-/

namespace HostAgent

/-- Whether a question was answered by `b`; a panic is no answer. -/
def answers (b : Bool) : Except String Bool → Bool
  | .ok c => c == b
  | .error _ => false

/-- How the calls of a domain end within a cycle, each of them if it is made. -/
structure Behaviour where
  disabled : Except String Bool
  diff : Except String Bool
  set : Ending

namespace Behaviour

/-- Whether `diff` is called. -/
def asksDiff (b : Behaviour) : Bool := answers false b.disabled

/-- Whether `set` is called. -/
def attempts (b : Behaviour) : Bool := b.asksDiff && answers true b.diff

/-- How often each call is made. -/
def calls (b : Behaviour) : Calls := ⟨1, b.asksDiff.toNat, b.attempts.toNat⟩

/-- What becomes of the domain; the number of its task occurs in the text of a panic. -/
def outcome (b : Behaviour) (number : Nat) : Outcome :=
  match b.disabled, b.diff, b.set with
  | .error message, _, _ => .panicked (panicText number message)
  | .ok true, _, _ => .disabled
  | .ok false, .error message, _ => .panicked (panicText number message)
  | .ok false, .ok false, _ => .unchanged
  | .ok false, .ok true, .completed => .applied
  | .ok false, .ok true, .refused error => .failed error.message
  | .ok false, .ok true, .panicked message => .panicked (panicText number message)

/-- One of the calls that are made ends in a panic. -/
def Panics (b : Behaviour) : Prop :=
  (∃ message, b.disabled = .error message)
    ∨ (b.asksDiff ∧ ∃ message, b.diff = .error message)
    ∨ (b.attempts ∧ ∃ message, b.set = .panicked message)

/-- `set` is called, and the call ends in a panic. -/
def BreaksOff (b : Behaviour) : Prop :=
  b.attempts = true ∧ ∃ message, b.set = .panicked message

/-- The outcome is that of an attempt if `set` is called and comes to an end by itself. -/
theorem attempted_outcome_iff (b : Behaviour) (number : Nat) :
    (b.outcome number).attempted = true ↔ b.attempts = true ∧ ¬b.BreaksOff := by
  obtain ⟨disabled, diff, set⟩ := b
  rcases disabled with m | _ | _
  · simp [outcome, Outcome.attempted, attempts, asksDiff, answers]
  · rcases diff with m | _ | _
    · simp [outcome, Outcome.attempted, attempts, asksDiff, answers]
    · simp [outcome, Outcome.attempted, attempts, asksDiff, answers]
    · cases set <;> simp [outcome, Outcome.attempted, BreaksOff, attempts, asksDiff, answers]
  · simp [outcome, Outcome.attempted, attempts, asksDiff, answers]

theorem exists_outcome_eq_panicked_iff (b : Behaviour) (number : Nat) :
    (∃ text, b.outcome number = .panicked text) ↔ b.Panics := by
  obtain ⟨disabled, diff, set⟩ := b
  rcases disabled with m | _ | _
  · simp [outcome, Panics]
  · rcases diff with m | _ | _
    · simp [outcome, Panics, asksDiff, answers]
    · simp [outcome, Panics, asksDiff, attempts, answers]
    · cases set <;> simp [outcome, Panics, asksDiff, attempts, answers]
  · simp [outcome, Panics, asksDiff, attempts, answers]

end Behaviour

namespace Domain

variable {H : Type}

/-- The behaviour of a domain whose `set`, if it is called, finds the given host. -/
def behaviourAt (d : Domain H) (host : H) : Behaviour := ⟨d.disabled, d.diff, (d.set host).ending⟩

/-- The calls of a domain end as `b` says, whatever host its `set` finds. -/
def Behaves (d : Domain H) (b : Behaviour) : Prop := ∀ host, d.behaviourAt host = b

/-- Whether `set` is called. -/
def attempts (d : Domain H) : Bool := answers false d.disabled && answers true d.diff

/-- How often each call is made, whatever the application meets. -/
def calls (d : Domain H) : Calls := ⟨1, (answers false d.disabled).toNat, d.attempts.toNat⟩

theorem calls_behaviourAt (d : Domain H) (host : H) : (d.behaviourAt host).calls = d.calls := rfl

/-- The number of turns after which the task of a domain has ended. -/
def steps (d : Domain H) : Nat := 1 + (answers false d.disabled).toNat + d.attempts.toNat

theorem steps_pos (d : Domain H) : 0 < d.steps := by simp only [steps]; omega

theorem steps_le (d : Domain H) : d.steps ≤ 3 := by
  have h₁ := Bool.toNat_le (answers false d.disabled)
  have h₂ := Bool.toNat_le d.attempts
  simp only [steps]; omega

/-- What is unchanged is skipped. -/
theorem outcome_of_unchanged {d : Domain H} {disabled : Bool} (hd : d.disabled = .ok disabled)
    (hc : d.diff = .ok false) (host : H) (number : Nat) :
    (d.behaviourAt host).outcome number = if disabled then .disabled else .unchanged := by
  rw [behaviourAt, hd, hc]
  cases disabled with
  | true => rfl
  | false => rfl

/-! ## Domains that do not panic -/

/-- None of the calls of a domain panics. -/
structure NeverPanics (d : Domain H) : Prop where
  disabled : ∃ answer, d.disabled = .ok answer
  diff : ∃ answer, d.diff = .ok answer
  set : ∀ host message, (d.set host).ending ≠ .panicked message

namespace NeverPanics

variable {d : Domain H}

/-- The outcome of a domain that does not panic tells whether its application was called. -/
theorem attempted_outcome (h : d.NeverPanics) (host : H) (number : Nat) :
    ((d.behaviourAt host).outcome number).attempted = d.attempts := by
  have hends : ¬(d.behaviourAt host).BreaksOff := fun ⟨_, message, hpanic⟩ =>
    h.set host message hpanic
  rw [Bool.eq_iff_iff, Behaviour.attempted_outcome_iff]
  exact and_iff_left hends

/-- The number of its task does not show. -/
theorem outcome_eq (h : d.NeverPanics) (host : H) (number number' : Nat) :
    (d.behaviourAt host).outcome number = (d.behaviourAt host).outcome number' := by
  obtain ⟨disabled, hdisabled⟩ := h.disabled
  obtain ⟨diff, hdiff⟩ := h.diff
  cases hset : (d.set host).ending with
  | panicked message => exact absurd hset (h.set host message)
  | completed | refused =>
      rw [behaviourAt, hdisabled, hdiff, hset]
      cases disabled <;> cases diff <;> rfl

end NeverPanics

end Domain

end HostAgent
