import HostAgent.Proofs.Dispatch.Contract

set_option autoImplicit false

/-! # Outcomes and calls of `set`

An outcome that counts as an attempt comes from a call of `set`, but a call of `set` that ends in
a panic leaves an outcome that does not count as one. `attempted_iff_called_iff` says of every
dispatch of every run that this is the only case in which the outcome of a domain does not tell
whether its `set` was called; `panicked_call_not_attempted` is a domain for which it does not.
-/

namespace HostAgent

variable {S H : Type}

theorem Behaviour.set_calls_eq_one_iff (b : Behaviour) : b.calls.set = 1 ↔ b.attempts = true :=
  Bool.toNat_eq_one

/-- **The outcome of a domain tells whether its `set` was called, unless that call ended in a
panic.** This holds for every registry, in each of any number of dispatches and under every
interleaving of the tasks. An outcome that counts as an attempt always comes from one call of `set`;
what is missing among the attempts are the calls that break off. -/
theorem attempted_iff_called_iff (registry : Registry S H) (host : H) (status : Dict Bool)
    (rounds : List (Round registry)) {k : Nat} {r : Round registry} (hr : rounds[k]? = some r)
    {i : Nat} {d : Domain H} (hd : (registry.instantiate r.inputs)[i]? = some d) :
    ∃ done outcome calls found, (dispatches registry host status rounds)[k]? = some done
      ∧ done.report.outcomes[i]? = some (d.name, outcome)
      ∧ done.calls[i]? = some calls
      ∧ outcome = (d.behaviourAt found).outcome (r.numbers i)
      ∧ (outcome.attempted = true → calls.set = 1)
      ∧ ((outcome.attempted = true ↔ calls.set = 1) ↔ ¬(d.behaviourAt found).BreaksOff) := by
  obtain ⟨host', status', hdone⟩ := exists_getElem?_dispatches registry host status rounds hr
  obtain ⟨found, ho, hc⟩ := Dispatched.exists_behaviour r.order host' status' r.numbers hd
  refine ⟨_, _, _, found, hdone, ho, hc, rfl, ?_, ?_⟩
  · rw [Behaviour.attempted_outcome_iff, Behaviour.set_calls_eq_one_iff]
    exact And.left
  · rw [Behaviour.attempted_outcome_iff, Behaviour.set_calls_eq_one_iff]
    constructor
    · rintro hiff ⟨hattempts, hpanic⟩
      exact (hiff.mpr hattempts).2 ⟨hattempts, hpanic⟩
    · intro hends
      exact and_iff_left hends

/-- The domain that is refused in the second of two dispatches, beside one whose `set` panics. -/
theorem attempted_iff_called_of_refused_domain :
    ∃ d done outcome calls, [mixedRound false, mixedRound true][1]? = some (mixedRound true)
      ∧ (mixedRegistry.instantiate (mixedRound true).inputs)[1]? = some d
      ∧ (dispatches mixedRegistry 0 ∅ [mixedRound false, mixedRound true])[1]? = some done
      ∧ done.report.outcomes[1]? = some ("refused", outcome)
      ∧ done.calls[1]? = some calls
      ∧ (outcome.attempted = true ↔ calls.set = 1) := by
  obtain ⟨done, outcome, calls, found, hdone, ho, hc, -, -, hiff⟩ :=
    attempted_iff_called_iff mixedRegistry 0 ∅ [mixedRound false, mixedRound true]
      (k := 1) rfl (i := 1) rfl
  refine ⟨_, done, outcome, calls, rfl, rfl, hdone, ho, hc, hiff.mpr ?_⟩
  rintro ⟨-, message, hpanic⟩
  nomatch hpanic

/-- **A call of `set` that ends in a panic does not count as an attempt.** In the first dispatch of
these domains the `set` of the third one is called once. -/
theorem panicked_call_not_attempted :
    ¬∀ done ∈ dispatches mixedRegistry 0 ∅ [mixedRound false],
      ∀ entry ∈ done.report.outcomes.zip done.calls,
        (entry.1.2.attempted = true ↔ entry.2.set = 1) := by
  decide +kernel

end HostAgent
