import HostAgent.Proofs.Dispatch.Interleaving

set_option autoImplicit false

/-! # The contract of a dispatch

A dispatch returns one outcome for every registered domain, in the order of registration. The
outcome and the calls of a domain are those of its own behaviour, `Behaviour.outcome` and
`Behaviour.calls`: they are the same under every interleaving of the tasks, whatever the other
domains do and whatever earlier dispatches left behind (`outcomes_and_calls_of_behaviour`).
-/

namespace HostAgent

variable {S H : Type}

theorem map_some_filterMap {α β : Type} {f : α → Option β} {l : List α}
    (h : ∀ a ∈ l, (f a).isSome) : (l.filterMap f).map some = l.map f := by
  induction l with
  | nil => rfl
  | cons a l ih =>
      obtain ⟨b, hb⟩ := Option.isSome_iff_exists.mp (h a List.mem_cons_self)
      rw [List.filterMap_cons_some hb, List.map_cons, List.map_cons, hb,
        ih fun a' ha' => h a' (List.mem_cons_of_mem a ha')]

namespace Dispatched

/-- The calls of an interleaving by domain, and their number. -/
theorem calls_dispatchIn {domains : List (Domain H)} (order : Interleaving domains) (host : H)
    (status : Dict Bool) (numbers : Nat → Nat) :
    (dispatchIn order.turns domains host status numbers).calls
      = ((Cycle.start domains host status numbers).run order.turns).tasks.map (·.calls) := rfl

/-- The report lists the outcomes of all tasks. -/
theorem map_some_outcomes {domains : List (Domain H)} (order : Interleaving domains) (host : H)
    (status : Dict Bool) (numbers : Nat → Nat) :
    (dispatchIn order.turns domains host status numbers).report.outcomes.map some
      = ((Cycle.start domains host status numbers).run order.turns).tasks.map
          fun t => t.outcome?.map (t.domain.name, ·) := by
  refine map_some_filterMap fun t ht => ?_
  rw [Option.isSome_map]
  exact Cycle.isSome_outcome_of_mem order host status numbers ht

theorem length_outcomes {domains : List (Domain H)} (order : Interleaving domains) (host : H)
    (status : Dict Bool) (numbers : Nat → Nat) :
    (dispatchIn order.turns domains host status numbers).report.outcomes.length
        = domains.length := by
  have h := congrArg List.length (map_some_outcomes order host status numbers)
  simpa [Cycle.start] using h

theorem length_calls {domains : List (Domain H)} (order : Interleaving domains) (host : H)
    (status : Dict Bool) (numbers : Nat → Nat) :
    (dispatchIn order.turns domains host status numbers).calls.length = domains.length := by
  simp [calls_dispatchIn, Cycle.start]

/-- A domain's outcome and calls are those of its behaviour at the host that its `set` finds. -/
theorem exists_behaviour {domains : List (Domain H)} (order : Interleaving domains) (host : H)
    (status : Dict Bool) (numbers : Nat → Nat) {i : Nat} {d : Domain H} (h : domains[i]? = some d) :
    ∃ found,
      (dispatchIn order.turns domains host status numbers).report.outcomes[i]?
          = some (d.name, (d.behaviourAt found).outcome (numbers i))
        ∧ (dispatchIn order.turns domains host status numbers).calls[i]?
          = some (d.behaviourAt found).calls := by
  obtain ⟨t, ht, rfl, found, ho, hc⟩ := Cycle.exists_ended domains host status numbers order h
  refine ⟨found, ?_, ?_⟩
  · have hi := congrArg (·[i]?) (map_some_outcomes order host status numbers)
    simp only [List.getElem?_map, ht, Option.map_some, ho] at hi
    obtain ⟨entry, he, heq⟩ := Option.map_eq_some_iff.mp hi
    rw [he, Option.some.inj heq]
  · rw [calls_dispatchIn, List.getElem?_map, ht, Option.map_some, hc]

/-- Which calls are made does not depend on the host. -/
theorem calls_eq_map {domains : List (Domain H)} (order : Interleaving domains) (host : H)
    (status : Dict Bool) (numbers : Nat → Nat) :
    (dispatchIn order.turns domains host status numbers).calls = domains.map Domain.calls := by
  refine List.ext_getElem? fun i => ?_
  rw [List.getElem?_map]
  cases hd : domains[i]? with
  | some d =>
      obtain ⟨found, -, hc⟩ := exists_behaviour order host status numbers hd
      rw [hc, Domain.calls_behaviourAt]
      rfl
  | none =>
      rw [List.getElem?_eq_none_iff, ← length_calls order host status numbers] at hd
      rw [List.getElem?_eq_none_iff.mpr hd]
      rfl

/-- Every domain has its outcome in the report, under its name. -/
theorem names_outcomes {domains : List (Domain H)} (order : Interleaving domains) (host : H)
    (status : Dict Bool) (numbers : Nat → Nat) :
    (dispatchIn order.turns domains host status numbers).report.outcomes.map (·.1)
      = domains.map (·.name) := by
  refine List.ext_getElem? fun i => ?_
  rw [List.getElem?_map, List.getElem?_map]
  cases hd : domains[i]? with
  | some d =>
      obtain ⟨found, ho, -⟩ := exists_behaviour order host status numbers hd
      rw [ho]
      rfl
  | none =>
      rw [List.getElem?_eq_none_iff, ← length_outcomes order host status numbers] at hd
      rw [List.getElem?_eq_none_iff.mpr hd]
      rfl

end Dispatched

/-! ## Dispatches one after another -/

/-- One of the dispatches of a registry: what its domains are built from, the order in which their
tasks take turns, and the numbers of the tasks. -/
structure Round (registry : Registry S H) where
  inputs : Inputs S
  order : Interleaving (registry.instantiate inputs)
  numbers : Nat → Nat := (· + 1)

/-- The dispatches of a registry one after another. Each finds the host and the status memory as
the one before left them. -/
def dispatches (registry : Registry S H) (host : H) (status : Dict Bool) :
    List (Round registry) → List (Dispatched H)
  | [] => []
  | r :: rounds =>
    let done := dispatchIn r.order.turns (registry.instantiate r.inputs) host status r.numbers
    done :: dispatches registry done.host done.status rounds

theorem length_dispatches (registry : Registry S H) (host : H) (status : Dict Bool)
    (rounds : List (Round registry)) :
    (dispatches registry host status rounds).length = rounds.length := by
  induction rounds generalizing host status with
  | nil => rfl
  | cons r rounds ih => exact congrArg (· + 1) (ih _ _)

/-- Each dispatch of a run is a dispatch from some host and some status memory. -/
theorem exists_getElem?_dispatches (registry : Registry S H) (host : H) (status : Dict Bool)
    (rounds : List (Round registry)) {k : Nat} {r : Round registry} (h : rounds[k]? = some r) :
    ∃ host' status', (dispatches registry host status rounds)[k]?
      = some (dispatchIn r.order.turns (registry.instantiate r.inputs) host' status'
        r.numbers) := by
  induction rounds generalizing host status k with
  | nil => cases h
  | cons r' rounds ih =>
      cases k with
      | zero =>
          obtain rfl : r' = r := Option.some.inj h
          exact ⟨host, status, rfl⟩
      | succ k => exact ih _ _ h

/-- **A dispatch returns one outcome for every registered domain, in the order of registration,
and outcome and calls of a domain are determined by its own behaviour alone.** This holds for
every registry, every number of dispatches, every interleaving of the tasks in each of them and
whatever numbers the tasks are given: the text of a panic shows the number, and nothing else does.
A domain whose `set` ends in different ways on different hosts behaves as it does on the host
that its `set` finds. -/
theorem outcomes_and_calls_of_behaviour (registry : Registry S H) (host : H)
    (status : Dict Bool) (rounds : List (Round registry)) :
    (dispatches registry host status rounds).length = rounds.length
      ∧ ∀ (k : Nat) (r : Round registry), rounds[k]? = some r →
        ∃ done, (dispatches registry host status rounds)[k]? = some done
          ∧ done.report.outcomes.length = registry.length
          ∧ done.calls.length = registry.length
          ∧ ∀ (i : Nat) (d : Domain H), (registry.instantiate r.inputs)[i]? = some d →
            (∃ found,
              done.report.outcomes[i]? = some (d.name, (d.behaviourAt found).outcome (r.numbers i))
                ∧ done.calls[i]? = some (d.behaviourAt found).calls)
            ∧ ∀ b : Behaviour, d.Behaves b →
              done.report.outcomes[i]? = some (d.name, b.outcome (r.numbers i))
                ∧ done.calls[i]? = some b.calls
                ∧ ((∃ text, b.outcome (r.numbers i) = .panicked text) ↔ b.Panics) := by
  refine ⟨length_dispatches registry host status rounds, fun k r hr => ?_⟩
  obtain ⟨host', status', hdone⟩ := exists_getElem?_dispatches registry host status rounds hr
  have hlength : (registry.instantiate r.inputs).length = registry.length := List.length_map _
  refine ⟨_, hdone, ?_, ?_, fun i d hd => ?_⟩
  · rw [Dispatched.length_outcomes, hlength]
  · rw [Dispatched.length_calls, hlength]
  · obtain ⟨found, ho, hc⟩ := Dispatched.exists_behaviour r.order host' status' r.numbers hd
    refine ⟨⟨found, ho, hc⟩, fun b hb => ?_⟩
    rw [hb found] at ho hc
    exact ⟨ho, hc, b.exists_outcome_eq_panicked_iff (r.numbers i)⟩

/-- Domains of all kinds beside one that is refused after a while. -/
def mixedRegistry : Registry Unit Nat := [
  ⟨"broken", fun _ =>
    ⟨"broken", .error "no switch", .ok true, 0, fun host => ⟨.completed, host, []⟩⟩⟩,
  ⟨"refused", fun _ =>
    ⟨"refused", .ok false, .ok true, 5, fun host => ⟨.refused (.host "busy"), host, []⟩⟩⟩,
  ⟨"crashing", fun _ =>
    ⟨"crashing", .ok false, .ok true, 2, fun host => ⟨.panicked "out of range", host, []⟩⟩⟩,
  ⟨"counter", fun _ =>
    ⟨"counter", .ok false, .ok true, 0, fun host => ⟨.completed, host + 1, []⟩⟩⟩]

/-- A dispatch of these domains, in the order of the schedule or backwards. -/
def mixedRound (backwards : Bool) : Round mixedRegistry :=
  let inputs : Inputs Unit := ⟨(), (), ∅, ⟨0, 0⟩⟩
  let order := Interleaving.scheduled (mixedRegistry.instantiate inputs)
  { inputs, order := if backwards then order.reversed else order }

/-- The second dispatch of the domain that is refused. -/
theorem outcome_and_calls_of_refused_domain :
    ∃ d done, [mixedRound false, mixedRound true][1]? = some (mixedRound true)
      ∧ (mixedRegistry.instantiate (mixedRound true).inputs)[1]? = some d
      ∧ d.Behaves ⟨.ok false, .ok true, .refused (.host "busy")⟩
      ∧ (dispatches mixedRegistry 0 ∅ [mixedRound false, mixedRound true])[1]? = some done
      ∧ done.report.outcomes[1]? = some ("refused", .failed (ApplyError.host "busy").message)
      ∧ done.calls[1]? = some ⟨1, 1, 1⟩ := by
  obtain ⟨-, hall⟩ := outcomes_and_calls_of_behaviour mixedRegistry 0 ∅
    [mixedRound false, mixedRound true]
  obtain ⟨done, hdone, -, -, hdomains⟩ := hall 1 (mixedRound true) rfl
  have hb : Domain.Behaves (H := Nat) ⟨"refused", .ok false, .ok true, 5, fun host =>
      ⟨.refused (.host "busy"), host, []⟩⟩ ⟨.ok false, .ok true, .refused (.host "busy")⟩ :=
    fun _ => rfl
  obtain ⟨ho, hc, -⟩ := (hdomains 1 _ rfl).2 _ hb
  exact ⟨_, done, rfl, rfl, hb, hdone, ho, hc⟩

end HostAgent
