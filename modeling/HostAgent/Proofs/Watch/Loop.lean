import HostAgent.Proofs.Host.Part
import HostAgent.Watch.Cycle

set_option autoImplicit false

/-! # The agent's loop, cycle after cycle

A `Loop` is what lasts from one cycle of the agent to the next: the state of the watch loop and
the host. An `Occasion` is what one more cycle meets: a snapshot, the override file as it is
then, the domains whose operations are made to fail or not from then on, a reading of the clock,
and what is left to chance: the order in which the tasks take their turns, their numbers, and the
walk through the override file. The loops that can be reached are the runs of the loop `{}`, which
has seen no snapshot and works on a fresh host, over any list of occasions.
-/

namespace HostAgent

/-- What a cycle meets. -/
structure Occasion where
  snapshot : Snapshot
  /-- The override file. -/
  file : FileContents := .absent
  /-- The domains whose operations begin to fail, or cease to. -/
  toggles : List (String × Bool) := []
  now : Instant
  /-- The order in which the tasks take their turns. -/
  order : (domains : List (Domain Host)) → Interleaving domains := .scheduled
  /-- The order in which the override file is listed. -/
  walk : Ini.Walk := {}
  /-- The numbers of the tasks. -/
  numbers : Nat → Nat := (· + 1)

/-- The overrides that are in force in a cycle, the override file being at `path`. -/
def Occasion.overrides (path : String) (o : Occasion) : Overrides :=
  (Overrides.load path o.file o.walk).1

/-- An override file that gives the port of the cluster twice, under names that differ in case. -/
def twoPortsFile : FileContents := .bytes "[wsfc]\nport = 1\n[WSFC]\nport = 2".toUTF8.toList

/-- The walk that comes to the capitals last, and so to the second port. By default they come
first. -/
def capitalsLast : Ini.Walk where
  groups name := if name = "WSFC" then 1 else 0

/-- What lasts from one cycle to the next. -/
structure Loop where
  state : WatchState := {}
  host : Host := Host.fresh

namespace Loop

/-- The host as a cycle finds it. -/
def hostAt (l : Loop) (o : Occasion) : Host :=
  o.toggles.foldl (fun h toggle => h.setFailing toggle.1 toggle.2) l.host

/-- One cycle of the agent, the override file being at `path`. -/
def cycle (path : String) (l : Loop) (o : Occasion) : CycleDone :=
  l.state.cycle Registry.agent path ⟨l.hostAt o, o.file⟩ o.now o.snapshot
    (fun domains => (o.order domains).turns) o.walk o.numbers

/-- The loop after a cycle. -/
def next (path : String) (l : Loop) (o : Occasion) : Loop :=
  ⟨(l.cycle path o).state, (l.cycle path o).dispatched.host⟩

/-- The loop after a list of cycles. -/
def run (path : String) (l : Loop) (occasions : List Occasion) : Loop :=
  occasions.foldl (next path) l

/-- The cycles themselves. -/
def history (path : String) (l : Loop) : List Occasion → List CycleDone
  | [] => []
  | o :: occasions => l.cycle path o :: history path (l.next path o) occasions

theorem run_append (path : String) (l : Loop) (earlier later : List Occasion) :
    run path l (earlier ++ later) = run path (run path l earlier) later := List.foldl_append

/-! ## Histories -/

/-- The cycles so far do not depend on the ones to come. -/
theorem history_take (path : String) (l : Loop) (occasions : List Occasion) (k : Nat) :
    history path l (occasions.take k) = (history path l occasions).take k := by
  induction occasions generalizing l k with
  | nil => rw [List.take_nil, history, List.take_nil]
  | cons o occasions ih =>
      cases k with
      | zero => rfl
      | succ k => exact congrArg (l.cycle path o :: ·) (ih _ k)

/-! ## One cycle -/

theorem inputs_cycle (path : String) (l : Loop) (o : Occasion) :
    (l.cycle path o).inputs =
      ⟨l.state.previous, o.snapshot, o.overrides path, o.now⟩ := rfl

@[simp] theorem state_hostAt (l : Loop) (o : Occasion) : (l.hostAt o).state = l.host.state := by
  rw [hostAt]
  generalize l.host = h
  induction o.toggles generalizing h with
  | nil => rfl
  | cons toggle toggles ih => exact ih (h.setFailing toggle.1 toggle.2)

theorem failing_cycle (path : String) (l : Loop) (o : Occasion) :
    (l.cycle path o).dispatched.host.failing = (l.hostAt o).failing :=
  ((Part.addresses.owns (l.cycle path o).inputs _).view_dispatchIn (o.order _) rfl _ _).1

/-- A loop without failures has none after a cycle that no failure is injected into. -/
theorem failing_next (path : String) {l : Loop} {o : Occasion} (hl : l.host.failing = [])
    (ho : o.toggles = []) : (l.next path o).host.failing = [] := by
  rw [next, failing_cycle, hostAt, ho]
  exact hl

theorem failing_run (path : String) {l : Loop} {occasions : List Occasion}
    (hl : l.host.failing = []) (ho : ∀ o ∈ occasions, o.toggles = []) :
    (run path l occasions).host.failing = [] := by
  induction occasions generalizing l with
  | nil => exact hl
  | cons o occasions ih =>
      exact ih (failing_next path hl (ho o List.mem_cons_self))
        fun o' ho' => ho o' (List.mem_cons_of_mem o ho')

end Loop

namespace Part

variable {α : Type} (p : Part α)

/-- What a cycle does to a part of the record. -/
theorem view_cycle (path : String) (l : Loop) (o : Occasion) :
    p.view (l.cycle path o).dispatched.host.state =
      if p.applies (l.cycle path o).inputs = true
          ∧ p.name (l.cycle path o).inputs ∉ (l.hostAt o).failing
        then p.desired (l.cycle path o).inputs
      else p.view l.host.state := by
  rw [← l.state_hostAt o]
  exact p.view_dispatchIn (l.cycle path o).inputs (o.order _) (l.hostAt o) l.state.status
    o.numbers

/-- What a cycle does to a part of the record where nothing is made to fail. -/
theorem view_cycle_of_failing (path : String) {l : Loop} {o : Occasion}
    (hl : l.host.failing = []) (ho : o.toggles = []) :
    p.view (l.cycle path o).dispatched.host.state =
      if p.applies (l.cycle path o).inputs then p.desired (l.cycle path o).inputs
      else p.view l.host.state := by
  have hf : (l.hostAt o).failing = [] := by
    rw [Loop.hostAt, ho]
    exact hl
  rw [view_cycle, hf]
  simp

end Part

end HostAgent
