import Mathlib.Data.List.Destutter
import HostAgent.Proofs.Dispatch.Contract
import HostAgent.Proofs.Dispatch.Log
import HostAgent.Proofs.Dispatch.Ownership
import HostAgent.Proofs.Domain.Reports

set_option autoImplicit false

/-! # The status lines of a dispatcher

A dispatch reports the switch of a domain if it is not the one that was reported last. The memory
that this rests on is shared by all tasks of a dispatch and handed on to the next dispatch.

What a domain has told so far is its `Task.seen`: nothing before the first move of its task, and
nothing if that move ends in a panic. `Shared.Told` ties the memory and the log to it, for one name
at a time. A move of a task keeps this for its own name and for every other (`Task.Move.told`), so
it holds after every interleaving. Over a run of dispatches the memory is then the switch told last,
and the lines of a domain are the switches that it told, with consecutive repetitions left out
(`status_lines_of_observations`).
-/

namespace HostAgent

variable {S H : Type}

/-! ## Lines -/

/-- The switch that an event reports of the named domain, if it is a status line of that domain. -/
def Event.status? (name : String) (e : Event) : Option Bool :=
  [true, false].find? fun disabled => e = Shared.statusEvent name disabled

/-- The switches that the status lines of the named domain show in a log. -/
def statusLines (name : String) (log : List Timed) : List Bool :=
  log.filterMap fun entry => entry.2.status? name

/-- The applications of a domain report no status lines. These are reported in the name of the
dispatcher, not of a domain. -/
def Domain.ForgesNoStatus (d : Domain H) : Prop :=
  ∀ host, ∀ e ∈ (d.set host).log, ∀ name, e.status? name = none

/-- A status line names its domain and its switch. -/
theorem Event.status?_statusEvent (name own : String) (disabled : Bool) :
    (Shared.statusEvent own disabled).status? name
      = if own = name then some disabled else none := by
  by_cases h : own = name
  · subst h
    cases disabled <;> simp [status?, Shared.statusEvent]
  · cases disabled <;> simp [status?, Shared.statusEvent, h]

theorem Event.status?_eq_none {e : Event} {name : String}
    (h : ∀ disabled, e ≠ Shared.statusEvent name disabled) : e.status? name = none := by
  rw [status?, List.find?_eq_none]
  intro disabled _ heq
  exact h disabled (of_decide_eq_true heq)

/-- An event with other fields is no status line. -/
theorem Event.status?_of_fields {e : Event} (h : e.fields.map (·.1) ≠ ["domain", "status"])
    (name : String) : e.status? name = none := by
  refine status?_eq_none fun disabled => ?_
  rintro rfl
  exact h rfl

theorem statusLines_report (name : String) (s : Shared H) (time : Nat) (log : Log) :
    statusLines name (s.report time log).log
      = statusLines name s.log ++ log.filterMap (Event.status? name) := by
  rw [Shared.report, statusLines, List.filterMap_append, List.filterMap_map]
  rfl

/-- Reports without status lines add none. -/
theorem statusLines_report_of_none {name : String} {log : Log}
    (h : ∀ e ∈ log, e.status? name = none) (s : Shared H) (time : Nat) :
    statusLines name (s.report time log).log = statusLines name s.log := by
  rw [statusLines_report, List.filterMap_eq_nil_iff.mpr h, List.append_nil]

/-! ## What is told -/

/-- The lines that a switch leads to where `before` was told last. -/
def announced (before seen : Option Bool) : List Bool :=
  (seen.filter fun disabled => some disabled ≠ before).toList

theorem announced_self (disabled : Bool) : announced (some disabled) (some disabled) = [] := by
  simp [announced]

theorem announced_of_ne {before : Option Bool} {disabled : Bool} (h : before ≠ some disabled) :
    announced before (some disabled) = [disabled] := by
  simp [announced, Ne.symm h]

theorem announced_eq_singleton_iff {before seen : Option Bool} {disabled : Bool} :
    announced before seen = [disabled] ↔ seen = some disabled ∧ before ≠ some disabled := by
  cases seen with
  | none => simp [announced]
  | some own =>
      by_cases hsame : before = some own
      · rw [hsame, announced_self]
        simp
      · rw [announced_of_ne hsame, List.cons.injEq, Option.some.injEq]
        constructor
        · rintro ⟨rfl, -⟩
          exact ⟨rfl, hsame⟩
        · rintro ⟨rfl, -⟩
          exact ⟨rfl, rfl⟩

theorem length_announced_le (before seen : Option Bool) : (announced before seen).length ≤ 1 := by
  rw [announced]
  cases seen.filter _ <;> simp

/-- A switch is announced exactly if it does not repeat the one before. -/
theorem destutter_of_announced {before seen : Option Bool} {later lines : List Bool}
    (h : ((seen.or before).toList ++ later).destutter (· ≠ ·) = (seen.or before).toList ++ lines) :
    (before.toList ++ (seen.toList ++ later)).destutter (· ≠ ·)
      = before.toList ++ (announced before seen ++ lines) := by
  cases seen with
  | none => exact h
  | some disabled =>
      have hlater : later.destutter' (· ≠ ·) disabled = disabled :: lines := h
      cases before with
      | none => exact h
      | some last =>
          show (last :: disabled :: later).destutter (· ≠ ·) = last :: (_ ++ lines)
          rw [List.destutter_cons_cons]
          by_cases hsame : last = disabled
          · subst hsame
            rw [if_neg (not_not_intro rfl), hlater, announced_self]
            rfl
          · have hnew : some last ≠ some disabled := fun h => hsame (Option.some.inj h)
            rw [if_pos hsame, hlater, announced_of_ne hnew]
            rfl

/-- The switch that a domain tells. A domain that breaks off tells none. -/
def Domain.seen (d : Domain H) : Option Bool := d.disabled.toOption

/-- The switch that a task has told. -/
def Task.seen (t : Task H) : Option Bool :=
  match t.stage with
  | .ready => none
  | _ => t.domain.seen

namespace Shared

/-- What the tasks share after the named domain has told `seen`, in a dispatch that found the
memory `status` and an empty log. -/
structure Told (status : Dict Bool) (name : String) (seen : Option Bool) (s : Shared H) : Prop where
  noted : s.status.get? name = seen.or (status.get? name)
  lines : statusLines name s.log = announced (status.get? name) seen

variable {s : Shared H}

theorem status_observe (s : Shared H) (time : Nat) (name : String) (disabled : Bool) :
    (s.observe time name disabled).status = s.status.insert name disabled := by
  rw [observe]
  split
  · rfl
  · rfl

/-- Taking note of the switch of a domain leaves the lines of the others alone. -/
theorem statusLines_observe_of_ne {name own : String} (h : name ≠ own) (time : Nat)
    (disabled : Bool) :
    statusLines name (s.observe time own disabled).log = statusLines name s.log := by
  rw [observe]
  split
  · rfl
  · refine statusLines_report_of_none (fun e he => ?_) _ time
    obtain rfl := List.mem_singleton.mp he
    rw [Event.status?_statusEvent, if_neg h.symm]

/-- Taking note of the switch of a domain adds a line if it is not the one noted last. -/
theorem statusLines_observe (name : String) (time : Nat) (disabled : Bool) :
    statusLines name (s.observe time name disabled).log
      = statusLines name s.log ++ announced (s.status.get? name) (some disabled) := by
  rw [observe]
  split
  · next hsame =>
    rw [hsame, announced_self, List.append_nil]
  · next hnew =>
    rw [statusLines_report, announced_of_ne hnew, List.filterMap_cons, Event.status?_statusEvent,
      if_pos rfl]
    rfl

end Shared

namespace Task.Move

variable {time : Nat} {t t' : Task H} {s s' : Shared H}

/-- A task tells its switch in its first move, and no other move reaches the memory or the lines. -/
theorem seen_cases (h : Move time t s t' s') (hforges : t.domain.ForgesNoStatus) :
    (t'.seen = t.seen ∧ s'.status = s.status
        ∧ ∀ name, statusLines name s'.log = statusLines name s.log)
      ∨ ∃ disabled, t.seen = none ∧ t'.seen = some disabled
        ∧ s' = s.observe time t.domain.name disabled := by
  have hstart : ∀ own : String, ∀ e ∈ [startEvent own], ∀ name, e.status? name = none := by
    intro own e he name
    obtain rfl := List.mem_singleton.mp he
    exact Event.status?_of_fields (by simp [startEvent]) name
  have hrefusal : ∀ own error, ∀ e ∈ [refusalEvent own error], ∀ name, e.status? name = none := by
    intro own error e he name
    obtain rfl := List.mem_singleton.mp he
    exact Event.status?_of_fields (by simp [refusalEvent]) name
  cases h with
  | disabledPanics hd =>
      refine .inl ⟨?_, rfl, fun _ => rfl⟩
      simp only [seen, Domain.seen, hd]
      rfl
  | disabled hd =>
      refine .inr ⟨true, rfl, ?_, rfl⟩
      simp only [seen, Domain.seen, hd]
      rfl
  | admitted hd =>
      refine .inr ⟨false, rfl, ?_, rfl⟩
      simp only [seen, Domain.seen, hd]
      rfl
  | diffPanics | unchanged | idle => exact .inl ⟨rfl, rfl, fun _ => rfl⟩
  | applying =>
      exact .inl ⟨rfl, rfl, fun name =>
        statusLines_report_of_none (fun e he => hstart _ e he name) _ _⟩
  | applied | setPanics =>
      exact .inl ⟨rfl, rfl, fun name =>
        statusLines_report_of_none (fun e he => hforges _ e he name) _ _⟩
  | failed =>
      refine .inl ⟨rfl, rfl, fun name => ?_⟩
      rw [statusLines_report_of_none fun e he => hrefusal _ _ e he name]
      exact statusLines_report_of_none (fun e he => hforges _ e he name) _ _

/-- A move keeps what is told: that of the task that moves, and that of every other name. -/
theorem told (status : Dict Bool) (h : Move time t s t' s')
    (hforges : t.domain.ForgesNoStatus) :
    (s.Told status t.domain.name t.seen → s'.Told status t.domain.name t'.seen)
      ∧ ∀ name seen, name ≠ t.domain.name → s.Told status name seen → s'.Told status name seen := by
  rcases h.seen_cases hforges with ⟨hseen, hstatus, hlines⟩ | ⟨disabled, hnone, hsome, rfl⟩
  · constructor
    · intro ht
      exact ⟨by rw [hstatus, hseen, ht.noted], by rw [hlines, hseen, ht.lines]⟩
    · intro name seen _ ht
      exact ⟨by rw [hstatus, ht.noted], by rw [hlines, ht.lines]⟩
  · constructor
    · intro ht
      rw [hnone] at ht
      obtain ⟨hnoted, hlines⟩ := ht
      rw [Option.none_or] at hnoted
      have hempty : announced (status.get? t.domain.name) none = [] := rfl
      rw [hsome]
      refine ⟨?_, ?_⟩
      · rw [Shared.status_observe, Dict.get?_insert_self]
        rfl
      · rw [Shared.statusLines_observe, hlines, hnoted, hempty, List.nil_append]
    · intro name seen hne ht
      refine ⟨?_, ?_⟩
      · rw [Shared.status_observe, Dict.get?_insert_ne _ _ hne, ht.noted]
      · rw [Shared.statusLines_observe_of_ne hne, ht.lines]

end Task.Move

namespace Cycle

/-- Every task has told its switch, and nothing is told in other names. -/
structure Told (status : Dict Bool) (c : Cycle H) : Prop where
  names : (c.tasks.map (·.domain.name)).Nodup
  forges : ∀ t ∈ c.tasks, t.domain.ForgesNoStatus
  tasks : ∀ t ∈ c.tasks, c.shared.Told status t.domain.name t.seen
  others : ∀ name, (∀ t ∈ c.tasks, t.domain.name ≠ name) → c.shared.Told status name none

variable {status : Dict Bool} {domains : List (Domain H)}

theorem told_start (hnames : (domains.map (·.name)).Nodup)
    (hforges : ∀ d ∈ domains, d.ForgesNoStatus) (host : H) (status : Dict Bool)
    (numbers : Nat → Nat) :
    (start domains host status numbers).Told status where
  names := by
    have h := hnames
    rw [← map_domain_start domains host status numbers, List.map_map] at h
    exact h
  forges t ht := by
    refine hforges t.domain ?_
    rw [← map_domain_start domains host status numbers]
    exact List.mem_map_of_mem ht
  tasks t ht := by
    obtain ⟨i, hi, rfl⟩ := List.mem_mapIdx.mp ht
    exact ⟨rfl, rfl⟩
  others name _ := ⟨rfl, rfl⟩

theorem Told.step {c : Cycle H} (h : c.Told status) (turn : Turn) : (c.step turn).Told status := by
  obtain hsame | ⟨before, t, t', after, s', htasks, hm, hstep⟩ := c.step_cases turn
  · rw [hsame]
    exact h
  · obtain ⟨hnames, hforges, htold, hothers⟩ := h
    rw [htasks] at hnames hforges htold hothers
    have hdomain : t'.domain = t.domain := hm.domain_eq
    have hmem : ∀ u, u ∈ before ++ t :: after ↔ u = t ∨ u ∈ before ++ after := fun u => by
      rw [List.perm_middle.mem_iff, List.mem_cons]
    have hmem' : ∀ u, u ∈ before ++ t' :: after ↔ u = t' ∨ u ∈ before ++ after := fun u => by
      rw [List.perm_middle.mem_iff, List.mem_cons]
    have hfirst : (t :: (before ++ after)).map (·.domain.name) |>.Nodup :=
      (List.perm_middle.map fun u : Task H => u.domain.name).nodup_iff.mp hnames
    obtain ⟨hown, hother⟩ := hm.told status (hforges t (by simp))
    rw [hstep]
    constructor
    · simpa only [List.map_append, List.map_cons, hdomain] using hnames
    · intro u hu
      rcases (hmem' u).mp hu with rfl | hu
      · exact hdomain ▸ hforges t (by simp)
      · exact hforges u ((hmem u).mpr (.inr hu))
    · intro u hu
      rcases (hmem' u).mp hu with rfl | hu
      · rw [hdomain]
        exact hown (htold t (by simp))
      · -- another task, whose domain has another name
        have hne : u.domain.name ≠ t.domain.name := fun hsame =>
          (List.nodup_cons.mp hfirst).1 (List.mem_map.mpr ⟨u, hu, hsame⟩)
        exact hother _ _ hne (htold u ((hmem u).mpr (.inr hu)))
    · intro name hname
      have hne : name ≠ t.domain.name := by
        intro hsame
        exact hname t' (by simp) (hdomain ▸ hsame.symm)
      refine hother _ _ hne (hothers name fun u hu => ?_)
      rcases (hmem u).mp hu with rfl | hu
      · exact hne.symm
      · exact hname u ((hmem' u).mpr (.inr hu))

theorem Told.run {c : Cycle H} (h : c.Told status) (turns : List Turn) :
    (c.run turns).Told status := by
  induction turns generalizing c with
  | nil => exact h
  | cons turn turns ih => exact ih (h.step turn)

end Cycle

/-! ## One dispatch -/

/-- The switch that the domain of a name tells, if there is one that does. -/
def observed (domains : List (Domain H)) (name : String) : Option Bool :=
  (domains.find? (·.name == name)).bind Domain.seen

theorem Domain.seen_eq_some_iff {d : Domain H} {disabled : Bool} :
    d.seen = some disabled ↔ d.disabled = .ok disabled := by
  rw [seen]
  cases d.disabled <;> simp [Except.toOption]

theorem observed_eq_some_iff {domains : List (Domain H)} (hnames : (domains.map (·.name)).Nodup)
    {name : String} {disabled : Bool} :
    observed domains name = some disabled
      ↔ ∃ d ∈ domains, d.name = name ∧ d.disabled = .ok disabled := by
  rw [observed, Option.bind_eq_some_iff]
  constructor
  · rintro ⟨d, hfound, hseen⟩
    have hname := List.find?_some hfound
    exact ⟨d, List.mem_of_find?_eq_some hfound, beq_iff_eq.mp hname,
      Domain.seen_eq_some_iff.mp hseen⟩
  · rintro ⟨d, hd, rfl, hdisabled⟩
    refine ⟨d, ?_, Domain.seen_eq_some_iff.mpr hdisabled⟩
    cases hfound : domains.find? (·.name == d.name) with
    | none => exact absurd (beq_self_eq_true d.name) (List.find?_eq_none.mp hfound d hd)
    | some found =>
        have hname := List.find?_some hfound
        exact congrArg some (List.inj_on_of_nodup_map hnames (List.mem_of_find?_eq_some hfound) hd
          (beq_iff_eq.mp hname))

/-- What is observed depends on the names and the switches of the domains alone. -/
theorem observed_congr {domains domains' : List (Domain H)}
    (h : domains.map (fun d => (d.name, d.seen)) = domains'.map fun d => (d.name, d.seen))
    (name : String) : observed domains name = observed domains' name := by
  have hmap : ∀ list : List (Domain H), observed list name
      = ((list.map fun d => (d.name, d.seen)).find? (·.1 == name)).bind (·.2) := by
    intro list
    rw [observed, List.find?_map, Option.bind_map]
    rfl
  rw [hmap, hmap, h]

namespace Dispatched

/-- Panics are put in between, and are no status lines. -/
theorem statusLines_insertEvent {name : String} {event : Timed}
    (h : event.2.status? name = none) (log : List Timed) :
    statusLines name (insertEvent event log) = statusLines name log := by
  induction log with
  | nil => exact List.filterMap_cons_none h
  | cons e log ih =>
      rw [insertEvent]
      split
      · exact List.filterMap_cons_none h
      · rw [statusLines, statusLines, List.filterMap_cons, List.filterMap_cons]
        rw [statusLines, statusLines] at ih
        rw [ih]

theorem statusLines_foldl_insertEvent {name : String} {events : List Timed}
    (h : ∀ entry ∈ events, entry.2.status? name = none) (log : List Timed) :
    statusLines name (events.foldl (fun log event => insertEvent event log) log)
      = statusLines name log := by
  induction events generalizing log with
  | nil => rfl
  | cons event events ih =>
      rw [List.foldl_cons, ih fun entry he => h entry (List.mem_cons_of_mem _ he),
        statusLines_insertEvent (h event List.mem_cons_self)]

/-- The lines in the log of a dispatch are those of its tasks. -/
theorem statusLines_ofCycle (name : String) (c : Cycle H) :
    statusLines name (ofCycle c).log = statusLines name c.shared.log := by
  refine statusLines_foldl_insertEvent (fun entry he => ?_) c.shared.log
  obtain ⟨own, text, heq⟩ := exists_eq_panicEvent_of_mem_join he
  rw [heq]
  exact Event.status?_of_fields (by simp [panicEvent]) name

variable {domains : List (Domain H)}

/-- **A dispatch notes and reports what its domains tell**, in whatever order the tasks take their
turns. -/
theorem told_dispatchIn (hnames : (domains.map (·.name)).Nodup)
    (hforges : ∀ d ∈ domains, d.ForgesNoStatus) (order : Interleaving domains) (host : H)
    (status : Dict Bool) (numbers : Nat → Nat) (name : String) :
    (dispatchIn order.turns domains host status numbers).status.get? name
        = (observed domains name).or (status.get? name)
      ∧ statusLines name (dispatchIn order.turns domains host status numbers).log
        = announced (status.get? name) (observed domains name) := by
  have htold := (Cycle.told_start hnames hforges host status numbers).run order.turns
  have hname : (((Cycle.start domains host status numbers).run order.turns).shared).Told status name
      (observed domains name) := by
    cases hd : domains.find? (·.name == name) with
    | none =>
        rw [observed, hd]
        refine htold.others name fun t ht hsame => ?_
        have hmem : t.domain ∈ domains := by
          rw [← Cycle.map_domain_start domains host status numbers,
            ← Cycle.map_domain_run (Cycle.start domains host status numbers) order.turns]
          exact List.mem_map_of_mem ht
        exact (List.find?_eq_none.mp hd t.domain hmem) (beq_iff_eq.mpr hsame)
    | some d =>
        have hfound := List.find?_some hd
        have hsame : d.name = name := beq_iff_eq.mp hfound
        obtain ⟨i, hi⟩ := List.getElem?_of_mem (List.mem_of_find?_eq_some hd)
        obtain ⟨t, ht, rfl, found, houtcome, -⟩ :=
          Cycle.exists_ended domains host status numbers order hi
        -- a task that has an outcome has told its switch
        have hseen : t.seen = t.domain.seen := by
          rw [Task.seen]
          cases hstage : t.stage with
          | ready => simp [Task.outcome?, hstage] at houtcome
          | _ => rfl
        rw [observed, hd, Option.bind_some, ← hseen, ← hsame]
        exact htold.tasks t (List.mem_of_getElem? ht)
  exact ⟨hname.noted, (statusLines_ofCycle name _).trans hname.lines⟩

end Dispatched

/-! ## Runs of dispatches -/

/-- The domains of every dispatch have different names. -/
def Registry.Distinct (registry : Registry S H) : Prop :=
  ∀ inputs, ((registry.instantiate inputs).map (·.name)).Nodup

/-- The domains of a registry report no status lines of their own accord. -/
def Registry.ForgesNoStatus (registry : Registry S H) : Prop :=
  ∀ inputs, ∀ d ∈ registry.instantiate inputs, d.ForgesNoStatus

/-- The domains of the agent have their own names to report in. -/
theorem Registry.forgesNoStatus_agent : Registry.agent.ForgesNoStatus := by
  intro i d hd h e he name
  obtain ⟨own, hown⟩ := isOfDomain_of_mem_agent hd h e he
  refine Event.status?_eq_none fun disabled => ?_
  rintro rfl
  cases hown

section

variable {registry : Registry S H}

/-- The switch that the domain of a name tells in a dispatch. -/
def Round.observed (r : Round registry) (name : String) : Option Bool :=
  HostAgent.observed (registry.instantiate r.inputs) name

/-- The switches that the domain of a name tells in a run, dispatches in which it breaks off being
left out. -/
def observations (name : String) (rounds : List (Round registry)) : List Bool :=
  rounds.filterMap (·.observed name)

theorem observations_cons (name : String) (r : Round registry) (rounds : List (Round registry)) :
    observations name (r :: rounds) = (r.observed name).toList ++ observations name rounds := by
  cases h : r.observed name <;> simp [observations, h]

theorem getLast?_observations_cons (name : String) (r : Round registry)
    (rounds : List (Round registry)) :
    (observations name (r :: rounds)).getLast?
      = (observations name rounds).getLast?.or (r.observed name) := by
  rw [observations_cons, List.getLast?_append]
  cases r.observed name <;> rfl

variable (hnames : registry.Distinct) (hforges : registry.ForgesNoStatus)

include hnames hforges

/-- The lines of each dispatch of a run. -/
theorem statusLines_dispatches (host : H) (status : Dict Bool) (rounds : List (Round registry))
    (name : String) {k : Nat} {r : Round registry} (h : rounds[k]? = some r) :
    ∃ done, (dispatches registry host status rounds)[k]? = some done
      ∧ statusLines name done.log
        = announced ((observations name (rounds.take k)).getLast?.or (status.get? name))
          (r.observed name) := by
  induction rounds generalizing host status k with
  | nil => cases h
  | cons r' rounds ih =>
      obtain ⟨hnoted, hlines⟩ := Dispatched.told_dispatchIn (hnames r'.inputs) (hforges r'.inputs)
        r'.order host status r'.numbers name
      cases k with
      | zero =>
          obtain rfl : r' = r := Option.some.inj h
          exact ⟨_, rfl, hlines⟩
      | succ k =>
          obtain ⟨done, hdone, hrest⟩ := ih _ _ h
          refine ⟨done, hdone, ?_⟩
          rw [hrest, hnoted, List.take_succ_cons, getLast?_observations_cons, Option.or_assoc]
          rfl

/-- **The lines of a run are what was observed, without repetitions**, the observations of earlier
runs being summed up in the memory. -/
theorem destutter_observations (host : H) (status : Dict Bool) (rounds : List (Round registry))
    (name : String) :
    ((status.get? name).toList ++ observations name rounds).destutter (· ≠ ·)
      = (status.get? name).toList
        ++ (dispatches registry host status rounds).flatMap fun done =>
          statusLines name done.log := by
  induction rounds generalizing host status with
  | nil => cases status.get? name <;> rfl
  | cons r rounds ih =>
      obtain ⟨hnoted, hlines⟩ := Dispatched.told_dispatchIn (hnames r.inputs) (hforges r.inputs)
        r.order host status r.numbers name
      let done := dispatchIn r.order.turns (registry.instantiate r.inputs) host status r.numbers
      have hrest := ih done.host done.status
      rw [hnoted] at hrest
      rw [dispatches, List.flatMap_cons, hlines, observations_cons]
      exact destutter_of_announced hrest

end

/-- **The status lines are the changes of the switches.** This holds for every registry whose
domains have different names, every number of dispatches by one dispatcher and every interleaving of
the tasks in each of them.

In a dispatch a domain has at most one line. It has one if and only if its switch was told, and is
not the one that was told last before, and the line shows this switch. Over the run the lines of a
domain are the switches that it told, in their order, with consecutive repetitions left out. -/
theorem status_lines_of_observations (registry : Registry S H) (hnames : registry.Distinct)
    (hforges : registry.ForgesNoStatus) (host : H) (rounds : List (Round registry))
    (name : String) :
    (∀ (k : Nat) (r : Round registry), rounds[k]? = some r →
        ∃ done, (dispatches registry host ∅ rounds)[k]? = some done
          ∧ (statusLines name done.log).length ≤ 1
          ∧ ∀ disabled, statusLines name done.log = [disabled]
            ↔ (∃ d ∈ registry.instantiate r.inputs, d.name = name ∧ d.disabled = .ok disabled)
              ∧ (observations name (rounds.take k)).getLast? ≠ some disabled)
      ∧ (dispatches registry host ∅ rounds).flatMap (fun done => statusLines name done.log)
        = (observations name rounds).destutter (· ≠ ·) := by
  constructor
  · intro k r hr
    obtain ⟨done, hdone, hlines⟩ := statusLines_dispatches hnames hforges host ∅ rounds name hr
    rw [show (∅ : Dict Bool).get? name = none from rfl, Option.or_none] at hlines
    refine ⟨done, hdone, ?_, fun disabled => ?_⟩
    · rw [hlines]
      exact length_announced_le _ _
    · rw [hlines, announced_eq_singleton_iff, Round.observed,
        observed_eq_some_iff (hnames r.inputs)]
  · have h := destutter_observations hnames hforges host ∅ rounds name
    exact h.symm

/-- Two domains, the first of which is switched on and off by what it is built from, or breaks
off. -/
def flappingRegistry : Registry Nat Nat := [
  ⟨"flapping", fun inputs =>
    ⟨"flapping", if inputs.current < 2 then .ok (inputs.current == 0) else .error "no switch",
      .ok true, 3, fun host => ⟨.completed, host + 1, []⟩⟩⟩,
  ⟨"steady", fun _ => ⟨"steady", .ok false, .ok false, 0, fun host => ⟨.completed, host, []⟩⟩⟩]

/-- A dispatch of these domains, in the order of the schedule or backwards. -/
def flappingRound (backwards : Bool) (current : Nat) : Round flappingRegistry :=
  let inputs : Inputs Nat := ⟨0, current, ∅, ⟨0, 0⟩⟩
  let order := Interleaving.scheduled (flappingRegistry.instantiate inputs)
  { inputs, order := if backwards then order.reversed else order }

/-- A domain that is switched off, breaks off, is switched off still, and is then switched on. -/
def flappingRounds : List (Round flappingRegistry) :=
  [flappingRound false 0, flappingRound true 2, flappingRound false 0, flappingRound true 1]

theorem status_lines_of_flapping_domain :
    flappingRegistry.Distinct ∧ flappingRegistry.ForgesNoStatus
      ∧ (∃ done, (dispatches flappingRegistry 0 ∅ flappingRounds)[3]? = some done
        ∧ statusLines "flapping" done.log = [false])
      ∧ (dispatches flappingRegistry 0 ∅ flappingRounds).flatMap
        (fun done => statusLines "flapping" done.log) = [true, false] := by
  have hnames : flappingRegistry.Distinct := fun inputs => by
    show ["flapping", "steady"].Nodup
    decide
  have hforges : flappingRegistry.ForgesNoStatus := by
    intro inputs d hd host e he
    simp only [Registry.instantiate, flappingRegistry, List.map_cons, List.map_nil, List.mem_cons,
      List.not_mem_nil, or_false] at hd
    rcases hd with rfl | rfl <;> cases he
  obtain ⟨heach, hall⟩ :=
    status_lines_of_observations flappingRegistry hnames hforges 0 flappingRounds "flapping"
  obtain ⟨done, hdone, -, hline⟩ := heach 3 (flappingRound true 1) rfl
  refine ⟨hnames, hforges, ⟨done, hdone, (hline false).mpr ⟨⟨_, .head _, rfl, rfl⟩, ?_⟩⟩, ?_⟩
  · decide +kernel
  · exact hall.trans (by decide +kernel)

end HostAgent
