import HostAgent.Proofs.Dispatch.Status
import HostAgent.Proofs.Host.Operations

set_option autoImplicit false

/-! # Repeated snapshots

The metadata service may publish the same snapshot again. If it has content, no domain sees a
change: every domain is skipped, whichever overrides are in force and whichever domains are
made to fail, and the loop goes on as it was but for its count of cycles
(`Loop.quiet_run`) and the memory of the statuses logged last, which holds the switches of the
last cycle (`Loop.get?_status_run`).

The snapshot without content is a change every time it is followed by another one. Its domains
are attempted again in every cycle, but as long as the overrides are the same they ask for the same
operations, and asking again changes nothing (`Loop.state_run_of_empty`). Both halves together are
`repetition_changes_nothing`, which assumes nothing of the loop and the host.

That the override file stays as it is does not give the same overrides in every cycle: of two names
that differ only in case each reading may put another one last. So neither half holds in the plain
form that suggests itself (`repetition_noticed`).
-/

namespace HostAgent

theorem Snapshot.isEmpty_iff (s : Snapshot) : s.isEmpty = true ↔ s = Snapshot.empty := by
  rw [isEmpty, beq_iff_eq]

namespace Registry

variable {i : Inputs Snapshot}

/-! ## What is a change to the domains -/

/-- **A snapshot with content that comes again is no change to any domain.** -/
theorem diff_of_repeated (hcontent : i.previous.isEmpty = false) (hsame : i.current = i.previous) :
    ∀ d ∈ Registry.agent.instantiate i, d.diff = .ok false := by
  refine forall_mem_agent ?_ ?_ ?_ ?_
  · show Except.ok (Addresses.hasChanged i) = _
    rw [Addresses.hasChanged, hcontent, hsame, bne_self_eq_false]
    rfl
  · show Except.ok (Accounts.hasChanged i) = _
    rw [Accounts.hasChanged, hcontent, hsame, bne_self_eq_false]
    rfl
  · show Except.ok (Cluster.hasChanged i) = _
    rw [Cluster.hasChanged, hcontent, hsame, bne_self_eq_false]
    rfl
  · show Except.ok (Diagnostics.hasChanged i) = _
    rw [Diagnostics.hasChanged, hsame, bne_self_eq_false, Bool.and_false]

/-- After the snapshot without content everything but a missing request is a change. -/
theorem diff_of_empty (hprevious : i.previous.isEmpty = true) (hcurrent : i.current = .empty) :
    ∀ d ∈ Registry.agent.instantiate i, d.diff = .ok (d.name != Diagnostics.name) := by
  refine forall_mem_agent ?_ ?_ ?_ ?_
  · show Except.ok (Addresses.hasChanged i) = _
    rw [Addresses.hasChanged, hprevious]
    rfl
  · show Except.ok (Accounts.hasChanged i) = _
    rw [Accounts.hasChanged, hprevious]
    rfl
  · show Except.ok (Cluster.hasChanged i) = _
    rw [Cluster.hasChanged, hprevious]
    rfl
  · show Except.ok (Diagnostics.hasChanged i) = _
    rw [Diagnostics.hasChanged, hcurrent]
    rfl

theorem distinct_agent : Registry.agent.Distinct := fun _ => nodup_names_agent

/-- The switches of the domains depend on the snapshot and the overrides alone. -/
theorem observed_congr {j : Inputs Snapshot} (hcurrent : i.current = j.current)
    (hoverrides : i.overrides = j.overrides) :
    observed (Registry.agent.instantiate i) = observed (Registry.agent.instantiate j) := by
  obtain ⟨previous, current, overrides, now⟩ := i
  obtain ⟨previous', current', overrides', now'⟩ := j
  obtain rfl : current = current' := hcurrent
  obtain rfl : overrides = overrides' := hoverrides
  refine funext fun name => HostAgent.observed_congr ?_ name
  simp only [instantiate, agent, List.map_cons, List.map_nil]
  rfl

/-- A name has a switch in every cycle or in none. -/
theorem isSome_observed (i j : Inputs Snapshot) (name : String) :
    (observed (Registry.agent.instantiate i) name).isSome
      = (observed (Registry.agent.instantiate j) name).isSome := by
  have hmem : ∀ i : Inputs Snapshot,
      (observed (Registry.agent.instantiate i) name).isSome ↔ name ∈ Registry.agent.names := by
    intro i
    rw [Option.isSome_iff_exists]
    simp only [observed_eq_some_iff (distinct_agent i)]
    constructor
    · rintro ⟨disabled, d, hd, rfl, -⟩
      exact List.mem_map_of_mem hd
    · intro hname
      have hnames : (Registry.agent.instantiate i).map (·.name) = Registry.agent.names := rfl
      rw [← hnames] at hname
      obtain ⟨d, hd, rfl⟩ := List.mem_map.mp hname
      obtain ⟨disabled, hdisabled⟩ := (neverPanics_agent d hd).disabled
      exact ⟨disabled, d, hd, rfl, hdisabled⟩
  rw [Bool.eq_iff_iff, hmem, hmem]

end Registry

/-! ## A snapshot with content -/

/-- The state of a watch loop after cycles that were counted and left nothing else behind. -/
def WatchState.advanced (w : WatchState) (cycles : Nat) : WatchState :=
  { w with stats := { w.stats with cycles := w.stats.cycles + cycles } }

/-- A cycle in which every domain was skipped. -/
structure CycleDone.Quiet (c : CycleDone) : Prop where
  outcomes : ∀ entry ∈ c.dispatched.report.outcomes, entry.2 = .disabled ∨ entry.2 = .unchanged
  calls : ∀ calls ∈ c.dispatched.calls, calls.set = 0

namespace Loop

variable {path : String} {l : Loop} {o : Occasion}

/-- A cycle for the snapshot of the cycle before skips every domain. -/
theorem quiet_cycle (hcontent : l.state.previous.isEmpty = false)
    (hsame : o.snapshot = l.state.previous) : (l.cycle path o).Quiet := by
  have hdiff := Registry.diff_of_repeated (i := (l.cycle path o).inputs) hcontent hsame
  constructor
  · intro entry hentry
    rw [outcomes_cycle] at hentry
    obtain ⟨k, hk, rfl⟩ := List.mem_mapIdx.mp hentry
    have hmem := List.getElem_mem hk
    obtain ⟨disabled, hdisabled⟩ := (Registry.neverPanics_agent _ hmem).disabled
    rw [Domain.outcome_of_unchanged hdisabled (hdiff _ hmem)]
    cases disabled with
    | true => exact .inl rfl
    | false => exact .inr rfl
  · intro calls hcalls
    rw [calls_cycle] at hcalls
    obtain ⟨d, hd, rfl⟩ := List.mem_map.mp hcalls
    show (d.attempts).toNat = 0
    rw [Domain.attempts, hdiff d hd]
    simp [answers]

/-- It asks nothing of the host. -/
theorem operations_of_repeated (hcontent : l.state.previous.isEmpty = false)
    (hsame : o.snapshot = l.state.previous) : l.operations path o = [] := by
  have hdiff := Registry.diff_of_repeated (i := (l.cycle path o).inputs) hcontent hsame
  have hasked : Registry.operations (l.cycle path o).inputs = [] := by
    refine List.eq_nil_iff_forall_not_mem.mpr fun op hop => ?_
    obtain ⟨duty, hduty, hattempts, -⟩ := Duty.mem_asked.mp hop
    have hmem : duty.domain ∈ Registry.agent.instantiate (l.cycle path o).inputs :=
      Registry.map_domain_duties _ ▸ List.mem_map_of_mem hduty
    rw [Domain.attempts, hdiff _ hmem] at hattempts
    simp [answers] at hattempts
  rw [operations, hasked]
  rfl

/-- The loop after cycles for the snapshot of the cycle before. -/
theorem quiet_run {more : List Occasion} (hcontent : l.state.previous.isEmpty = false)
    (hsame : ∀ o ∈ more, o.snapshot = l.state.previous) :
    (∀ done ∈ history path l more, done.Quiet)
      ∧ (run path l more).host.state = l.host.state
      ∧ (run path l more).state
          = { l.state.advanced more.length with status := (run path l more).state.status } := by
  induction more generalizing l with
  | nil => exact ⟨fun done hdone => (nomatch hdone), rfl, rfl⟩
  | cons o more ih =>
      have ho : o.snapshot = l.state.previous := hsame o List.mem_cons_self
      have hprevious : (l.next path o).state.previous = l.state.previous := ho
      have hhost : (l.next path o).host.state = l.host.state := by
        rw [state_next, operations_of_repeated hcontent ho]
        rfl
      obtain ⟨hquiet, hstate, hloop⟩ := @ih (l.next path o) (by rwa [hprevious])
        (by rw [hprevious]; exact fun o' ho' => hsame o' (List.mem_cons_of_mem o ho'))
      refine ⟨fun done hdone => ?_, hstate.trans hhost, hloop.trans ?_⟩
      · rcases List.mem_cons.mp hdone with rfl | hdone
        · exact quiet_cycle hcontent ho
        · exact hquiet done hdone
      · have hcycles : l.state.stats.cycles + 1 + more.length
            = l.state.stats.cycles + (o :: more).length := by
          rw [List.length_cons]
          omega
        rw [WatchState.advanced, WatchState.advanced, ← hcycles, hprevious]
        rfl

/-- After a cycle the memory of the statuses holds its switches. -/
theorem get?_status_next (path : String) (l : Loop) (o : Occasion) (name : String) :
    (l.next path o).state.status.get? name
      = (observed (Registry.agent.instantiate (l.cycle path o).inputs) name).or
        (l.state.status.get? name) :=
  (Dispatched.told_dispatchIn (Registry.distinct_agent _) (Registry.forgesNoStatus_agent _)
    (o.order _) (l.hostAt o) l.state.status o.numbers name).1

/-- So it does after a run of cycles, with the switches of the last one. -/
theorem get?_status_run (path : String) (l : Loop) {first last : Occasion} {more : List Occasion}
    (hsame : ∀ o ∈ more, o.snapshot = first.snapshot)
    (hlast : (first :: more).getLast? = some last) (name : String) :
    (run path l (first :: more)).state.status.get? name
      = (observed (Registry.agent.instantiate
          ⟨first.snapshot, first.snapshot, last.overrides path, last.now⟩) name).or
        (l.state.status.get? name) := by
  induction more generalizing l first with
  | nil =>
      obtain rfl : first = last := Option.some.inj hlast
      have hswitches := Registry.observed_congr (i := (l.cycle path first).inputs)
        (j := ⟨first.snapshot, first.snapshot, first.overrides path, first.now⟩) rfl rfl
      exact hswitches ▸ get?_status_next path l first name
  | cons o more ih =>
      have ho : o.snapshot = first.snapshot := hsame o List.mem_cons_self
      have hrest := @ih (l.next path first) o
        (fun o' ho' => (hsame o' (List.mem_cons_of_mem o ho')).trans ho.symm)
        (by rwa [List.getLast?_cons_cons] at hlast)
      rw [ho, get?_status_next path l first name, ← Option.or_assoc] at hrest
      -- what the last cycle observes takes the place of what the first one did
      have hboth := Registry.isSome_observed
        ⟨first.snapshot, first.snapshot, last.overrides path, last.now⟩
        (l.cycle path first).inputs name
      have hlast : ∀ a b : Option Bool, a.isSome = b.isSome → a.or b = a := by
        intro a b hsome
        cases a with
        | some _ => rfl
        | none =>
            cases b with
            | none => rfl
            | some _ => nomatch hsome
      rwa [hlast _ _ hboth] at hrest

/-- As long as the switches are those that the memory holds, it stays as it is. -/
theorem status_run {i : Inputs Snapshot} {more : List Occasion}
    (hnoted : ∀ name disabled, observed (Registry.agent.instantiate i) name = some disabled →
      l.state.status.get? name = some disabled)
    (hsame : ∀ o ∈ more, o.snapshot = i.current ∧ o.overrides path = i.overrides) :
    (run path l more).state.status = l.state.status := by
  induction more generalizing l with
  | nil => rfl
  | cons o more ih =>
      obtain ⟨hsnapshot, hoverrides⟩ := hsame o List.mem_cons_self
      have hswitches := Registry.observed_congr (i := i) (j := (l.cycle path o).inputs)
        hsnapshot.symm hoverrides.symm
      have hfirst : (l.next path o).state.status = l.state.status :=
        Dispatched.status_of_observed (Registry.distinct_agent _) (hswitches ▸ hnoted) (o.order _)
          (l.hostAt o) o.numbers
      have hrest := @ih (l.next path o) (by rwa [hfirst])
        fun o' ho' => hsame o' (List.mem_cons_of_mem o ho')
      exact hrest.trans hfirst

end Loop

/-! ## The snapshot without content -/

/-- Without published keys the clock does not matter. -/
theorem AccountKey.readAll_empty (now now' : Instant) : readAll "" now = readAll "" now' := by
  have hlines : contentLines "" = [] := by decide
  rw [readAll, readAll, readLines, readLines, hlines, List.map_nil, List.map_nil]

theorem DiagnosticsRequest.due?_empty (now : Instant) : due? Snapshot.empty now = none := rfl

namespace Duty

/-- What a duty comes to in a cycle: whether its domain has something to apply, and what the
application asks for. -/
def share (duty : Duty) : Bool × Option HostOperation := (duty.domain.attempts, duty.operation?)

theorem share_congr {a b : Duty} (hdisabled : a.domain.disabled = b.domain.disabled)
    (hdiff : a.domain.diff = b.domain.diff) (hasked : a.operation? = b.operation?) :
    a.share = b.share := by
  rw [share, share, Domain.attempts, Domain.attempts, hdisabled, hdiff, hasked]

theorem asked_congr {duties duties' : List Duty} (h : duties.map share = duties'.map share) :
    asked duties = asked duties' := by
  have hasked : ∀ list : List Duty, asked list = (list.map share).filterMap
      fun (attempts, operation?) => if attempts then operation? else none := by
    intro list
    rw [asked, List.filterMap_filter, List.filterMap_map]
    rfl
  rw [hasked, hasked, h]

end Duty

/-- For the snapshot without content the clock does not matter. -/
theorem Registry.operations_of_empty (overrides : Overrides) (now now' : Instant) :
    operations ⟨.empty, .empty, overrides, now⟩ = operations ⟨.empty, .empty, overrides, now'⟩ := by
  refine Duty.asked_congr ?_
  simp only [duties, List.map_cons, List.map_nil, List.cons.injEq, and_true]
  refine ⟨Duty.share_congr rfl rfl rfl, Duty.share_congr rfl rfl ?_, Duty.share_congr rfl rfl rfl,
    Duty.share_congr rfl rfl ?_⟩
  · exact congrArg (fun read => some (HostOperation.accounts read.1))
      (AccountKey.readAll_empty now now')
  · simp only [Duty.diagnostics, DiagnosticsRequest.due?_empty]

/-- A cycle that has called the application of every domain that is not switched off, but for the
diagnostics domain. -/
structure CycleDone.AttemptsAnew (c : CycleDone) : Prop where
  outcomes : c.dispatched.report.outcomes.map (fun entry => (entry.1, entry.2.attempted))
    = (Registry.agent.instantiate c.inputs).map fun d =>
        (d.name, answers false d.disabled && d.name != Diagnostics.name)
  calls : c.dispatched.calls.map (·.set)
    = (Registry.agent.instantiate c.inputs).map fun d =>
        (answers false d.disabled && d.name != Diagnostics.name).toNat

/-- The same domains are made to fail in all cycles of a list. -/
def SameFailures (failing : List String) (cycles : List CycleDone) : Prop :=
  ∀ done ∈ cycles, ∀ domain, domain ∈ done.dispatched.host.failing ↔ domain ∈ failing

namespace Loop

variable {path : String} {l : Loop} {o : Occasion} {overrides : Overrides} {failing : List String}

/-- After the snapshot without content, the same snapshot is a change again. -/
theorem attemptsAnew_cycle (hprevious : l.state.previous = .empty) (ho : o.snapshot = .empty) :
    (l.cycle path o).AttemptsAnew := by
  have hdiff := Registry.diff_of_empty (i := (l.cycle path o).inputs)
    ((Snapshot.isEmpty_iff _).mpr hprevious) ho
  have hattempts : ∀ d ∈ Registry.agent.instantiate (l.cycle path o).inputs,
      d.attempts = (answers false d.disabled && d.name != Diagnostics.name) := by
    intro d hd
    rw [Domain.attempts, hdiff d hd]
    cases d.name != Diagnostics.name with
    | true => rfl
    | false => rfl
  constructor
  · rw [outcomes_cycle]
    refine List.ext_getElem (by simp) fun k hk hk' => ?_
    simp only [List.getElem_map, List.getElem_mapIdx]
    have hmem := List.getElem_mem (by simpa using hk')
    rw [(Registry.neverPanics_agent _ hmem).attempted_outcome, hattempts _ hmem]
  · rw [calls_cycle, List.map_map]
    exact List.map_congr_left fun d hd => congrArg Bool.toNat (hattempts d hd)

theorem attemptsAnew_of_mem_history {occasions : List Occasion}
    (hprevious : l.state.previous = .empty) (h : ∀ o ∈ occasions, o.snapshot = .empty) :
    ∀ done ∈ history path l occasions, done.AttemptsAnew := by
  induction occasions generalizing l with
  | nil => exact fun done hdone => nomatch hdone
  | cons o occasions ih =>
      have ho := h o List.mem_cons_self
      intro done hdone
      rcases List.mem_cons.mp hdone with rfl | hdone
      · exact attemptsAnew_cycle hprevious ho
      · exact @ih (l.next path o) ho (fun o' ho' => h o' (List.mem_cons_of_mem o ho')) done hdone

/-- The operations asked for are the same every time. -/
theorem operations_of_empty {l' : Loop} {o' : Occasion} (hl : l.state.previous = .empty)
    (hl' : l'.state.previous = .empty) (ho : o.snapshot = .empty) (ho' : o'.snapshot = .empty)
    (hoverrides : o.overrides path = o'.overrides path)
    (hfailing : ∀ domain, domain ∈ (l.hostAt o).failing ↔ domain ∈ (l'.hostAt o').failing) :
    l.operations path o = l'.operations path o' := by
  rw [operations, operations, inputs_cycle, inputs_cycle, hl, hl', ho, ho', hoverrides,
    Registry.operations_of_empty _ o.now o'.now]
  exact List.filter_congr fun op _ => by simp only [hfailing op.domain]

/-- **The first repetition settles everything.** -/
theorem state_run_of_empty {rest : List Occasion} (hl : l.state.previous = .empty)
    (hsame : ∀ o' ∈ o :: rest, o'.snapshot = .empty ∧ o'.overrides path = overrides)
    (hfailures : SameFailures failing (history path l (o :: rest))) :
    (run path l (o :: rest)).host.state = (l.next path o).host.state := by
  induction rest generalizing l o with
  | nil => rfl
  | cons o' rest ih =>
      obtain ⟨ho, hfirst⟩ := hsame o List.mem_cons_self
      obtain ⟨ho', hsecond⟩ := hsame o' (by simp)
      have hnext : (l.next path o).state.previous = .empty := ho
      have hrest := @ih (l.next path o) o' hnext
        (fun later hlater => hsame later (List.mem_cons_of_mem o hlater))
        (fun done hdone => hfailures done (List.mem_cons_of_mem _ hdone))
      have hoperations : (l.next path o).operations path o' = l.operations path o := by
        refine operations_of_empty hnext hl ho' ho (hsecond.trans hfirst.symm) fun domain => ?_
        have hfirst := hfailures (l.cycle path o) List.mem_cons_self domain
        have hsecond := hfailures ((l.next path o).cycle path o') (by simp [history]) domain
        rw [failing_cycle] at hfirst hsecond
        exact hsecond.trans hfirst.symm
      calc (run path (l.next path o) (o' :: rest)).host.state
          = ((l.next path o).next path o').host.state := hrest
        _ = HostOperation.settleAll (l.next path o).host.state (l.operations path o) := by
            rw [state_next, hoperations]
        _ = (l.next path o).host.state := by
            rw [state_next, HostOperation.settleAll_settleAll (distinct_operations path l o)]

/-- So after any number of repetitions the host is as after one. -/
theorem state_take_of_empty {repetitions : List Occasion} (hl : l.state.previous = .empty)
    (hsame : ∀ o ∈ repetitions, o.snapshot = .empty ∧ o.overrides path = overrides)
    (hfailures : SameFailures failing (history path l repetitions)) {n : Nat} (hn : 1 ≤ n) :
    (run path l (repetitions.take n)).host.state
      = (run path l (repetitions.take 1)).host.state := by
  obtain ⟨n, rfl⟩ : ∃ m, n = m + 1 := ⟨n - 1, by omega⟩
  cases repetitions with
  | nil => rfl
  | cons o rest =>
      have hmem : ∀ o' ∈ o :: rest.take n, o' ∈ o :: rest :=
        fun o' ho' => List.mem_of_mem_take (i := n + 1) ho'
      have hcycles := history_take path l (o :: rest) (n + 1)
      exact state_run_of_empty hl (fun o' ho' => hsame o' (hmem o' ho')) fun done hdone =>
        hfailures done (List.mem_of_mem_take (hcycles ▸ hdone))

/-- Where nothing is toggled the same domains fail all the time. -/
theorem sameFailures_history {occasions : List Occasion} (h : ∀ o ∈ occasions, o.toggles = []) :
    SameFailures l.host.failing (history path l occasions) := by
  induction occasions generalizing l with
  | nil => exact fun done hdone => nomatch hdone
  | cons o occasions ih =>
      have hfirst : (l.cycle path o).dispatched.host.failing = l.host.failing := by
        rw [failing_cycle, hostAt, h o List.mem_cons_self]
        rfl
      intro done hdone domain
      rcases List.mem_cons.mp hdone with rfl | hdone
      · rw [hfirst]
      · have hrest := @ih (l.next path o) (fun o' ho' => h o' (List.mem_cons_of_mem o ho')) done
          hdone domain
        rwa [next, hfirst] at hrest

end Loop

/-- **Repeating a snapshot is harmless**, whatever state the loop and the host are in.

After a cycle for a snapshot with content, further cycles for it skip every domain and leave the
host alone, under any override files and whatever is made to fail. The loop has its cycles counted
and is the same otherwise, but for the memory of the statuses logged last: it holds the switches of
the last of these cycles, and is the same if all cycles read the same overrides.

The snapshot without content has the domains attempted again from its second cycle on. As long as
neither the overrides that are read nor the failures change, the host after two or more of these
cycles is as after two, and as after the first one if that followed the snapshot without content as
well. -/
theorem repetition_changes_nothing (path : String) (l : Loop) :
    (∀ (first : Occasion) (more : List Occasion), first.snapshot ≠ .empty →
      (∀ o ∈ more, o.snapshot = first.snapshot) →
      (∀ done ∈ Loop.history path (l.next path first) more, done.Quiet)
        ∧ (Loop.run path l (first :: more)).host.state = (l.next path first).host.state
        ∧ (Loop.run path l (first :: more)).state
          = { (l.next path first).state.advanced more.length with
              status := (Loop.run path l (first :: more)).state.status }
        ∧ (∀ last ∈ (first :: more).getLast?, ∀ name,
          (Loop.run path l (first :: more)).state.status.get? name
            = (observed (Registry.agent.instantiate
                ⟨first.snapshot, first.snapshot, last.overrides path, last.now⟩) name).or
              (l.state.status.get? name))
        ∧ ((∀ o ∈ more, o.overrides path = first.overrides path) →
          (Loop.run path l (first :: more)).state
            = (l.next path first).state.advanced more.length))
    ∧ ∀ (overrides : Overrides) (failing : List String) (repetitions : List Occasion),
      (∀ o ∈ repetitions, o.snapshot = .empty ∧ o.overrides path = overrides) →
      SameFailures failing (Loop.history path l repetitions) →
      (∀ done ∈ (Loop.history path l repetitions).tail, done.AttemptsAnew)
        ∧ (∀ n, 2 ≤ n → (Loop.run path l (repetitions.take n)).host.state
          = (Loop.run path l (repetitions.take 2)).host.state)
        ∧ (l.state.previous = .empty → ∀ n, 1 ≤ n →
          (Loop.run path l (repetitions.take n)).host.state
            = (Loop.run path l (repetitions.take 1)).host.state) := by
  constructor
  · intro first more hcontent hsame
    have hprevious : (l.next path first).state.previous = first.snapshot := rfl
    have hnonempty : (l.next path first).state.previous.isEmpty = false := by
      rw [hprevious, ← Bool.not_eq_true, Snapshot.isEmpty_iff]
      exact hcontent
    obtain ⟨hquiet, hhost, hstate⟩ := @Loop.quiet_run path _ more hnonempty hsame
    refine ⟨hquiet, hhost, hstate, fun last hlast => Loop.get?_status_run path l hsame hlast,
      fun hoverrides => ?_⟩
    have hnoted : ∀ name disabled,
        observed (Registry.agent.instantiate (l.cycle path first).inputs) name = some disabled →
          (l.next path first).state.status.get? name = some disabled := by
      intro name disabled hseen
      rw [Loop.get?_status_next, hseen, Option.some_or]
    have hstatus := Loop.status_run hnoted fun o ho => ⟨hsame o ho, hoverrides o ho⟩
    rw [hstatus] at hstate
    exact hstate
  · intro overrides failing repetitions hsame hfailures
    refine ⟨?_, ?_, fun hprevious n hn => Loop.state_take_of_empty hprevious hsame hfailures hn⟩
    · cases repetitions with
      | nil => exact fun done hdone => nomatch hdone
      | cons o rest =>
          have hfirst : (l.next path o).state.previous = .empty := (hsame o List.mem_cons_self).1
          exact Loop.attemptsAnew_of_mem_history hfirst fun o' ho' =>
            (hsame o' (List.mem_cons_of_mem o ho')).1
    · intro n hn
      obtain ⟨n, rfl⟩ : ∃ m, n = m + 1 := ⟨n - 1, by omega⟩
      cases repetitions with
      | nil => rfl
      | cons o rest =>
          -- after the first cycle the snapshot before is without content in any case
          exact Loop.state_take_of_empty (hsame o List.mem_cons_self).1
            (fun o' ho' => hsame o' (List.mem_cons_of_mem o ho'))
            (fun done hdone => hfailures done (List.mem_cons_of_mem _ hdone)) (by omega)

/-- A machine with one address. -/
def addressedMachine : Snapshot where
  machine := { interfaces := [{ forwardedIps := ["10.0.0.2"] }] }

/-- A cycle for this machine in which the address is refused. -/
def refusedCycle : Occasion where
  snapshot := addressedMachine
  toggles := [("addresses", true)]
  now := ⟨0, 0⟩

/-- The snapshot comes again with the accounts switched off, and then with no failure any more. -/
def repeatedCycles : List Occasion := [
  { snapshot := addressedMachine, file := .bytes "[accountManager]\ndisable = true".toUTF8.toList,
    now := ⟨60, 0⟩ },
  { snapshot := addressedMachine, toggles := [("addresses", false)], now := ⟨120, 0⟩ }]

/-- The snapshot without content, three times. -/
def contentLost : List Occasion :=
  [⟨60, 0⟩, ⟨120, 0⟩, ⟨180, 0⟩].map fun now => { snapshot := .empty, now }

/-- The repetitions do not make up for the refusal, and the memory tells that the accounts have been
switched on again. Without content the third cycle leaves the host as the second one did. -/
theorem repetition_changes_nothing_after_refusal :
    (∀ done ∈ Loop.history "" (({} : Loop).next "" refusedCycle) repeatedCycles, done.Quiet)
    ∧ (Loop.run "" {} (refusedCycle :: repeatedCycles)).host.state.addresses = []
    ∧ (Loop.run "" {} (refusedCycle :: repeatedCycles)).state.stats.cycles = 3
    ∧ (Loop.run "" {} (refusedCycle :: repeatedCycles)).state.status.get? "accounts" = some false
    ∧ (∀ done ∈ (Loop.history "" (({} : Loop).next "" refusedCycle) contentLost).tail,
        done.AttemptsAnew)
    ∧ (Loop.run "" (({} : Loop).next "" refusedCycle) (contentLost.take 3)).host.state
      = (Loop.run "" (({} : Loop).next "" refusedCycle) (contentLost.take 2)).host.state := by
  obtain ⟨hquiet, hhost, hstate, hstatus, -⟩ := (repetition_changes_nothing "" {}).1 refusedCycle
    repeatedCycles (by decide +kernel) (by decide +kernel)
  obtain ⟨hanew, htake, -⟩ := (repetition_changes_nothing "" (({} : Loop).next "" refusedCycle)).2
    (Overrides.load "" .absent).1 _ contentLost (by decide +kernel)
    (Loop.sameFailures_history (by decide +kernel))
  refine ⟨hquiet, ?_, ?_, ?_, hanew, htake 3 (by decide)⟩
  · rw [hhost]
    decide +kernel
  · rw [hstate]
    decide +kernel
  · rw [hstatus _ rfl]
    decide +kernel

/-- A cycle for the machine with one address, with the addresses switched off. -/
def switchedOff : Occasion where
  snapshot := addressedMachine
  file := .bytes "[addressManager]\ndisable = true".toUTF8.toList
  now := ⟨60, 0⟩

/-- The snapshot without content, three times under one file, which is read otherwise in the third
cycle. -/
def portReread : List Occasion :=
  [{}, {}, capitalsLast].map fun walk =>
    { snapshot := .empty, file := twoPortsFile, now := ⟨0, 0⟩, walk }

/-- **A repetition may be noticed**, by the memory of the statuses if the override file has changed,
and by the host if two names of the file differ in case only. -/
theorem repetition_noticed :
    (¬∀ first o : Occasion, first.snapshot ≠ .empty → o.snapshot = first.snapshot →
      (Loop.run "" {} [first, o]).state = (({} : Loop).next "" first).state.advanced 1)
    ∧ ¬∀ (file : FileContents) (repetitions : List Occasion),
      (∀ o ∈ repetitions, o.snapshot = .empty ∧ o.file = file ∧ o.toggles = []) →
        ∀ n, 2 ≤ n → (Loop.run "" {} (repetitions.take n)).host.state
          = (Loop.run "" {} (repetitions.take 2)).host.state := by
  constructor
  · intro h
    have hstate := h refusedCycle switchedOff (by decide +kernel) rfl
    have hstatus : (Loop.run "" {} [refusedCycle, switchedOff]).state.status.get? "addresses"
        = some false := by
      rw [hstate]
      decide +kernel
    revert hstatus
    decide +kernel
  · intro h
    have hstate := h twoPortsFile portReread (by decide +kernel) 3 (by decide)
    revert hstate
    decide +kernel

end HostAgent
