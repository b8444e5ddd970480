import HostAgent.Proofs.Watch.Script

set_option autoImplicit false

/-! # What the course of a run shows

The course of a run is one list of points of several kinds. Its views pick the points of one
kind: the times at which fetches begin, the signal, the dispatches and the log. What a view makes
of the parts that courses are put together from (reports, the point of the signal, the course of
a cycle) is stated here once for each of them.
-/

namespace HostAgent

/-- The times at which a course shows the signal after which it stands as given. -/
def Signal.shownTimes (signal : Signal) : List Nat :=
  if signal.shown then signal.at?.toList else []

namespace WatchSetup

/-- The run that begins with some points ends as the rest of it does. -/
@[simp] theorem trace_before (trace : Trace) (r : Run) :
    (before trace r).trace = trace ++ r.trace := rfl

@[simp] theorem ending_before (trace : Trace) (r : Run) : (before trace r).ending = r.ending := rfl

@[simp] theorem time_before (trace : Trace) (r : Run) : (before trace r).time = r.time := rfl

@[simp] theorem stats_before (trace : Trace) (r : Run) : (before trace r).stats = r.stats := rfl

/-- The report on the end of the loop. -/
def stopEvent (stats : WatchStats) : Event :=
  ⟨.info, .watch, "Metadata watch loop stopped", [("cycles", .number stats.cycles)]⟩

@[simp] theorem trace_stop (signal : Signal) (time : Nat) (w : WatchState)
    (around : Surroundings) :
    (stop signal time w around).trace
      = signal.marks time ++ eventsAt time [stopEvent w.stats] := rfl

@[simp] theorem time_stop (signal : Signal) (time : Nat) (w : WatchState)
    (around : Surroundings) : (stop signal time w around).time = time := rfl

@[simp] theorem stats_stop (signal : Signal) (time : Nat) (w : WatchState)
    (around : Surroundings) : (stop signal time w around).stats = w.stats := rfl

/-- The reports of a cycle that begins at `time`. -/
def cycleEvents (time : Nat) (done : CycleDone) : Trace :=
  eventsAt time done.fileLog
    ++ done.dispatched.log.map fun (t, e) => (time + t, Mark.event e)

/-- The signal is given while a cycle lasts and has its place among the reports, or the course of
the cycle does not show it. -/
theorem cycleCourse_cases (signal : Signal) (time : Nat) (done : CycleDone) :
    let finish := time + done.dispatched.elapsed
    (∃ moment ∈ signal.at?, signal.shown = false ∧ moment ≤ finish
        ∧ cycleCourse signal time done
          = (insertMark (moment, .signal) (cycleEvents time done) ++ [(finish, .cycle done)],
            { signal with shown := true }))
      ∨ ((signal.shown = true ∨ ∀ moment ∈ signal.at?, finish < moment)
        ∧ cycleCourse signal time done
          = (cycleEvents time done ++ [(finish, .cycle done)], signal)) := by
  intro finish
  obtain ⟨_ | moment, shown⟩ := signal
  · exact .inr ⟨.inr (fun _ h => nomatch h), rfl⟩
  · by_cases h : shown = false ∧ moment ≤ finish
    · refine .inl ⟨moment, rfl, h.1, h.2, ?_⟩
      obtain ⟨rfl, hle⟩ := h
      simp only [cycleCourse]
      rw [if_pos ⟨rfl, hle⟩]
      rfl
    · refine .inr ⟨?_, ?_⟩
      · cases shown with
        | true => exact .inl rfl
        | false =>
            refine .inr fun m hm => ?_
            obtain rfl := Option.some.inj hm
            exact Nat.lt_of_not_le fun hle => h ⟨rfl, hle⟩
      · simp only [cycleCourse]
        rw [if_neg (by simpa only [Bool.not_eq_true'] using h)]
        rfl

end WatchSetup

open WatchSetup

/-! ## Views that pass over the reports -/

section

variable {α : Type} {f : Nat × Mark → Option α}

theorem filterMap_eventsAt (hf : ∀ time e, f (time, .event e) = none) (time : Nat) (log : Log) :
    (eventsAt time log).filterMap f = [] := by
  rw [List.filterMap_eq_nil_iff]
  intro point hpoint
  obtain ⟨e, -, rfl⟩ := List.mem_map.mp hpoint
  exact hf time e

theorem filterMap_cycleEvents (hf : ∀ time e, f (time, .event e) = none) (time : Nat)
    (done : CycleDone) : (cycleEvents time done).filterMap f = [] := by
  rw [cycleEvents, List.filterMap_append, filterMap_eventsAt hf, List.nil_append,
    List.filterMap_eq_nil_iff]
  intro point hpoint
  obtain ⟨⟨t, e⟩, -, rfl⟩ := List.mem_map.mp hpoint
  exact hf (time + t) e

/-- Where a view shows nothing, it shows a point that is put in. -/
theorem filterMap_insertMark (mark : Nat × Mark) {trace : Trace} (h : trace.filterMap f = []) :
    (insertMark mark trace).filterMap f = [mark].filterMap f := by
  induction trace with
  | nil => rfl
  | cons m rest ih =>
      rw [List.filterMap_eq_nil_iff] at h
      have hm : f m = none := h m List.mem_cons_self
      have hrest : rest.filterMap f = [] :=
        List.filterMap_eq_nil_iff.mpr fun m' hm' => h m' (List.mem_cons_of_mem m hm')
      rw [insertMark]
      split
      · rw [List.filterMap_cons_none hm, ih hrest]
      · show ([mark] ++ m :: rest).filterMap f = _
        rw [List.filterMap_append, List.filterMap_cons_none hm, hrest, List.append_nil]

/-- A point that a view passes over changes nothing where it is put in. -/
theorem filterMap_insertMark_of_none {mark : Nat × Mark} (h : f mark = none) (trace : Trace) :
    (insertMark mark trace).filterMap f = trace.filterMap f := by
  induction trace with
  | nil => exact List.filterMap_cons_none h
  | cons m rest ih =>
      rw [insertMark]
      split
      · rw [List.filterMap_cons, List.filterMap_cons, ih]
      · rw [List.filterMap_cons_none h]

/-- A view that passes over the signal as well shows the end of a cycle only. -/
theorem filterMap_cycleCourse (hf : ∀ time e, f (time, .event e) = none)
    (hsignal : ∀ time, f (time, .signal) = none) (signal : Signal) (time : Nat)
    (done : CycleDone) :
    (cycleCourse signal time done).1.filterMap f
      = [(time + done.dispatched.elapsed, Mark.cycle done)].filterMap f := by
  have hnone : (cycleEvents time done).filterMap f = [] := filterMap_cycleEvents hf time done
  rcases cycleCourse_cases signal time done with ⟨moment, -, -, -, heq⟩ | ⟨-, heq⟩
  · have hmark : [(moment, Mark.signal)].filterMap f = [] :=
      List.filterMap_cons_none (hsignal moment)
    rw [heq, List.filterMap_append, filterMap_insertMark _ hnone, hmark, List.nil_append]
  · rw [heq, List.filterMap_append, hnone, List.nil_append]

end

namespace Trace

/-- The times at which fetches begin. -/
def fetchTimes (trace : Trace) : List Nat :=
  trace.filterMap fun
    | (time, .fetch _) => some time
    | _ => none

/-- The times at which the signal is given. -/
def signals (trace : Trace) : List Nat :=
  trace.filterMap fun
    | (time, .signal) => some time
    | _ => none

/-- The snapshots that are dispatched, each with the time at which its dispatch begins. -/
def dispatches (trace : Trace) : List (Nat × Snapshot) :=
  trace.filterMap fun
    | (finish, .cycle done) => some (finish - done.dispatched.elapsed, done.inputs.current)
    | _ => none

variable (trace trace' : Trace) (signal : Signal) (time : Nat) (log : Log) (done : CycleDone)

@[simp] theorem fetchTimes_nil : fetchTimes [] = [] := rfl

@[simp] theorem fetchTimes_append :
    fetchTimes (trace ++ trace') = fetchTimes trace ++ fetchTimes trace' := List.filterMap_append

@[simp] theorem signals_append :
    signals (trace ++ trace') = signals trace ++ signals trace' := List.filterMap_append

@[simp] theorem dispatches_append :
    dispatches (trace ++ trace') = dispatches trace ++ dispatches trace' := List.filterMap_append

@[simp] theorem fetchTimes_eventsAt : fetchTimes (eventsAt time log) = [] :=
  filterMap_eventsAt (fun _ _ => rfl) time log

@[simp] theorem signals_eventsAt : signals (eventsAt time log) = [] :=
  filterMap_eventsAt (fun _ _ => rfl) time log

@[simp] theorem dispatches_eventsAt : dispatches (eventsAt time log) = [] :=
  filterMap_eventsAt (fun _ _ => rfl) time log

@[simp] theorem fetchTimes_marks : fetchTimes (signal.marks time) = [] := by
  rw [Signal.marks]
  split <;> rfl

@[simp] theorem signals_marks :
    signals (signal.marks time) = if signal.shown then [] else [time] := by
  rw [Signal.marks]
  split <;> rfl

@[simp] theorem dispatches_marks : dispatches (signal.marks time) = [] := by
  rw [Signal.marks]
  split <;> rfl

@[simp] theorem fetchTimes_cycleCourse : fetchTimes (cycleCourse signal time done).1 = [] :=
  filterMap_cycleCourse (fun _ _ => rfl) (fun _ => rfl) signal time done

@[simp] theorem dispatches_cycleCourse :
    dispatches (cycleCourse signal time done).1 = [(time, done.inputs.current)] := by
  have hcourse := filterMap_cycleCourse (f := fun
    | (finish, .cycle done) => some (finish - done.dispatched.elapsed, done.inputs.current)
    | _ => none) (fun _ _ => rfl) (fun _ => rfl) signal time done
  rw [dispatches, hcourse]
  simp

@[simp] theorem cycles_cycleCourse : cycles (cycleCourse signal time done).1 = [done] :=
  filterMap_cycleCourse (fun _ _ => rfl) (fun _ => rfl) signal time done

/-- The signal after which a loop stops is shown. -/
theorem shownTimes_marks {signal : Signal} {time moment : Nat}
    (hat : signal.at? = some moment) (heq : signal.shown = false → time = moment) :
    signal.shownTimes ++ signals (signal.marks time) = [moment] := by
  rw [signals_marks, Signal.shownTimes, hat]
  cases hshown : signal.shown with
  | true => rfl
  | false => rw [heq hshown]; rfl

/-- A course that goes on with a cycle shows the signal once at most. -/
theorem shownTimes_cycleCourse :
    signal.shownTimes ++ signals (cycleCourse signal time done).1
      = (cycleCourse signal time done).2.shownTimes := by
  have hnone : signals (cycleEvents time done) = [] :=
    filterMap_cycleEvents (fun _ _ => rfl) time done
  have hend : signals [(time + done.dispatched.elapsed, Mark.cycle done)] = [] := rfl
  rcases cycleCourse_cases signal time done with ⟨moment, hat, hshown, hle, heq⟩ | ⟨-, heq⟩
  · have hmark : signals (insertMark (moment, .signal) (cycleEvents time done)) = [moment] :=
      filterMap_insertMark _ hnone
    rw [Option.mem_def] at hat
    simp only [heq, signals_append, hmark, hend, Signal.shownTimes, hshown, hat,
      Bool.false_eq_true, if_false, if_true, Option.toList_some, List.nil_append, List.append_nil]
  · simp only [heq, signals_append, hnone, hend, List.append_nil]

/-! ## The log -/

/-- The log of a course by time. -/
def timedLog (trace : Trace) : List Timed :=
  trace.filterMap fun
    | (time, .event e) => some (time, e)
    | _ => none

@[simp] theorem timedLog_append :
    timedLog (trace ++ trace') = timedLog trace ++ timedLog trace' := List.filterMap_append

/-- Points that are all reports are the log. -/
theorem timedLog_map_event (entries : List Timed) (offset : Nat) :
    timedLog (entries.map fun (t, e) => (offset + t, Mark.event e))
      = entries.map fun (t, e) => (offset + t, e) := by
  induction entries with
  | nil => rfl
  | cons entry entries ih => exact congrArg (_ :: ·) ih

@[simp] theorem timedLog_eventsAt : timedLog (eventsAt time log) = log.map (time, ·) := by
  induction log with
  | nil => rfl
  | cons e log ih => exact congrArg (_ :: ·) ih

@[simp] theorem timedLog_marks : timedLog (signal.marks time) = [] := by
  rw [Signal.marks]
  split <;> rfl

/-- A cycle shows the report on the override file, and then the log of its dispatch. -/
theorem timedLog_cycleCourse :
    timedLog (cycleCourse signal time done).1
      = done.fileLog.map (time, ·) ++ done.dispatched.log.map fun (t, e) => (time + t, e) := by
  have hevents : timedLog (cycleEvents time done)
      = done.fileLog.map (time, ·) ++ done.dispatched.log.map fun (t, e) => (time + t, e) := by
    rw [cycleEvents, timedLog_append, timedLog_eventsAt, timedLog_map_event]
  have hend : timedLog [(time + done.dispatched.elapsed, Mark.cycle done)] = [] := rfl
  rcases cycleCourse_cases signal time done with ⟨moment, -, -, -, heq⟩ | ⟨-, heq⟩
  · have hmark : timedLog (insertMark (moment, .signal) (cycleEvents time done))
        = timedLog (cycleEvents time done) := filterMap_insertMark_of_none rfl _
    rw [heq, timedLog_append, hmark, hend, List.append_nil, hevents]
  · rw [heq, timedLog_append, hend, List.append_nil, hevents]

end Trace

theorem Run.timedLog_eq (r : Run) : r.timedLog = Trace.timedLog r.trace := rfl

/-- The times at which the signal is given in a run. -/
def Run.signals (r : Run) : List Nat := Trace.signals r.trace

/-- The snapshots that are dispatched in a run, each with the time of its dispatch. -/
def Run.dispatches (r : Run) : List (Nat × Snapshot) := Trace.dispatches r.trace

end HostAgent
