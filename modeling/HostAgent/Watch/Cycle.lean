import HostAgent.Dispatch.Run
import HostAgent.Fetch.Error
import HostAgent.Fetch.Streak
import HostAgent.Host
import HostAgent.OverrideFile
import HostAgent.Snapshot.Basic

set_option autoImplicit false

/-! # Cycles of the watch loop

The watch loop keeps the snapshot of the last cycle, the streak of failed fetches, its
counters, and the memory of logged statuses. A cycle reads the override file, dispatches all
domains for the pair of snapshots, and then moves on to the new snapshot whatever became of
the domains. A failed fetch changes the counters only.

What the cycle does not decide itself comes with it: the order in which its tasks take their
turns, the numbers that they are given, and the walk through the tables of the override file.
Unless told otherwise the tasks take their turns as `schedule` says and are numbered from one.
-/

namespace HostAgent

/-- The counters of a watch loop. They are kept in 64 bits and counted up by one: no run comes
near the end of these, and the counters are unbounded here. -/
structure WatchStats where
  /-- Cycles that were dispatched to their ends. -/
  cycles : Nat := 0
  fetchFailures : Nat := 0
  /-- Failed fetches that were reported. -/
  failuresLogged : Nat := 0
deriving DecidableEq, Repr

/-- What a watch loop knows from one fetch to the next. -/
structure WatchState where
  previous : Snapshot := Snapshot.empty
  streak : Streak := Streak.start
  stats : WatchStats := {}
  status : Dict Bool := ∅

/-- What a watch loop works on: the host and the override file. -/
structure Surroundings where
  host : Host := Host.fresh
  overrides : FileContents := .absent

/-- A cycle that has ended: what its domains were built from, the dispatch, the report on the
override file, and the loop after it. -/
structure CycleDone where
  inputs : Inputs Snapshot
  dispatched : Dispatched Host
  fileLog : Log
  state : WatchState

namespace WatchState

/-- A cycle for a snapshot at the clock reading `now`; `order` gives the turns of its tasks,
`walk` the order in which the override file is listed, and `numbers` the numbers of the tasks. -/
def cycle (w : WatchState) (registry : Registry Snapshot Host) (path : String)
    (around : Surroundings) (now : Instant) (snapshot : Snapshot)
    (order : List (Domain Host) → List Turn := schedule) (walk : Ini.Walk := {})
    (numbers : Nat → Nat := (· + 1)) : CycleDone :=
  let (overrides, fileLog) := Overrides.load path around.overrides walk
  let inputs := { previous := w.previous, current := snapshot, overrides, now }
  let domains := registry.instantiate inputs
  let dispatched := dispatchIn (order domains) domains around.host w.status numbers
  { inputs
    dispatched
    fileLog
    state := { w with
      previous := snapshot
      status := dispatched.status
      stats := { w.stats with cycles := w.stats.cycles + 1 } } }

/-- The loop after a successful fetch. -/
def fetched (w : WatchState) : WatchState := { w with streak := w.streak.succeed }

/-- The report on a failed fetch that is due for one. -/
def failureLog (error : FetchError) (streak : Streak) : Log :=
  let hint := match error.hint with
    | none => []
    | some text => [⟨.error, .watch, text, [("kind", .shown error.kind.name)]⟩]
  hint ++ [⟨.error, .watch, "Failed to fetch metadata",
    [("error", .shown error.message), ("consecutive_failures", .number streak.length)]⟩]

/-- The loop after a failed fetch, and the report on it. -/
def fetchFailed (w : WatchState) (error : FetchError) : WatchState × Log :=
  let streak := w.streak.fail
  let stats := { w.stats with fetchFailures := w.stats.fetchFailures + 1 }
  if streak.isReported then
    ({ w with streak, stats := { stats with failuresLogged := stats.failuresLogged + 1 } },
      failureLog error streak)
  else ({ w with streak, stats }, [])

end WatchState

end HostAgent
