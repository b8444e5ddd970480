import HostAgent.Proofs.Watch.Loop
import Mathlib.Data.List.Forall2

set_option autoImplicit false

/-! # Broken override files

An override file is broken (`OverrideFile.Broken`) if it is a directory, holds bytes that are no
text, or a text that is refused as a settings file, wherever the fault is found. A broken file is as
good as none: two runs that differ only in that some broken files of the one are missing in the
other go the same way in every cycle, and their logs differ by the reports on those files
(`broken_file_is_no_file`).

So nothing of a broken file counts, not even what stands before the fault, and neither does anything
of the files of earlier cycles: the loop keeps no overrides from one cycle to the next, and those of
a cycle follow from its own file, as it is read in that cycle (`Loop.overrides_of_journal`).
-/

namespace HostAgent

namespace OverrideFile

/-- A file that cannot be used, and why. -/
inductive Broken (path : String) : FileContents → OverrideFault → Prop
  | directory : Broken path .directory (.read path .isDirectory)
  | notText {contents : List UInt8} : Utf8.decode? contents = none →
      Broken path (.bytes contents) (.read path .notText)
  | refused {contents : List UInt8} {text : String} {fault : Ini.Fault} :
      Utf8.decode? contents = some text → Ini.read text = .error fault →
      Broken path (.bytes contents) (.parse path fault.message)

/-- The report on a broken file. -/
def report (fault : OverrideFault) : Event :=
  ⟨.error, .overrides, "Using default configuration", [("error", .shown fault.message)]⟩

variable {path : String} {file : FileContents} {fault : OverrideFault} {walk : Ini.Walk}

/-- The broken files are those that are rejected, in whatever order their tables would be
walked. -/
theorem ofFile_eq_error_iff :
    Overrides.ofFile path file walk = .error fault ↔ Broken path file fault := by
  constructor
  · intro h
    cases file with
    | absent => cases h
    | directory =>
        cases h
        exact .directory
    | bytes contents =>
        rw [Overrides.ofFile] at h
        cases htext : Utf8.decode? contents with
        | none =>
            rw [htext] at h
            cases h
            exact .notText htext
        | some text =>
            simp only [htext, Overrides.ofText] at h
            cases hread : Ini.read text with
            | ok items =>
                rw [hread] at h
                cases h
            | error cause =>
                rw [hread] at h
                cases h
                exact .refused htext hread
  · intro h
    cases h with
    | directory => rfl
    | notText htext => simp only [Overrides.ofFile, htext]
    | refused htext hread =>
        simp only [Overrides.ofFile, htext, Overrides.ofText, hread]
        rfl

theorem exists_broken (h : (Overrides.ofFile path file).toOption = none) :
    ∃ fault, Broken path file fault := by
  cases hfile : Overrides.ofFile path file with
  | ok overrides =>
      rw [hfile] at h
      cases h
  | error fault => exact ⟨fault, ofFile_eq_error_iff.mp hfile⟩

theorem load_of_broken (h : Broken path file fault) :
    Overrides.load path file walk = (Overrides.empty, [report fault]) := by
  rw [Overrides.load, ofFile_eq_error_iff.mpr h]
  rfl

end OverrideFile

open OverrideFile

/-! ## Cycles -/

/-- What a cycle reports, counted from its beginning: the override file comes first. -/
def CycleDone.log (c : CycleDone) : List Timed := c.fileLog.map (0, ·) ++ c.dispatched.log

/-- The same occasion, unless its file is broken: then the file may be missing instead. -/
inductive Mended (path : String) (o : Occasion) : Occasion → Prop
  | same : Mended path o o
  | missing {fault : OverrideFault} : Broken path o.file fault →
      Mended path o { o with file := .absent }

/-- How a cycle goes that may have met a broken file, beside the one in whose place that file may
have been missing. -/
structure LikeMended (path : String) (c c' : Occasion × CycleDone) : Prop where
  overrides : c.2.inputs.overrides = c'.2.inputs.overrides
  outcomes : c.2.dispatched.report = c'.2.dispatched.report
  calls : c.2.dispatched.calls = c'.2.dispatched.calls
  host : c.2.dispatched.host = c'.2.dispatched.host
  stats : c.2.state.stats = c'.2.state.stats
  log : (c.1.file = c'.1.file ∧ c.2.log = c'.2.log)
    ∨ ∃ fault, Broken path c.1.file fault ∧ c'.1.file = .absent
      ∧ c.2.log = (0, report fault) :: c'.2.log

namespace Loop

variable {path : String} {l : Loop} {o o' : Occasion}

/-- What a cycle does depends on the overrides that its file gives, not on the file. -/
theorem cycle_of_load {file file' : FileContents}
    (h : (Overrides.load path file o.walk).1 = (Overrides.load path file' o.walk).1) :
    l.cycle path { o with file } = { l.cycle path { o with file := file' } with
      fileLog := (Overrides.load path file o.walk).2 } := by
  simp only [cycle, WatchState.cycle]
  -- the turns of the tasks depend on the domains, so the two files must go at once
  generalize Overrides.load path file o.walk = loaded at h ⊢
  generalize Overrides.load path file' o.walk = loaded' at h ⊢
  obtain ⟨overrides, log⟩ := loaded
  obtain ⟨overrides', log'⟩ := loaded'
  subst h
  rfl

/-- A cycle with a broken file is the cycle without a file, except for the report. -/
theorem cycle_of_broken {fault : OverrideFault} (h : Broken path o.file fault) :
    l.cycle path o
      = { l.cycle path { o with file := .absent } with fileLog := [report fault] } := by
  have hload : (Overrides.load path o.file o.walk).1 = (Overrides.load path .absent o.walk).1 := by
    rw [load_of_broken h]
    rfl
  have hcycle := cycle_of_load (l := l) (o := o) hload
  rw [load_of_broken h] at hcycle
  exact hcycle

theorem next_of_mended (h : Mended path o o') : l.next path o = l.next path o' := by
  cases h with
  | same => rfl
  | missing hbroken => rw [next, cycle_of_broken hbroken, next]

theorem likeMended_cycle (h : Mended path o o') :
    LikeMended path (o, l.cycle path o) (o', l.cycle path o') := by
  cases h with
  | same => exact ⟨rfl, rfl, rfl, rfl, rfl, .inl ⟨rfl, rfl⟩⟩
  | @missing fault hbroken =>
      rw [cycle_of_broken hbroken]
      have hlog : ({ l.cycle path { o with file := .absent } with fileLog := [report fault] }
            : CycleDone).log
          = (0, report fault) :: (l.cycle path { o with file := .absent }).log := rfl
      exact ⟨rfl, rfl, rfl, rfl, rfl, .inr ⟨fault, hbroken, rfl, hlog⟩⟩

/-- The cycles of a loop with what each of them met. -/
def journal (path : String) (l : Loop) (occasions : List Occasion) : List (Occasion × CycleDone) :=
  occasions.zip (history path l occasions)

/-- **The overrides of a cycle follow from its own file.** They are what the file says as it is read
in this cycle; of a broken file nothing counts. -/
theorem overrides_of_journal {occasions : List Occasion} {c : Occasion × CycleDone}
    (hc : c ∈ journal path l occasions) :
    (∀ overrides, Overrides.ofFile path c.1.file c.1.walk = .ok overrides →
        c.2.inputs.overrides = overrides)
      ∧ (∀ fault, Broken path c.1.file fault → c.2.inputs.overrides = Overrides.empty) := by
  have hload : c.2.inputs.overrides = c.1.overrides path := by
    induction occasions generalizing l with
    | nil => cases hc
    | cons o occasions ih =>
        rcases List.mem_cons.mp hc with rfl | hc
        · rfl
        · exact ih hc
  constructor
  · intro overrides hfile
    rw [hload, Occasion.overrides, Overrides.load, hfile]
  · intro fault hbroken
    rw [hload, Occasion.overrides, load_of_broken hbroken]

end Loop

/-- **A broken override file is as good as none.** In two runs from one loop, some of the broken
files that the first one meets are missing in the second. Then in every cycle the two have the same
overrides in force, the same outcomes, calls, hosts and counters, and the log of the cycle is the
same but for a report on the broken file. In force is what the file of the cycle itself says, as
its tables are walked in this cycle, and with a broken file nothing. -/
theorem broken_file_is_no_file (path : String) (l : Loop) {occasions mended : List Occasion}
    (h : List.Forall₂ (Mended path) occasions mended) :
    List.Forall₂ (LikeMended path) (l.journal path occasions) (l.journal path mended)
      ∧ (Loop.history path l occasions).length = occasions.length
      ∧ ∀ c ∈ l.journal path occasions,
        (∀ overrides, Overrides.ofFile path c.1.file c.1.walk = .ok overrides →
          c.2.inputs.overrides = overrides)
        ∧ ∀ fault, Broken path c.1.file fault → c.2.inputs.overrides = Overrides.empty := by
  refine ⟨?_, ?_, fun c hc => Loop.overrides_of_journal hc⟩
  · induction h generalizing l with
    | nil => exact .nil
    | @cons o o' occasions mended hfirst _ ih =>
        have hrest := ih (l.next path o)
        refine .cons (Loop.likeMended_cycle hfirst) ?_
        show List.Forall₂ _ (Loop.journal path (l.next path o) occasions)
          (Loop.journal path (l.next path o') mended)
        rw [← Loop.next_of_mended hfirst]
        exact hrest
  · clear h
    induction occasions generalizing l with
    | nil => rfl
    | cons o occasions ih => rw [Loop.history, List.length_cons, ih, List.length_cons]

/-- A cycle of a machine that is the member of a cluster and publishes another address. -/
def publishedCycle (file : FileContents) : Occasion where
  snapshot := { machine := {
    attributes := Dict.ofList [("wsfc-addrs", "10.0.0.1"), ("enable-wsfc", "true")]
    interfaces := [{ forwardedIps := ["10.0.0.2"] }] } }
  file
  now := ⟨0, 0⟩

/-- A run in which a good file is followed by broken ones of all kinds, and by a good one again. The
first of the broken ones sets a port before the header of a group that never ends. -/
def brokenRun : List Occasion :=
  [publishedCycle (.bytes "[wsfc]\nport = 8".toUTF8.toList),
    publishedCycle (.bytes "[wsfc]\nport = 9\n[addresses".toUTF8.toList), publishedCycle .directory,
    publishedCycle (.bytes [0x5B, 0xFF]), publishedCycle (.bytes "[wsfc]\nport = 7".toUTF8.toList)]

/-- The run with two of its broken files away. -/
def mendedRun : List Occasion :=
  [publishedCycle (.bytes "[wsfc]\nport = 8".toUTF8.toList), publishedCycle .absent,
    publishedCycle .directory, publishedCycle .absent,
    publishedCycle (.bytes "[wsfc]\nport = 7".toUTF8.toList)]

/-- The port before the fault never counts, and neither does the one of the first file. -/
theorem broken_file_is_no_file_of_brokenRun :
    List.Forall₂ (Mended "agent.cfg") brokenRun mendedRun
      ∧ List.Forall₂ (LikeMended "agent.cfg") (Loop.journal "agent.cfg" {} brokenRun)
        (Loop.journal "agent.cfg" {} mendedRun)
      ∧ (Loop.history "agent.cfg" {} brokenRun).length = 5
      ∧ (Loop.history "agent.cfg" {} brokenRun).map (·.inputs.overrides.port? "wsfc" "port")
        = [some 8, none, none, none, some 7] := by
  have hcut : ∃ fault, Broken "agent.cfg"
      (.bytes "[wsfc]\nport = 9\n[addresses".toUTF8.toList) fault :=
    exists_broken (by decide +kernel)
  have hbytes : ∃ fault, Broken "agent.cfg" (.bytes [0x5B, 0xFF]) fault :=
    exists_broken (by decide +kernel)
  obtain ⟨_, hcut⟩ := hcut
  obtain ⟨_, hbytes⟩ := hbytes
  have hmended : List.Forall₂ (Mended "agent.cfg") brokenRun mendedRun :=
    .cons .same (.cons (.missing hcut) (.cons .same (.cons (.missing hbytes) (.cons .same .nil))))
  obtain ⟨halike, hlength, -⟩ := broken_file_is_no_file "agent.cfg" {} hmended
  exact ⟨hmended, halike, hlength, by decide +kernel⟩

end HostAgent
