import HostAgent.Proofs.File.Folder
import HostAgent.Proofs.Service.Commands

set_option autoImplicit false

/-! # What control of the service does

An action has at most one step on the unit file, and its commands are given up to and including the
first one that fails. The unit is put into place before the first command, and removed after one
that has confirmed that the service is disabled. What an order to take an action does is its
`Service.Conduct`. It depends on the unit directory only by whether the unit can be written or
removed.

The unit and the temporary file beside it are the only entries that an action touches, so nothing
else changes in a sequence of orders (`Service.conduct_of_orders`). This takes a temporary name
under which there is no link: the unit is written through a link, to wherever it leads, and the link
is what is then put into place.

The file system does not look up names over 255 bytes or paths over 4095 bytes. A unit with such a
name cannot be there, yet its removal fails (`Service.Removes.fails_of_too_long`).
-/

namespace HostAgent.Service

/-! ## The names of the unit and its temporary file -/

/-- The name of the file in which the unit is written before it is put into place. -/
def temporaryName (s : Service) : String := s.name ++ ".service.tmp"

/-- A name made long enough by its ending is the path of an entry. -/
theorem isEntryName_append {name suffix : String} (hslash : '/' ∉ name.toList)
    (hlength : 2 < suffix.length) (hsuffix : '/' ∉ suffix.toList) :
    IsEntryName (name ++ suffix) := by
  have hne : ∀ short : String, short.length ≤ 2 → name ++ suffix ≠ short := by
    intro short hshort heq
    have htotal := congrArg String.length heq
    rw [String.length_append] at htotal
    omega
  refine ⟨hne "" (by decide), hne "." (by decide), hne ".." (by decide), ?_⟩
  rw [String.toList_append]
  exact fun h => (List.mem_append.mp h).elim hslash hsuffix

section

variable {s : Service} (hname : s.name ≠ "") (hslash : '/' ∉ s.name.toList)
include hslash

theorem isEntryName_unitName : IsEntryName s.unitName :=
  isEntryName_append hslash (by decide) (by decide)

theorem isEntryName_temporaryName : IsEntryName s.temporaryName :=
  isEntryName_append hslash (by decide) (by decide)

omit hslash in
theorem temporaryName_ne_unitName : s.temporaryName ≠ s.unitName := by
  intro heq
  have htotal := congrArg String.length heq
  rw [temporaryName, unitName, String.length_append, String.length_append] at htotal
  exact absurd (Nat.add_left_cancel htotal) (by decide)

include hname in
theorem temporaryPath_unitName : Folder.temporaryPath s.unitName = s.temporaryName := by
  have hbase : s.name.toList ≠ [] := fun hnil => hname (String.toList_eq_nil_iff.mp hnil)
  have hunit : s.unitName.toList = s.name.toList ++ '.' :: "service".toList := by
    rw [unitName, String.toList_append]
    rfl
  have hstem : Path.stem s.unitName.toList = s.name.toList := by
    rw [hunit, Path.stem_append hbase (by decide)]
  rw [Folder.temporaryPath, Path.withExtension,
    Path.splitChars_of_no_slash (isEntryName_unitName hslash).no_slash]
  simp only [List.nil_append, hstem]
  rw [temporaryName, ← String.toList_inj, String.toList_ofList, String.toList_append]
  rfl

end

/-! ## Steps on the unit file -/

section

variable {s : Service} (hname : s.name ≠ "") (hslash : '/' ∉ s.name.toList)
include hslash

/-- What does not keep the temporary file from being looked up does not keep the unit: its name is
shorter. -/
theorem barrier?_unitName {before : Folder}
    (h : before.barrier? s.unitDirectory s.temporaryName = none) :
    before.barrier? s.unitDirectory s.unitName = none := by
  have hlonger : s.temporaryName = s.unitName ++ ".tmp" := by
    rw [temporaryName, unitName, String.append_assoc]
    rfl
  rw [hlonger] at h
  exact Folder.barrier?_of_append (isEntryName_unitName hslash).nonempty h

section

variable {before : Folder} (text : String)
include hname

theorem exists_replaced_unit (ht : before.Writable s.unitDirectory s.temporaryName)
    (hfree : before.get? s.unitName ≠ some .directory) :
    ∃ after, before.writeAtomic s.unitDirectory s.unitName text = (after, .ok ())
      ∧ before.Replaced after s.unitDirectory s.temporaryName s.unitName (Utf8.encode text) := by
  have hpath := temporaryPath_unitName hname hslash
  have htemporary := isEntryName_temporaryName hslash
  have hne := temporaryName_ne_unitName (s := s)
  obtain ⟨place, hreach, -⟩ := id ht
  have hbarrier := barrier?_unitName hslash (Folder.barrier?_of_reach htemporary hreach)
  rw [← hpath] at ht htemporary hne ⊢
  exact Folder.exists_replaced (isEntryName_unitName hslash) htemporary hne text ht hbarrier hfree

/-- If a directory stands in the place of the unit, what was written for it stays behind. -/
theorem writeAtomic_of_unit_directory {place : Place}
    (hreach : before.reach true s.unitDirectory s.temporaryName = .ok place)
    (hplace : before.entryAt place ≠ some .directory)
    (hunit : before.get? s.unitName = some .directory) :
    before.writeAtomic s.unitDirectory s.unitName text
      = (before.alter (·.put place (Utf8.encode text)), .error .isDirectory) := by
  have htemporary := isEntryName_temporaryName hslash
  have hbarrier := barrier?_unitName hslash (Folder.barrier?_of_reach htemporary hreach)
  rw [← temporaryPath_unitName hname hslash] at hreach htemporary
  exact Folder.writeAtomic_of_directory (isEntryName_unitName hslash) htemporary text hreach hplace
    hbarrier hunit

/-- If the temporary file cannot be written, nothing is. -/
theorem writeAtomic_of_not_temporary
    (hnot : ¬before.Writable s.unitDirectory s.temporaryName) :
    ∃ fault, before.writeAtomic s.unitDirectory s.unitName text = (before, .error fault) := by
  rw [← temporaryPath_unitName hname hslash] at hnot
  exact Folder.writeAtomic_of_not_writable text hnot

end

include hname in
theorem writeUnit_of_writable {p : Progress}
    (ht : p.folder.Writable s.unitDirectory s.temporaryName)
    (hfree : p.folder.get? s.unitName ≠ some .directory) :
    ∃ p', s.writeUnit p = (p', none) ∧ p'.commands = p.commands
      ∧ p.folder.Replaced p'.folder s.unitDirectory s.temporaryName s.unitName
        (Utf8.encode s.unitText) := by
  obtain ⟨after, hafter, hreplaced⟩ := exists_replaced_unit hname hslash s.unitText ht hfree
  refine ⟨{ p with folder := after, log := p.log ++ [s.unitEvent "Service unit written"] }, ?_, rfl,
    hreplaced⟩
  rw [writeUnit, hafter]

include hname in
/-- If the unit cannot be put into place, what has changed is at most what the temporary name leads
to. -/
theorem writeUnit_of_not_writable {p : Progress}
    (hnot : ¬(p.folder.Writable s.unitDirectory s.temporaryName
      ∧ p.folder.get? s.unitName ≠ some .directory)) :
    ∃ p' cause, s.writeUnit p = (p', some (.write s.unitPath cause)) ∧ p'.commands = p.commands
      ∧ p.folder.SameAt p'.folder s.unitName
      ∧ (p.folder.Unlinked s.temporaryName → p'.folder.Unlinked s.temporaryName)
      ∧ ∀ path, ¬p.folder.Touches s.unitDirectory s.temporaryName path →
        p.folder.SameAt p'.folder path := by
  by_cases ht : p.folder.Writable s.unitDirectory s.temporaryName
  · have hdirectory : p.folder.get? s.unitName = some .directory :=
      Decidable.byContradiction fun hfree => hnot ⟨ht, hfree⟩
    obtain ⟨place, hreach, hplace⟩ := ht
    have hwrite :=
      writeAtomic_of_unit_directory hname hslash s.unitText hreach hplace hdirectory
    refine ⟨{ p with folder := p.folder.alter (·.put place (Utf8.encode s.unitText)) },
      .isDirectory, ?_, rfl, ⟨?_, fun number hitem => ?_⟩,
      Folder.unlinked_put (isEntryName_temporaryName hslash) hreach hplace,
      Folder.sameAt_put _ hreach⟩
    · rw [writeUnit, hwrite]
    · rw [hdirectory]
      exact Folder.get?_put_of_some _ hplace hdirectory
    · cases hdirectory.symm.trans hitem
  · obtain ⟨cause, hwrite⟩ := writeAtomic_of_not_temporary hname hslash s.unitText ht
    refine ⟨p, cause, ?_, rfl, .refl _ _, id, fun _ _ => .refl _ _⟩
    rw [writeUnit, hwrite]

theorem removeUnit_of_clears {p : Progress}
    (hc : p.folder.Clears s.unitDirectory s.unitName) :
    ∃ p', s.removeUnit p = (p', none) ∧ p'.commands = p.commands
      ∧ p'.folder.get? s.unitName = none
      ∧ (p.folder.get? s.unitName = none → p'.folder = p.folder)
      ∧ (∀ path entry, p'.folder.get? path = some entry → p.folder.get? path = some entry)
      ∧ ∀ path, path ≠ s.unitName → p.folder.SameAt p'.folder path := by
  obtain ⟨g, hg, hthere, hgone, hsub, hframe⟩ | ⟨habsent, hnone⟩ :=
    Folder.remove_of_clears (isEntryName_unitName hslash) hc
  · refine ⟨{ p with folder := g, log := p.log ++ [s.unitEvent "Service unit removed"] }, ?_, rfl,
      hgone, fun hnone => absurd hnone hthere, hsub, hframe⟩
    rw [removeUnit, hg]
  · refine ⟨p, ?_, rfl, hnone, fun _ => rfl, fun _ _ hentry => hentry, fun _ _ => .refl _ _⟩
    rw [removeUnit, habsent]

theorem removeUnit_of_not_clears {p : Progress}
    (hc : ¬p.folder.Clears s.unitDirectory s.unitName) :
    s.removeUnit p = (p, some (.remove s.unitPath
      ((p.folder.barrier? s.unitDirectory s.unitName).getD .isDirectory))) := by
  obtain ⟨hcause, hne⟩ := Folder.remove_of_not_clears (isEntryName_unitName hslash) hc
  rw [removeUnit, hcause]
  generalize (p.folder.barrier? s.unitDirectory s.unitName).getD .isDirectory = cause at hne
  cases cause <;> first | exact absurd rfl hne | rfl

end

/-! ## Actions -/

/-- An order to take an action, with what becomes of its commands. -/
structure Order where
  action : Action
  replies : Nat → Launch

/-- An order whose commands all succeed. -/
def Order.granted (action : Action) : Order := ⟨action, fun _ => .ok {}⟩

/-- What an order does, from the given state of the unit directory. -/
def carryOut (s : Service) (before : Folder) (order : Order) : Done :=
  s.control order.action order.replies before

/-- The unit directory after some orders. -/
def folderAfter (s : Service) (folder : Folder) (orders : List Order) : Folder :=
  orders.foldl (fun before order => (s.carryOut before order).1.folder) folder

/-- The arguments of a step that gives a command. -/
def Step.arguments? : Step → Option (List String)
  | .command arguments => some arguments
  | _ => none

/-- The commands of an action. -/
def commandList (s : Service) (action : Action) : List (List String) :=
  (action.steps s.name).filterMap Step.arguments?

/-- The unit can be written and put into place. -/
structure AllowsUnit (s : Service) (before : Folder) : Prop where
  temporary : before.Writable s.unitDirectory s.temporaryName
  unit : before.get? s.unitName ≠ some .directory

/-- The first step of a removal has confirmed that the service is disabled. -/
def Disabled (s : Service) (order : Order) : Prop :=
  Succeeds (launch ["disable", s.name] (order.replies 0))

/-- An action gets to its step on the unit file, and the step is refused. -/
def Refused (s : Service) (before : Folder) (order : Order) : Prop :=
  match order.action with
  | .install => ¬s.AllowsUnit before
  | .start | .stop => False
  | .remove => s.Disabled order ∧ ¬before.Clears s.unitDirectory s.unitName

/-- The unit is put into place before the first command, or no command is given. -/
structure Installs (s : Service) (before : Folder) (done : Done) : Prop where
  allowed : ¬before.IsLink s.temporaryName →
    (s.AllowsUnit before ↔ before.barrier? s.unitDirectory s.temporaryName = none
      ∧ before.get? s.temporaryName ≠ some .directory
      ∧ before.get? s.unitName ≠ some .directory)
  refused : ¬s.AllowsUnit before →
    done.1.commands = [] ∧ before.SameAt done.1.folder s.unitName
      ∧ ∃ cause, done.2 = some (.write s.unitPath cause)
  written : s.AllowsUnit before → before.Unlinked s.temporaryName →
    done.1.folder.Holds s.unitName (Utf8.encode s.unitText)
      ∧ done.1.folder.get? s.temporaryName = none
  /-- What becomes of links under the temporary name. -/
  replaced : s.AllowsUnit before →
    before.Replaced done.1.folder s.unitDirectory s.temporaryName s.unitName
      (Utf8.encode s.unitText)

/-- The unit is removed once the service is disabled. An absent unit is as good as removed if it is
not found, and not if something else keeps it from being looked up. -/
structure Removes (s : Service) (before : Folder) (order : Order) (done : Done) : Prop where
  not_disabled : ¬s.Disabled order → done.1.folder = before
  refused : s.Disabled order → ¬before.Clears s.unitDirectory s.unitName →
    done.1.folder = before ∧ done.1.commands.map (·.1) = [["disable", s.name]]
      ∧ done.2 = some (.remove s.unitPath
        ((before.barrier? s.unitDirectory s.unitName).getD .isDirectory))
  removed : s.Disabled order → before.Clears s.unitDirectory s.unitName →
    done.1.folder.get? s.unitName = none
  absent : s.Disabled order → before.get? s.unitName = none →
    done.1.folder = before
      ∧ (s.Refused before order
        ↔ ∃ fault, before.barrier? s.unitDirectory s.unitName = some fault ∧ fault ≠ .notFound)
  too_long : s.Disabled order → before.get? s.unitName = none → '\x00' ∉ s.unitPath.toList →
    FileTree.maxPathSize < s.unitPath.utf8ByteSize
      ∨ (∃ t, before = .reached t) ∧ FileTree.maxNameSize < s.unitName.utf8ByteSize →
    done.2 = some (.remove s.unitPath .nameTooLong)

/-- What an action does to the unit directory. -/
def Handles (s : Service) (before : Folder) (order : Order) (done : Done) : Prop :=
  match order.action with
  | .install => s.Installs before done
  | .start | .stop => done.1.folder = before
  | .remove => s.Removes before order done

/-- What is to be expected of an order that is carried out: the unit directory is handled as the
action asks for, the commands are given up to the first that fails unless the unit file stands in
the way, the order succeeds if each of its steps does, and nothing else changes but what is written
through a link. -/
structure Conduct (s : Service) (before : Folder) (order : Order) (done : Done) : Prop where
  handles : s.Handles before order done
  issues : ¬s.Refused before order →
    Issues order.replies 0 (s.commandList order.action) done.1.commands
  succeeds : done.2 = none ↔ ¬s.Refused before order
    ∧ done.1.commands.map (·.1) = s.commandList order.action
    ∧ ∀ e ∈ done.1.commands, Succeeds e.2
  others_kept : ∀ path, path ≠ s.unitName → path ≠ s.temporaryName →
    (order.action = .install → ¬before.Touches s.unitDirectory s.temporaryName path) →
    before.SameAt done.1.folder path
  unlinked : before.Unlinked s.temporaryName → done.1.folder.Unlinked s.temporaryName

/-- The state in which the steps of an action are begun. -/
def begun (s : Service) (action : Action) (before : Folder) : Progress :=
  { folder := before, log := [s.startEvent action] }

theorem carryOut_eq (s : Service) (before : Folder) (order : Order) :
    s.carryOut before order = s.takeAll order.replies (s.begun order.action before)
      (order.action.steps s.name) := rfl

section

variable {s : Service} {before : Folder} {order : Order} {done : Done}

theorem succeeds_iff_of_issues (hnot : ¬s.Refused before order)
    (hissues : Issues order.replies 0 (s.commandList order.action) done.1.commands)
    (hnone : done.2 = none ↔ ∀ e ∈ done.1.commands, Succeeds e.2) :
    done.2 = none ↔ ¬s.Refused before order
      ∧ done.1.commands.map (·.1) = s.commandList order.action
      ∧ ∀ e ∈ done.1.commands, Succeeds e.2 := by
  rw [hnone, and_iff_right hnot]
  exact ⟨fun hall => ⟨hissues.map_eq_of_all hall, hall⟩, fun h => h.2⟩

/-- An action that is a single command. -/
theorem conduct_of_single {arguments : List String}
    (hsteps : order.action.steps s.name = [.command arguments]) (hnot : ¬s.Refused before order)
    (hhandles : (s.carryOut before order).1.folder = before →
      s.Handles before order (s.carryOut before order)) :
    s.Conduct before order (s.carryOut before order) := by
  have hcarry : s.carryOut before order
      = s.takeAll order.replies (s.begun order.action before) ([arguments].map .command) := by
    rw [carryOut_eq, hsteps]
    rfl
  have hlist : s.commandList order.action = [arguments] := by
    rw [commandList, hsteps]
    rfl
  obtain ⟨hfolder, hissues, hnone⟩ :=
    issues_takeAll s order.replies (p := s.begun order.action before) rfl [arguments]
  rw [← hcarry] at hfolder hissues hnone
  rw [← hlist] at hissues
  exact {
    handles := hhandles hfolder
    issues _ := hissues
    succeeds := succeeds_iff_of_issues hnot hissues hnone
    others_kept _ _ _ _ := by rw [hfolder]; exact .refl _ _
    unlinked hlinks := by rw [hfolder]; exact hlinks }

end

/-- A removal after its first command. -/
def confirmed (s : Service) (before : Folder) (replies : Nat → Launch) : Progress :=
  (s.begun .remove before).after
    [(["disable", s.name], launch ["disable", s.name] (replies 0))]

theorem allowsUnit_iff {s : Service} (hslash : '/' ∉ s.name.toList) {before : Folder}
    (hlink : ¬before.IsLink s.temporaryName) :
    s.AllowsUnit before ↔ before.barrier? s.unitDirectory s.temporaryName = none
      ∧ before.get? s.temporaryName ≠ some .directory
      ∧ before.get? s.unitName ≠ some .directory := by
  rw [← and_assoc,
    ← Folder.writable_iff_of_not_isLink (isEntryName_temporaryName hslash) hlink]
  exact ⟨fun h => ⟨h.temporary, h.unit⟩, fun h => ⟨h.1, h.2⟩⟩

theorem barrier?_of_too_long {s : Service} {before : Folder} (hnul : '\x00' ∉ s.unitPath.toList)
    (hlong : FileTree.maxPathSize < s.unitPath.utf8ByteSize
      ∨ (∃ t, before = .reached t) ∧ FileTree.maxNameSize < s.unitName.utf8ByteSize) :
    before.barrier? s.unitDirectory s.unitName = some .nameTooLong := by
  rcases hlong with hpath | ⟨⟨t, rfl⟩, hsize⟩
  · exact Folder.barrier?_of_long_path hnul hpath
  · exact Folder.barrier?_of_long_name hnul hsize

section

variable {s : Service} (hname : s.name ≠ "") (hslash : '/' ∉ s.name.toList) (before : Folder)
  (replies : Nat → Launch)
include hslash

omit hslash in
theorem carryOut_install :
    s.carryOut before ⟨.install, replies⟩ = s.takeAll replies (s.begun .install before)
      (.writeUnit :: [["daemon-reload"], ["enable", s.name]].map .command) := rfl

include hname in
theorem conduct_install_of_allowsUnit (hallows : s.AllowsUnit before) :
    s.Conduct before ⟨.install, replies⟩ (s.carryOut before ⟨.install, replies⟩) := by
  have hnot : ¬s.Refused before ⟨.install, replies⟩ := fun h => h hallows
  obtain ⟨p, hwrite, hcommands, hreplaced⟩ :=
    writeUnit_of_writable (p := s.begun .install before) hname hslash hallows.temporary
      hallows.unit
  have htake : s.take replies (s.begun .install before) .writeUnit = (p, none) := hwrite
  rw [carryOut_install, takeAll_cons_of_none s replies _ htake]
  obtain ⟨hfolder, hissues, hnone⟩ :=
    issues_takeAll s replies hcommands [["daemon-reload"], ["enable", s.name]]
  have hgone := hreplaced.get?_temporary temporaryName_ne_unitName hallows.unit
  exact {
    handles := {
      allowed := allowsUnit_iff hslash
      refused h := absurd hallows h
      written _ hlinks := by
        rw [hfolder]
        exact ⟨hreplaced.holds hlinks.not_isLink, hgone hlinks⟩
      replaced _ := by rw [hfolder]; exact hreplaced }
    issues _ := hissues
    succeeds := succeeds_iff_of_issues hnot hissues hnone
    others_kept path hpath htemporary htouches := by
      rw [hfolder]
      exact hreplaced.kept path hpath htemporary (htouches rfl)
    unlinked hlinks number hentry := by
      rw [hfolder, hgone hlinks] at hentry
      cases hentry }

include hname in
theorem conduct_install_of_not_allowsUnit (hallows : ¬s.AllowsUnit before) :
    s.Conduct before ⟨.install, replies⟩ (s.carryOut before ⟨.install, replies⟩) := by
  obtain ⟨p, cause, hwrite, hcommands, hunit, hlinks, hothers⟩ :=
    writeUnit_of_not_writable (p := s.begun .install before) hname hslash
      fun h => hallows ⟨h.1, h.2⟩
  have htake : s.take replies (s.begun .install before) .writeUnit = (p, some _) := hwrite
  rw [carryOut_install, takeAll_cons_of_some s replies _ htake]
  exact {
    handles := {
      allowed := allowsUnit_iff hslash
      refused _ := ⟨hcommands, hunit, cause, rfl⟩
      written h := absurd h hallows
      replaced h := absurd h hallows }
    issues h := absurd hallows h
    succeeds := iff_of_false (Option.some_ne_none _) fun h => h.1 hallows
    others_kept path _ _ htouches := hothers path (htouches rfl)
    unlinked := hlinks }

omit hslash in
theorem carryOut_remove_of_disabled (h : s.Disabled ⟨.remove, replies⟩) :
    s.carryOut before ⟨.remove, replies⟩ = s.takeAll replies (s.confirmed before replies)
      (.removeUnit :: [["daemon-reload"]].map .command) :=
  takeAll_cons_of_none s replies _ (take_command_of_succeeds s replies h)

omit hslash in
theorem conduct_remove_of_not_disabled (h : ¬s.Disabled ⟨.remove, replies⟩) :
    s.Conduct before ⟨.remove, replies⟩ (s.carryOut before ⟨.remove, replies⟩) := by
  have hissues := Issues.single [["daemon-reload"]] h
  have hnot : ¬s.Refused before ⟨.remove, replies⟩ := fun hrefused => h hrefused.1
  obtain ⟨fault, htake⟩ :=
    exists_take_command_eq_fault s replies (p := s.begun .remove before) h
  have hcarry : s.carryOut before ⟨.remove, replies⟩ = (s.confirmed before replies, some fault) :=
    takeAll_cons_of_some s replies _ htake
  rw [hcarry]
  exact {
    handles := {
      not_disabled _ := rfl
      refused hdisabled := absurd hdisabled h
      removed hdisabled := absurd hdisabled h
      absent hdisabled := absurd hdisabled h
      too_long hdisabled := absurd hdisabled h }
    issues _ := hissues
    succeeds := iff_of_false (Option.some_ne_none _) fun hall =>
      h (hall.2.2 _ (List.mem_singleton.mpr rfl))
    others_kept _ _ _ _ := .refl _ _
    unlinked := id }

omit hslash in
/-- The removal of an absent unit is refused exactly if something else than its absence keeps it
from being looked up. -/
theorem refused_remove_iff (h : s.Disabled ⟨.remove, replies⟩)
    (habsent : before.get? s.unitName = none) :
    s.Refused before ⟨.remove, replies⟩
      ↔ ∃ fault, before.barrier? s.unitDirectory s.unitName = some fault ∧ fault ≠ .notFound :=
  (and_iff_right h).trans (Folder.not_clears_iff_of_absent habsent)

theorem conduct_remove_of_not_clears (h : s.Disabled ⟨.remove, replies⟩)
    (hclears : ¬before.Clears s.unitDirectory s.unitName) :
    s.Conduct before ⟨.remove, replies⟩ (s.carryOut before ⟨.remove, replies⟩) := by
  have hrefused : s.Refused before ⟨.remove, replies⟩ := ⟨h, hclears⟩
  have htake : s.take replies (s.confirmed before replies) .removeUnit
      = (s.confirmed before replies, some (.remove s.unitPath
        ((before.barrier? s.unitDirectory s.unitName).getD .isDirectory))) :=
    removeUnit_of_not_clears (p := s.confirmed before replies) hslash hclears
  rw [carryOut_remove_of_disabled before replies h, takeAll_cons_of_some s replies _ htake]
  exact {
    handles := {
      not_disabled hnot := absurd h hnot
      refused _ _ := ⟨rfl, rfl, rfl⟩
      removed _ hc := absurd hc hclears
      absent _ habsent := ⟨rfl, refused_remove_iff before replies h habsent⟩
      too_long _ _ hnul hlong := by rw [barrier?_of_too_long hnul hlong]; rfl }
    issues hnot := absurd hrefused hnot
    succeeds := iff_of_false (Option.some_ne_none _) fun hall => hall.1 hrefused
    others_kept _ _ _ _ := .refl _ _
    unlinked := id }

theorem conduct_remove_of_clears (h : s.Disabled ⟨.remove, replies⟩)
    (hclears : before.Clears s.unitDirectory s.unitName) :
    s.Conduct before ⟨.remove, replies⟩ (s.carryOut before ⟨.remove, replies⟩) := by
  have hnot : ¬s.Refused before ⟨.remove, replies⟩ := fun hrefused => hrefused.2 hclears
  obtain ⟨p, hremove, hcommands, hgone, hkept, hsub, hothers⟩ :=
    removeUnit_of_clears (p := s.confirmed before replies) hslash hclears
  have htake : s.take replies (s.confirmed before replies) .removeUnit = (p, none) := hremove
  rw [carryOut_remove_of_disabled before replies h, takeAll_cons_of_none s replies _ htake]
  -- the command after the removal is the second of the action
  obtain ⟨issued, hdone, hissues, hnone⟩ :=
    exists_issues_takeAll s replies p [["daemon-reload"]]
  rw [hcommands] at hissues
  have hall : Issues replies 0 [["disable", s.name], ["daemon-reload"]]
      ((["disable", s.name], launch ["disable", s.name] (replies 0)) :: issued) := hissues.cons h
  have hissued : (s.takeAll replies p ([["daemon-reload"]].map .command)).1.commands
      = (["disable", s.name], launch ["disable", s.name] (replies 0)) :: issued := by
    rw [hdone, Progress.after, hcommands]
    rfl
  rw [← hissued] at hall
  have hsucceeds : (s.takeAll replies p ([["daemon-reload"]].map .command)).2 = none
      ↔ ∀ e ∈ (s.takeAll replies p ([["daemon-reload"]].map .command)).1.commands,
        Succeeds e.2 := by
    rw [hnone, hissued, List.forall_mem_cons]
    exact ⟨fun hrest => ⟨h, hrest⟩, fun heach => heach.2⟩
  have hfolder : (s.takeAll replies p ([["daemon-reload"]].map .command)).1.folder = p.folder := by
    rw [hdone]
    rfl
  exact {
    handles := {
      not_disabled hnone := absurd h hnone
      refused _ hc := absurd hclears hc
      removed _ _ := by rw [hfolder]; exact hgone
      absent _ habsent :=
        ⟨hfolder.trans (hkept habsent), refused_remove_iff before replies h habsent⟩
      too_long _ _ hnul hlong :=
        absurd (hclears.barrier _ (barrier?_of_too_long hnul hlong)) (by decide) }
    issues _ := hall
    succeeds := succeeds_iff_of_issues hnot hall hsucceeds
    others_kept path hpath _ _ := by rw [hfolder]; exact hothers path hpath
    unlinked hlinks := by
      rw [hfolder]
      exact hlinks.of_sameAt (hothers _ temporaryName_ne_unitName) hsub }

include hname in
/-- Every order is carried out as it is to be expected. -/
theorem conduct_carryOut (order : Order) :
    s.Conduct before order (s.carryOut before order) := by
  obtain ⟨action, replies⟩ := order
  cases action with
  | install =>
      by_cases hallows : s.AllowsUnit before
      · exact conduct_install_of_allowsUnit hname hslash before replies hallows
      · exact conduct_install_of_not_allowsUnit hname hslash before replies hallows
  | start => exact conduct_of_single rfl id id
  | stop => exact conduct_of_single rfl id id
  | remove =>
      by_cases hdisabled : s.Disabled ⟨.remove, replies⟩
      · by_cases hclears : before.Clears s.unitDirectory s.unitName
        · exact conduct_remove_of_clears hslash before replies hdisabled hclears
        · exact conduct_remove_of_not_clears hslash before replies hdisabled hclears
      · exact conduct_remove_of_not_disabled before replies hdisabled

include hname in
/-- A sequence of actions changes nothing but the unit and its temporary file, unless there were
links under the temporary name at its beginning. -/
theorem sameAt_folderAfter (orders : List Order) (hlinks : before.Unlinked s.temporaryName) :
    (s.folderAfter before orders).Unlinked s.temporaryName
      ∧ ∀ path, path ≠ s.unitName → path ≠ s.temporaryName →
        before.SameAt (s.folderAfter before orders) path := by
  induction orders generalizing before with
  | nil => exact ⟨hlinks, fun path _ _ => .refl _ path⟩
  | cons order rest ih =>
      have hfirst := conduct_carryOut hname hslash before order
      obtain ⟨hafter, hrest⟩ := ih _ (hfirst.unlinked hlinks)
      rw [folderAfter, List.foldl_cons]
      refine ⟨hafter, fun path hpath htemporary => .trans ?_ (hrest path hpath htemporary)⟩
      refine hfirst.others_kept path hpath htemporary fun _ htouches => htemporary ?_
      exact Folder.eq_of_touches (isEntryName_temporaryName hslash) hlinks htouches

end

/-- **Control of the service.** In every sequence of actions, whatever the service manager answers,
each action does what is to be expected of it. Unless there were links under the temporary name at
first, there never are, and nothing changes but the unit and the temporary file beside it. -/
theorem conduct_of_orders (s : Service) (hname : s.name ≠ "") (hslash : '/' ∉ s.name.toList)
    (folder : Folder) (earlier : List Order) (order : Order) :
    s.Conduct (s.folderAfter folder earlier) order
        (s.carryOut (s.folderAfter folder earlier) order)
      ∧ (folder.Unlinked s.temporaryName →
        (s.folderAfter folder earlier).Unlinked s.temporaryName
          ∧ ∀ path, path ≠ s.unitName → path ≠ s.temporaryName →
            folder.SameAt (s.folderAfter folder (earlier ++ [order])) path) := by
  refine ⟨conduct_carryOut hname hslash _ order, fun hlinks => ⟨?_, ?_⟩⟩
  · exact (sameAt_folderAfter hname hslash folder earlier hlinks).1
  · exact (sameAt_folderAfter hname hslash folder (earlier ++ [order]) hlinks).2

theorem conduct_of_install_and_remove :
    let s : Service := ⟨"vm-agent", "/usr/bin/vm-agent", "units", "systemctl"⟩
    let units := s.folderAfter (.holding ∅ "units") [.granted .install]
    s.Conduct units (.granted .remove) (s.carryOut units (.granted .remove))
      ∧ ∀ path, path ≠ "vm-agent.service" → path ≠ "vm-agent.service.tmp" →
        (s.folderAfter (.holding ∅ "units") [.granted .install, .granted .remove]).get? path
          = none := by
  intro s units
  obtain ⟨hconduct, hothers⟩ := conduct_of_orders s (by decide) (by decide) (.holding ∅ "units")
    [.granted .install] (.granted .remove)
  have hlinks : (Folder.holding ∅ "units").Unlinked s.temporaryName :=
    fun _ hentry => absurd hentry.symm (Option.some_ne_none _)
  exact ⟨hconduct, fun path hpath htemporary => ((hothers hlinks).2 path hpath htemporary).entry⟩

/-! ## Names that are too long, and links -/

/-- A unit with a name that is too long cannot be there, and its removal fails. -/
theorem Removes.fails_of_too_long {s : Service} {before : Folder} {order : Order} {done : Done}
    (h : s.Removes before order done) (hdisabled : s.Disabled order)
    (habsent : before.get? s.unitName = none) (hnul : '\x00' ∉ s.unitPath.toList)
    (hlong : FileTree.maxPathSize < s.unitPath.utf8ByteSize
      ∨ (∃ t, before = .reached t) ∧ FileTree.maxNameSize < s.unitName.utf8ByteSize) :
    done.1.commands.map (·.1) = [["disable", s.name]]
      ∧ done.2 = some (.remove s.unitPath .nameTooLong) := by
  have hclears : ¬before.Clears s.unitDirectory s.unitName :=
    fun hc => absurd (hc.barrier _ (barrier?_of_too_long hnul hlong)) (by decide)
  exact ⟨(h.refused hdisabled hclears).2.1, h.too_long hdisabled habsent hnul hlong⟩

theorem utf8ByteSize_ofList_replicate (n : Nat) :
    (String.ofList (List.replicate n 'x')).utf8ByteSize = n := by
  induction n with
  | zero => rfl
  | succ n ih =>
      rw [List.replicate_succ', String.ofList_append, String.utf8ByteSize_append, ih]
      rfl

/-- A directory in which a link stands under the temporary name of a unit. -/
def linkedUnits : Folder := .reached {
  entries := Dict.ofList [("vm-agent.service.tmp", .item 0), ("other.service", .item 1)]
  items := fun
    | 0 => .link "other.service"
    | _ => .file []
  lineage := ["units"] }

/-- A unit that cannot be looked up is not as good as removed, and a link under the temporary name
takes the text elsewhere. -/
theorem absent_unit_not_removed :
    (let s : Service := ⟨String.ofList (List.replicate 248 'x'), "/usr/bin/vm-agent", "units",
        "systemctl"⟩
      let units : Folder := .holding ∅ "units"
      let done := s.carryOut units (.granted .remove)
      (s.name ≠ "" ∧ '/' ∉ s.name.toList ∧ units.get? s.unitName = none)
        ∧ s.Disabled (.granted .remove) ∧ done.1.commands.map (·.1) = [["disable", s.name]]
        ∧ done.2 = some (.remove s.unitPath .nameTooLong))
    ∧ (let s : Service := ⟨"vm-agent", "/usr/bin/vm-agent", "units", "systemctl"⟩
      let done := s.carryOut linkedUnits (.granted .install)
      done.2 = none ∧ linkedUnits.Holds "other.service" []
        ∧ done.1.folder.Holds "other.service" (Utf8.encode s.unitText)
        ∧ done.1.folder.IsLink s.unitName) := by
  refine ⟨?_, ?_⟩
  · intro s units done
    have hchars : ∀ c ∈ s.name.toList, c = 'x' := fun c hc => by
      rw [String.toList_ofList] at hc
      exact List.eq_of_mem_replicate hc
    have hslash : '/' ∉ s.name.toList := fun h => absurd (hchars _ h) (by decide)
    have hnul : '\x00' ∉ s.name.toList := fun h => absurd (hchars _ h) (by decide)
    have hsize : s.name.utf8ByteSize = 248 := utf8ByteSize_ofList_replicate 248
    have hname : s.name ≠ "" := fun hempty => absurd (hempty ▸ hsize) (by decide)
    have hlong : FileTree.maxNameSize < s.unitName.utf8ByteSize := by
      rw [unitName, String.utf8ByteSize_append, hsize]
      decide
    have hpath : s.unitPath = "units" ++ "/" ++ s.unitName := by
      rw [unitPath, Path.join, (isEntryName_unitName hslash).isAbsolute_eq,
        if_neg Bool.false_ne_true]
      exact if_neg (by decide)
    have hunit : '\x00' ∉ s.unitPath.toList := by
      simp only [hpath, unitName, String.toList_append, List.mem_append, not_or]
      exact ⟨⟨by decide, by decide⟩, hnul, by decide⟩
    have hlaunch : launch ["disable", s.name] (.ok {}) = .ok {} := if_neg (by simp [hnul])
    have hdisabled : s.Disabled (.granted .remove) := ⟨{}, hlaunch, rfl⟩
    have hremoves : s.Removes units (.granted .remove) done :=
      (conduct_carryOut hname hslash units (.granted .remove)).handles
    exact ⟨⟨hname, hslash, rfl⟩, hdisabled,
      hremoves.fails_of_too_long hdisabled rfl hunit (.inr ⟨⟨_, rfl⟩, hlong⟩)⟩
  · intro s done
    have hreach : linkedUnits.reach true s.unitDirectory s.temporaryName
        = .ok ["other.service"] := by
      decide +kernel
    have hlink : linkedUnits.IsLink s.temporaryName :=
      ⟨0, "other.service", by decide +kernel, by decide +kernel⟩
    have hconduct := conduct_carryOut (s := s) (by decide) (by decide) linkedUnits
      (.granted .install)
    have hinstalls : s.Installs linkedUnits done := hconduct.handles
    have hreplaced := hinstalls.replaced
      ⟨⟨_, hreach, by decide +kernel⟩, by decide +kernel⟩
    obtain ⟨place, hplace, hholds⟩ := hreplaced.linked hlink
    obtain rfl : place = ["other.service"] := Except.ok.inj (hplace.symm.trans hreach)
    refine ⟨by decide +kernel, ⟨1, by decide +kernel, by decide +kernel⟩,
      hholds (by decide +kernel), 0, "other.service", hreplaced.moved _ (by decide +kernel),
      by decide +kernel⟩

end HostAgent.Service
