import HostAgent.File.Folder
import HostAgent.Proofs.Text.Blank

set_option autoImplicit false

/-! # Ways through a folder

A name without a slash, other than those that lead elsewhere, is the path of an entry of the folder
itself (`IsEntryName`). Following it takes one step, unless a link stands there that is to be
followed. So whether the entry is reached depends on the lengths of the name and of the whole path,
and on what is in the way to the folder (`Folder.barrier?`).

A way that goes through links can lead anywhere, but not to a link: its end is a directory that was
entered, or an entry that was seen to be no link (`FileTree.targetAt?_of_follow`).
-/

namespace HostAgent

/-! ## Names of entries -/

namespace Path

theorem splitChars_of_no_slash {cs : List Char} (h : '/' ∉ cs) : splitChars cs = ([], cs) := by
  have hall : cs.reverse.takeWhile (· != '/') = cs.reverse := by
    refine List.takeWhile_eq_self_iff.mpr fun c hc => ?_
    rw [bne_iff_ne]
    rintro rfl
    exact h (List.mem_reverse.mp hc)
  simp only [splitChars, hall, List.drop_length, List.reverse_nil, List.reverse_reverse]

/-- The stem of a name ends at its last dot. -/
theorem stem_append {base extension : List Char} (hbase : base ≠ []) (h : '.' ∉ extension) :
    stem (base ++ '.' :: extension) = base := by
  have hreverse : (base ++ '.' :: extension).reverse
      = extension.reverse ++ '.' :: base.reverse := by
    simp
  have hkept : ∀ c ∈ extension.reverse, (c != '.') = true := by
    intro c hc
    rw [bne_iff_ne]
    rintro rfl
    exact h (List.mem_reverse.mp hc)
  have htake : (base ++ '.' :: extension).reverse.takeWhile (· != '.') = extension.reverse := by
    rw [hreverse, List.takeWhile_append_of_pos hkept, List.takeWhile_cons_of_neg (by simp),
      List.append_nil]
  have hdrop : ((base ++ '.' :: extension).reverse.drop (extension.reverse.length + 1)).reverse
      = base := by
    rw [hreverse, ← List.drop_drop, List.drop_left, List.drop_succ_cons, List.drop_zero,
      List.reverse_reverse]
  simp only [stem, htake, hdrop]
  rw [if_neg (by simpa using hbase)]

/-- The path of a longer name is longer at its end. -/
theorem join_append (directory : String) {name : String} (hname : name ≠ "") (suffix : String) :
    join directory (name ++ suffix) = join directory name ++ suffix := by
  have habsolute : isAbsolute (name ++ suffix) = isAbsolute name := by
    have hchars : name.toList ≠ [] := fun hnil => hname (String.toList_eq_nil_iff.mp hnil)
    rw [isAbsolute, isAbsolute, String.toList_append, List.head?_append_of_ne_nil _ hchars]
  rw [join, join, habsolute]
  split
  · rfl
  · split <;> simp only [String.append_assoc]

end Path

/-- The path of an entry of the folder itself. -/
structure IsEntryName (name : String) : Prop where
  nonempty : name ≠ ""
  ne_dot : name ≠ "."
  ne_dots : name ≠ ".."
  no_slash : '/' ∉ name.toList

namespace IsEntryName

variable {name : String} (h : IsEntryName name)
include h

theorem parts_eq : Path.parts name = [name] := by
  rw [Path.parts, splitText, splitChars_of_not_mem h.no_slash, List.map_cons, List.map_nil,
    String.ofList_toList]
  rfl

theorem isAbsolute_eq : Path.isAbsolute name = false := by
  rw [Path.isAbsolute, decide_eq_false_iff_not]
  intro hhead
  exact h.no_slash (List.mem_of_mem_head? hhead)

theorem isAbove_eq : FileTree.isAbove [name] = false := by
  rw [FileTree.isAbove, List.all_cons, List.all_nil, Bool.and_true]
  exact beq_false_of_ne h.ne_dots

theorem entryAt_eq (t : FileTree) : t.entryAt [name] = t.entries.get? name := by
  rw [FileTree.entryAt, h.isAbove_eq]
  rfl

/-- The way to an entry is a single step. -/
theorem pass_eq (t : FileTree) (through : Bool)
    (expand : Place → String → List String → Except FileFault Place)
    (hend : through = true → t.targetAt? [name] = none) :
    t.pass through expand [] [name]
      = if FileTree.maxNameSize < name.utf8ByteSize then .error .nameTooLong else .ok [name] := by
  have henter : t.enter [] name = [name] := if_neg fun habove => habove.2.1 rfl
  rw [FileTree.pass, if_neg (not_or_intro h.nonempty h.ne_dot), if_neg h.ne_dots,
    if_neg (List.cons_ne_nil _ _).symm, henter]
  split
  · rfl
  · cases through with
    | false => rfl
    | true =>
        rw [hend rfl]
        rfl

theorem follow_eq (t : FileTree) (through : Bool)
    (hend : through = true → t.targetAt? [name] = none) :
    t.follow through name
      = if FileTree.maxNameSize < name.utf8ByteSize then .error .nameTooLong else .ok [name] := by
  simp only [FileTree.follow, FileTree.start, h.isAbsolute_eq, h.parts_eq, Bool.false_eq_true,
    if_false]
  cases FileTree.maxLinks - t.passed with
  | zero => exact h.pass_eq t through _ hend
  | succ links => exact h.pass_eq t through _ hend

/-- A name that is too long is refused, also where links are followed. -/
theorem follow_of_long (t : FileTree) (through : Bool)
    (hlong : FileTree.maxNameSize < name.utf8ByteSize) :
    t.follow through name = .error .nameTooLong := by
  have hpass : ∀ expand, t.pass through expand [] [name] = .error .nameTooLong := by
    intro expand
    rw [FileTree.pass, if_neg (not_or_intro h.nonempty h.ne_dot), if_neg h.ne_dots,
      if_neg (List.cons_ne_nil _ _).symm, if_pos hlong]
  simp only [FileTree.follow, FileTree.start, h.isAbsolute_eq, h.parts_eq, Bool.false_eq_true,
    if_false]
  cases FileTree.maxLinks - t.passed with
  | zero => exact hpass _
  | succ links => exact hpass _

end IsEntryName

/-! ## Where a way through links ends -/

namespace FileTree

variable {t : FileTree}

/-- A place and the levels on the way to it are directories. -/
def Entered (t : FileTree) (place : Place) : Prop :=
  ∀ way, way <+: place → t.entryAt way = some .directory

theorem entryAt_of_isAbove {place : Place} (h : isAbove place = true) :
    t.entryAt place = some .directory := if_pos h

theorem isAbove_shorter {way place : Place} (h : isAbove place = true) (hway : way <+: place) :
    isAbove way = true := by
  rw [isAbove, List.all_eq_true] at h ⊢
  exact fun name hname => h name (hway.subset hname)

theorem entered_of_isAbove {place : Place} (h : isAbove place = true) : t.Entered place :=
  fun _ hway => entryAt_of_isAbove (isAbove_shorter h hway)

theorem Entered.shorter {way place : Place} (h : t.Entered place) (hway : way <+: place) :
    t.Entered way :=
  fun _ hshorter => h _ (hshorter.trans hway)

theorem entered_root : t.Entered t.root :=
  entered_of_isAbove (List.all_eq_true.mpr fun name hname => by
    rw [List.eq_of_mem_replicate hname]
    rfl)

theorem Entered.start {place : Place} (h : t.Entered place) (path : String) :
    t.Entered (t.start place path) := by
  rw [FileTree.start]
  split
  · exact entered_root
  · exact h

theorem Entered.up {place : Place} (h : t.Entered place) : t.Entered (t.up place) := by
  have hparent := List.dropLast_prefix place
  rw [FileTree.up]
  split
  · exact h.shorter hparent
  · rename_i habove
    split
    · have habove : isAbove place = true := by simpa using habove
      refine entered_of_isAbove ?_
      rw [isAbove, List.all_append, Bool.and_eq_true]
      exact ⟨habove, rfl⟩
    · exact h

theorem Entered.enter {place : Place} {name : String} (h : t.Entered place)
    (hentry : t.entryAt (t.enter place name) = some .directory) :
    t.Entered (t.enter place name) := by
  have hparent := List.dropLast_prefix place
  rw [FileTree.enter] at hentry ⊢
  split at hentry
  · rename_i hbelow
    rw [if_pos hbelow]
    exact h.shorter hparent
  · rename_i hbelow
    rw [if_neg hbelow]
    intro way hway
    rcases List.prefix_concat_iff.mp hway with rfl | hway
    · exact hentry
    · exact h way hway

theorem Entered.targetAt?_eq {place : Place} (h : t.Entered place) :
    t.targetAt? place = none := by
  rw [targetAt?, h place (List.prefix_refl place)]

/-- Steps end at no link if the ways that begin at links end at none. -/
theorem targetAt?_of_pass {expand : Place → String → List String → Except FileFault Place}
    (hexpand : ∀ place target rest found, t.Entered place →
      expand place target rest = .ok found → t.targetAt? found = none)
    {place found : Place} {steps : List String} (h : t.Entered place)
    (hpass : t.pass true expand place steps = .ok found) : t.targetAt? found = none := by
  induction steps generalizing place with
  | nil =>
      rw [pass] at hpass
      rw [← Except.ok.inj hpass]
      exact h.targetAt?_eq
  | cons name rest ih =>
      rw [pass] at hpass
      split at hpass
      · exact ih h hpass
      split at hpass
      · exact ih h.up hpass
      split at hpass
      · cases hpass
      split at hpass
      · cases hpass
      rw [if_neg (fun hend => Bool.noConfusion hend.2)] at hpass
      split at hpass
      · exact hexpand _ _ _ _ h hpass
      rename_i htarget
      split at hpass
      · rw [← Except.ok.inj hpass]
        exact htarget
      split at hpass
      · cases hpass
      · cases hpass
      · rename_i hentry
        exact ih (h.enter hentry) hpass

theorem targetAt?_of_walk {links : Nat} {place found : Place} {steps : List String}
    (h : t.Entered place) (hwalk : t.walk true links place steps = .ok found) :
    t.targetAt? found = none := by
  induction links generalizing place found steps with
  | zero => exact targetAt?_of_pass (fun _ _ _ _ _ hfound => by cases hfound) h hwalk
  | succ links ih =>
      exact targetAt?_of_pass (fun place target rest found hentered hfound =>
        ih (hentered.start target) hfound) h hwalk

/-- **A way through links does not end at a link.** -/
theorem targetAt?_of_follow {path : String} {found : Place}
    (h : t.follow true path = .ok found) : t.targetAt? found = none :=
  targetAt?_of_walk ((entered_of_isAbove rfl).start path) h

end FileTree

/-! ## What is in the way to an entry -/

namespace Folder

/-- A symbolic link stands under a name. -/
def IsLink (f : Folder) (name : String) : Prop :=
  ∃ number target, f.get? name = some (.item number) ∧ f.item number = .link target

/-- What keeps the entry of a name from being looked up. -/
def barrier? (f : Folder) (directory name : String) : Option FileFault :=
  if '\x00' ∈ (Path.join directory name).toList then some .nulInPath
  else if FileTree.maxPathSize < (Path.join directory name).utf8ByteSize then some .nameTooLong
  else
    match f with
    | barred fault => some fault
    | reached _ =>
      if FileTree.maxNameSize < name.utf8ByteSize then some .nameTooLong else none

/-- A path leads somewhere if the operating system takes it, and the folder is there and has a way
along it. -/
theorem reach_eq_ok_iff {f : Folder} {through : Bool} {directory path : String} {place : Place} :
    f.reach through directory path = .ok place
      ↔ '\x00' ∉ (Path.join directory path).toList
        ∧ (Path.join directory path).utf8ByteSize ≤ FileTree.maxPathSize
        ∧ ∃ t, f = reached t ∧ t.follow through path = .ok place := by
  unfold reach
  simp only [List.contains_iff_mem]
  by_cases hnul : '\x00' ∈ (Path.join directory path).toList
  · rw [if_pos hnul]
    exact iff_of_false nofun fun h => h.1 hnul
  rw [if_neg hnul, and_iff_right hnul]
  by_cases hpath : FileTree.maxPathSize < (Path.join directory path).utf8ByteSize
  · rw [if_pos hpath]
    exact iff_of_false nofun fun h => Nat.not_lt.mpr h.1 hpath
  rw [if_neg hpath, and_iff_right (Nat.not_lt.mp hpath)]
  cases f with
  | barred fault => exact iff_of_false nofun fun ⟨_, hreached, _⟩ => Folder.noConfusion hreached
  | reached t =>
      refine ⟨fun hfollow => ⟨t, rfl, hfollow⟩, fun ⟨_, hreached, hfollow⟩ => ?_⟩
      obtain rfl := Folder.reached.inj hreached
      exact hfollow

theorem barrier?_of_long_path {f : Folder} {directory name : String}
    (hnul : '\x00' ∉ (Path.join directory name).toList)
    (hlong : FileTree.maxPathSize < (Path.join directory name).utf8ByteSize) :
    f.barrier? directory name = some .nameTooLong := by
  unfold barrier?
  rw [if_neg hnul, if_pos hlong]

/-- A directory that is there does not take a name that is too long. -/
theorem barrier?_of_long_name {t : FileTree} {directory name : String}
    (hnul : '\x00' ∉ (Path.join directory name).toList)
    (hlong : FileTree.maxNameSize < name.utf8ByteSize) :
    (reached t).barrier? directory name = some .nameTooLong := by
  unfold barrier?
  rw [if_neg hnul]
  by_cases hpath : FileTree.maxPathSize < (Path.join directory name).utf8ByteSize
  · exact if_pos hpath
  · exact (if_neg hpath).trans (if_pos hlong)

/-- What does not keep a longer name from being looked up does not keep the name. -/
theorem barrier?_of_append {f : Folder} {directory name suffix : String} (hname : name ≠ "")
    (h : f.barrier? directory (name ++ suffix) = none) : f.barrier? directory name = none := by
  unfold barrier? at h ⊢
  rw [Path.join_append directory hname] at h
  split at h
  · cases h
  rename_i hnul
  split at h
  · cases h
  rename_i hpath
  rw [String.toList_append, List.mem_append, not_or] at hnul
  rw [String.utf8ByteSize_append] at hpath
  rw [if_neg hnul.1, if_neg (by omega)]
  cases f with
  | barred fault => cases h
  | reached t =>
      simp only [ite_eq_right_iff, reduceCtorEq, imp_false, String.utf8ByteSize_append] at h ⊢
      omega

theorem exists_reached_of_barrier?_eq_none {f : Folder} {directory name : String}
    (h : f.barrier? directory name = none) : ∃ t, f = reached t := by
  cases f with
  | barred fault =>
      unfold barrier? at h
      split at h
      · cases h
      split at h <;> cases h
  | reached t => exact ⟨t, rfl⟩

/-- Only the place of a directory that does not exist makes a name be not found. -/
theorem eq_missing_of_barrier? {f : Folder} {directory name : String}
    (h : f.barrier? directory name = some .notFound) : f = missing := by
  unfold barrier? at h
  split at h
  · cases h
  split at h
  · cases h
  cases f with
  | barred fault => rw [Option.some.inj h, missing]
  | reached t =>
      simp only at h
      split at h <;> cases h

section

variable {f : Folder} {directory name : String} (h : IsEntryName name)
include h

theorem entryAt_entry : f.entryAt [name] = f.get? name := by
  cases f with
  | barred fault => rfl
  | reached t => exact h.entryAt_eq t

theorem isLink_iff_targetAt? {t : FileTree} :
    (reached t).IsLink name ↔ t.targetAt? [name] ≠ none := by
  rw [FileTree.targetAt?, h.entryAt_eq t]
  constructor
  · rintro ⟨number, target, hentry, hitem⟩
    rw [show t.entries.get? name = some (.item number) from hentry]
    simp only [show t.items number = .link target from hitem]
    exact Option.some_ne_none target
  · intro htarget
    cases hentry : t.entries.get? name with
    | none => exact absurd (by rw [hentry]) htarget
    | some entry =>
        rw [hentry] at htarget
        cases entry with
        | directory => exact absurd rfl htarget
        | item number =>
            cases hitem : t.items number with
            | file contents => exact absurd (by simp only [hitem]) htarget
            | link target => exact ⟨number, target, hentry, hitem⟩

/-- An entry is reached unless something is in the way to it. -/
theorem reach_entry {through : Bool} (hend : through = true → ¬f.IsLink name) :
    f.reach through directory name
      = (f.barrier? directory name).elim (.ok [name]) .error := by
  unfold reach barrier?
  simp only [List.contains_iff_mem]
  split
  · rfl
  split
  · rfl
  cases f with
  | barred fault => rfl
  | reached t =>
      have htarget : through = true → t.targetAt? [name] = none := fun hthrough =>
        Decidable.not_not.mp fun hlink => hend hthrough ((isLink_iff_targetAt? h).mpr hlink)
      simp only [h.follow_eq t through htarget]
      split <;> rfl

theorem reach_entry_itself :
    f.reach false directory name = (f.barrier? directory name).elim (.ok [name]) .error :=
  reach_entry h fun hthrough => Bool.noConfusion hthrough

/-- What is in the way to an entry is in the way through it. -/
theorem barrier?_of_reach {through : Bool} {place : Place}
    (hreach : f.reach through directory name = .ok place) :
    f.barrier? directory name = none := by
  obtain ⟨hnul, hpath, t, rfl, hfollow⟩ := reach_eq_ok_iff.mp hreach
  unfold barrier?
  rw [if_neg hnul, if_neg (Nat.not_lt.mpr hpath)]
  refine if_neg fun hlong => ?_
  rw [h.follow_of_long t through hlong] at hfollow
  cases hfollow

end

end Folder

end HostAgent
