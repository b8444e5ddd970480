import HostAgent.Proofs.Dict
import HostAgent.Proofs.File.Ways

set_option autoImplicit false

/-! # Operations on a folder

An operation on an entry comes down to what stands under its name: each is described by when it is
refused and by what is seen at each path after it. `Folder.SameAt` says that nothing has changed at
a path, neither the entry nor the item it is a name of.

What is written under a name changes the file to which the name leads, and so every name of that
file (`Folder.Touches`). Where the name is no link and the only name of its file
(`Folder.Unlinked`), it alone is touched.

A text is put into the place of an item by `Folder.writeAtomic` if it can be written under the
temporary name and no directory stands under the name itself (`Folder.exists_replaced`). If a
directory stands there, the text stays where the temporary name leads.
-/

namespace HostAgent

/-! ## Changes to a tree -/

namespace FileTree

variable {t : FileTree} {place : Place} {path : String} {number : Nat}

theorem lt_fresh (h : t.entries.get? path = some (.item number)) : number < t.fresh := by
  have hmem : Entry.item number ∈ t.entries.values :=
    List.mem_map.mpr ⟨_, Dict.get?_eq_some_iff.mp h, rfl⟩
  rw [fresh]
  generalize t.entries.values = entries at hmem
  induction entries with
  | nil => cases hmem
  | cons entry rest ih =>
      rw [List.foldr_cons]
      rcases List.mem_cons.mp hmem with rfl | hrest
      · exact Nat.le_max_left _ _
      · have hlt := ih hrest
        cases entry with
        | item other => exact Nat.lt_of_lt_of_le hlt (Nat.le_max_right _ _)
        | directory => exact hlt

theorem entryAt_eq_get? (h : t.entryAt place ≠ some .directory) :
    t.entryAt place = t.entries.get? place.text := by
  rw [entryAt] at h ⊢
  split
  · rename_i habove
    exact absurd (if_pos habove) h
  · rfl

theorem numberAt_eq (h : t.entryAt place = some (.item number)) : t.numberAt place = number := by
  rw [numberAt, h]

/-- The number of a place that an entry has is that of an item there. -/
theorem entryAt_of_numberAt (h : t.entries.get? path = some (.item (t.numberAt place))) :
    t.entryAt place = some (.item (t.numberAt place)) := by
  have hlt := lt_fresh h
  unfold numberAt at hlt ⊢
  cases hentry : t.entryAt place with
  | none =>
      rw [hentry] at hlt
      exact absurd hlt (Nat.lt_irrefl _)
  | some entry =>
      rw [hentry] at hlt
      cases entry with
      | item number => rfl
      | directory => exact absurd hlt (Nat.lt_irrefl _)

section

variable (contents : List UInt8)

theorem get?_put (t : FileTree) (place : Place) (path : String) :
    (t.put place contents).entries.get? path
      = if path = place.text then some (.item (t.numberAt place)) else t.entries.get? path :=
  Dict.get?_insert t.entries place.text path _

/-- No entry is lost. -/
theorem get?_put_of_some {entry : Entry} (hplace : t.entryAt place ≠ some .directory)
    (h : t.entries.get? path = some entry) :
    (t.put place contents).entries.get? path = some entry := by
  rw [get?_put]
  split
  · rename_i heq
    rw [heq, ← entryAt_eq_get? hplace] at h
    cases entry with
    | item number => rw [numberAt_eq h]
    | directory => exact absurd h hplace
  · exact h

/-- Two paths with one item had it before. -/
theorem get?_of_put {other : String} (hplace : t.entryAt place ≠ some .directory)
    (hne : path ≠ other)
    (hpath : (t.put place contents).entries.get? path = some (.item number))
    (hother : (t.put place contents).entries.get? other = some (.item number)) :
    t.entries.get? path = some (.item number) := by
  rw [get?_put] at hpath hother
  by_cases heq : path = place.text
  · rw [if_pos heq] at hpath
    obtain rfl : t.numberAt place = number := Entry.item.inj (Option.some.inj hpath)
    rw [if_neg fun hsame => hne (heq.trans hsame.symm)] at hother
    rw [heq, ← entryAt_eq_get? hplace]
    exact entryAt_of_numberAt hother
  · rw [if_neg heq] at hpath
    exact hpath

theorem items_put_self (t : FileTree) (place : Place) :
    (t.put place contents).items (t.numberAt place) = .file contents := if_pos rfl

/-- Contents that a file has already can be put there without a change. -/
theorem put_eq_self_iff (hplace : t.entryAt place ≠ some .directory) :
    t.put place contents = t
      ↔ ∃ number, t.entryAt place = some (.item number) ∧ t.items number = .file contents := by
  constructor
  · intro hsame
    have hentry : t.entries.get? place.text = some (.item (t.numberAt place)) := by
      rw [← hsame, get?_put, if_pos rfl, hsame]
    refine ⟨t.numberAt place, entryAt_of_numberAt hentry, ?_⟩
    calc t.items (t.numberAt place)
        = (t.put place contents).items (t.numberAt place) := by rw [hsame]
      _ = .file contents := items_put_self contents t place
  · rintro ⟨number, hentry, hitem⟩
    have hget : t.entries.get? place.text = some (.item number) :=
      entryAt_eq_get? hplace ▸ hentry
    have hitems : (fun other => if other = number then .file contents else t.items other)
        = t.items := by
      funext other
      split
      · rename_i heq
        rw [heq, hitem]
      · rfl
    rw [put, numberAt_eq hentry, Dict.insert_of_get? hget, hitems]

end

theorem get?_move (t : FileTree) (source target : Place) (entry : Entry) (path : String) :
    (t.move source target entry).entries.get? path
      = if path = target.text then some entry
        else if path = source.text then none
        else t.entries.get? path := by
  rw [move, Dict.get?_insert]
  congr 1
  split
  · rename_i heq
    rw [heq, Dict.get?_erase_self]
  · rename_i hne
    rw [Dict.get?_erase_ne _ hne]

end FileTree

namespace Folder

/-! ## What is seen of a folder -/

/-- Nothing has changed at a path. -/
structure SameAt (f g : Folder) (path : String) : Prop where
  entry : g.get? path = f.get? path
  item : ∀ number, f.get? path = some (.item number) → g.item number = f.item number

/-- A file with the given contents stands at a path. -/
def Holds (f : Folder) (path : String) (contents : List UInt8) : Prop :=
  ∃ number, f.get? path = some (.item number) ∧ f.item number = .file contents

/-- What is written under a name can be seen at a path. -/
def Touches (f : Folder) (directory name path : String) : Prop :=
  ∃ place, f.reach true directory name = .ok place
    ∧ (path = place.text
      ∨ ∃ number, f.entryAt place = some (.item number) ∧ f.get? path = some (.item number))

/-- If an item stands under a name, it is a file without other names. -/
def Unlinked (f : Folder) (name : String) : Prop :=
  ∀ number, f.get? name = some (.item number) →
    (∃ contents, f.item number = .file contents)
      ∧ ∀ path, f.get? path = some (.item number) → path = name

/-- A text can be written under a name. -/
def Writable (f : Folder) (directory name : String) : Prop :=
  ∃ place, f.reach true directory name = .ok place ∧ f.entryAt place ≠ some .directory

/-- A name can be freed: what stands under it can be removed, or there is nothing to remove. -/
structure Clears (f : Folder) (directory name : String) : Prop where
  barrier : ∀ fault, f.barrier? directory name = some fault → fault = .notFound
  not_directory : f.get? name ≠ some .directory

/-- A name under which nothing stands cannot be freed exactly if something keeps it from being
looked up. -/
theorem not_clears_iff_of_absent {f : Folder} {directory name : String}
    (habsent : f.get? name = none) :
    ¬f.Clears directory name
      ↔ ∃ fault, f.barrier? directory name = some fault ∧ fault ≠ .notFound := by
  constructor
  · intro hc
    cases hbarrier : f.barrier? directory name with
    | none => exact absurd ⟨by rw [hbarrier]; nofun, habsent ▸ nofun⟩ hc
    | some fault =>
        refine ⟨fault, rfl, fun heq => hc ⟨fun other hother => ?_, habsent ▸ nofun⟩⟩
        rw [← Option.some.inj (hbarrier.symm.trans hother), heq]
  · rintro ⟨fault, hbarrier, hne⟩ hc
    exact hne (hc.barrier fault hbarrier)

theorem SameAt.refl (f : Folder) (path : String) : f.SameAt f path := ⟨rfl, fun _ _ => rfl⟩

theorem SameAt.trans {f g k : Folder} {path : String} (h : f.SameAt g path)
    (h' : g.SameAt k path) : f.SameAt k path where
  entry := h'.entry.trans h.entry
  item number hentry := (h'.item number (h.entry.trans hentry)).trans (h.item number hentry)

theorem Unlinked.not_isLink {f : Folder} {name : String} (h : f.Unlinked name) :
    ¬f.IsLink name := by
  rintro ⟨number, target, hentry, hitem⟩
  obtain ⟨⟨contents, hfile⟩, -⟩ := h number hentry
  cases hfile.symm.trans hitem

/-- A name stays without links where nothing changes and nothing is added. -/
theorem Unlinked.of_sameAt {f g : Folder} {name : String} (h : f.Unlinked name)
    (hsame : f.SameAt g name) (hsub : ∀ path entry, g.get? path = some entry →
      f.get? path = some entry) : g.Unlinked name := by
  intro number hentry
  rw [hsame.entry] at hentry
  obtain ⟨hfile, honly⟩ := h number hentry
  rw [hsame.item number hentry]
  exact ⟨hfile, fun path hpath => honly path (hsub path _ hpath)⟩

section

variable {f : Folder} {directory name : String} (h : IsEntryName name)
include h

theorem reach_of_not_isLink (hlink : ¬f.IsLink name) {place : Place}
    (hreach : f.reach true directory name = .ok place) : place = [name] := by
  have hend : f.reach true directory name = (f.barrier? directory name).elim (.ok [name]) .error :=
    reach_entry h fun _ => hlink
  rw [hreach, barrier?_of_reach h hreach] at hend
  exact Except.ok.inj hend

/-- Writing under a name without links touches nothing else. -/
theorem eq_of_touches (hlinks : f.Unlinked name) {path : String}
    (htouches : f.Touches directory name path) : path = name := by
  obtain ⟨place, hreach, hpath⟩ := htouches
  obtain rfl := reach_of_not_isLink h hlinks.not_isLink hreach
  rcases hpath with rfl | ⟨number, hentry, hpath⟩
  · rfl
  · rw [entryAt_entry h] at hentry
    exact (hlinks number hentry).2 path hpath

/-- Under a name that is no link, a text can be written unless something is in the way or a
directory stands there. -/
theorem writable_iff_of_not_isLink (hlink : ¬f.IsLink name) :
    f.Writable directory name
      ↔ f.barrier? directory name = none ∧ f.get? name ≠ some .directory := by
  unfold Writable
  rw [reach_entry h fun _ => hlink]
  cases f.barrier? directory name with
  | some fault => exact iff_of_false (by rintro ⟨_, hreach, _⟩; cases hreach) fun h => nomatch h.1
  | none =>
      rw [← entryAt_entry h]
      refine ⟨fun ⟨place, hreach, hplace⟩ => ⟨rfl, ?_⟩, fun hfree => ⟨_, rfl, hfree.2⟩⟩
      rw [Except.ok.inj hreach]
      exact hplace

/-! ## Removal -/

/-- A removal is refused if something is in the way or a directory stands there. -/
theorem remove_of_not_clears (hc : ¬f.Clears directory name) :
    f.remove directory name
      = .error ((f.barrier? directory name).getD .isDirectory)
      ∧ (f.barrier? directory name).getD .isDirectory ≠ .notFound := by
  rw [remove, reach_entry_itself h]
  cases hbarrier : f.barrier? directory name with
  | some fault =>
      refine ⟨rfl, fun (heq : fault = .notFound) => hc ⟨fun other hother => ?_, ?_⟩⟩
      · rw [← Option.some.inj (hbarrier.symm.trans hother), heq]
      · subst heq
        rw [eq_missing_of_barrier? hbarrier]
        exact nofun
  | none =>
      have hdirectory : f.get? name = some .directory :=
        Decidable.byContradiction fun hne => hc ⟨by rw [hbarrier]; nofun, hne⟩
      simp only [Option.elim_none, entryAt_entry h, hdirectory]
      exact ⟨rfl, by decide⟩

/-- What stands under a name that can be freed is gone after a removal, unless it was absent. -/
theorem remove_of_clears (hc : f.Clears directory name) :
    (∃ g, f.remove directory name = .ok g ∧ f.get? name ≠ none ∧ g.get? name = none
      ∧ (∀ path entry, g.get? path = some entry → f.get? path = some entry)
      ∧ ∀ path, path ≠ name → f.SameAt g path)
    ∨ (f.remove directory name = .error .notFound ∧ f.get? name = none) := by
  rw [remove, reach_entry_itself h]
  cases hbarrier : f.barrier? directory name with
  | some fault =>
      obtain rfl := hc.barrier fault hbarrier
      obtain rfl := eq_missing_of_barrier? hbarrier
      exact .inr ⟨rfl, rfl⟩
  | none =>
      obtain ⟨t, rfl⟩ := exists_reached_of_barrier?_eq_none hbarrier
      simp only [Option.elim_none, entryAt_entry h]
      cases hentry : (reached t).get? name with
      | none => exact .inr ⟨rfl, rfl⟩
      | some entry =>
          cases entry with
          | directory => exact absurd hentry hc.not_directory
          | item number =>
              have hne : ∀ path, path ≠ name →
                  (t.drop [name]).entries.get? path = t.entries.get? path :=
                fun path hpath => Dict.get?_erase_ne _ hpath
              have hgone : (t.drop [name]).entries.get? name = none := Dict.get?_erase_self _ _
              refine .inl ⟨_, rfl, nofun, hgone, fun path entry hpath => ?_,
                fun path hpath => ⟨hne path hpath, fun _ _ => rfl⟩⟩
              by_cases heq : path = name
              · rw [heq] at hpath
                cases hgone.symm.trans hpath
              · exact (hne path heq).symm.trans hpath

end

/-! ## Writing -/

section

variable {f : Folder} {directory name : String} {place : Place} (contents : List UInt8)

theorem exists_write_eq_error (hnot : ¬f.Writable directory name) :
    ∃ fault, f.write directory name contents = .error fault := by
  rw [write]
  cases hreach : f.reach true directory name with
  | error fault => exact ⟨fault, rfl⟩
  | ok place =>
      have hdirectory : f.entryAt place = some .directory :=
        Decidable.byContradiction fun hne => hnot ⟨place, hreach, hne⟩
      exact ⟨_, if_pos hdirectory⟩

theorem write_of_reach (hreach : f.reach true directory name = .ok place)
    (hplace : f.entryAt place ≠ some .directory) :
    f.write directory name contents = .ok (f.alter (·.put place contents)) := by
  rw [write, hreach]
  exact if_neg hplace

/-- The contents stand at the place to which the name leads. -/
theorem holds_put (hreach : f.reach true directory name = .ok place) :
    (f.alter (·.put place contents)).Holds place.text contents := by
  obtain ⟨-, -, t, rfl, -⟩ := reach_eq_ok_iff.mp hreach
  refine ⟨t.numberAt place, ?_, t.items_put_self contents place⟩
  exact (t.get?_put contents place place.text).trans (if_pos rfl)

/-- What the name does not touch stays the same. -/
theorem sameAt_put (hreach : f.reach true directory name = .ok place) (path : String)
    (hpath : ¬f.Touches directory name path) :
    f.SameAt (f.alter (·.put place contents)) path := by
  obtain ⟨-, -, t, rfl, -⟩ := reach_eq_ok_iff.mp hreach
  refine ⟨?_, fun number hentry => if_neg ?_⟩
  · exact (t.get?_put contents place path).trans
      (if_neg fun heq => hpath ⟨place, hreach, .inl heq⟩)
  · rintro rfl
    exact hpath ⟨place, hreach, .inr ⟨_, FileTree.entryAt_of_numberAt hentry, hentry⟩⟩

theorem get?_put_of_some {entry : Entry} {path : String}
    (hplace : f.entryAt place ≠ some .directory) (hentry : f.get? path = some entry) :
    (f.alter (·.put place contents)).get? path = some entry := by
  cases f with
  | barred fault => exact hentry
  | reached t => exact FileTree.get?_put_of_some contents hplace hentry

/-- Contents that are there already can be written without a change. -/
theorem alter_put_eq_self_iff (hreach : f.reach true directory name = .ok place)
    (hplace : f.entryAt place ≠ some .directory) :
    f.alter (·.put place contents) = f ↔ f.Holds place.text contents := by
  obtain ⟨-, -, t, rfl, -⟩ := reach_eq_ok_iff.mp hreach
  have hentry := FileTree.entryAt_eq_get? hplace
  show reached _ = reached t ↔ _
  rw [Folder.reached.injEq, FileTree.put_eq_self_iff contents hplace, hentry]
  rfl

theorem barrier?_alter (change : FileTree → FileTree) (other : String) :
    (f.alter change).barrier? directory other = f.barrier? directory other := by
  cases f <;> rfl

end

/-! ## Putting a text into place -/

/-- The folder `g` comes from `f` by putting contents under a name by way of a temporary one. Under
the temporary name there may have been a link, or a file with other names. -/
structure Replaced (f g : Folder) (directory temporary name : String)
    (contents : List UInt8) : Prop where
  /-- What stood under the temporary name stands under the name itself. -/
  moved : ∀ entry, f.get? temporary = some entry → g.get? name = some entry
  /-- Nothing is left under the temporary name, unless both were names of one item. -/
  gone : f.get? temporary = none ∨ f.get? temporary ≠ f.get? name → g.get? temporary = none
  holds : ¬f.IsLink temporary → g.Holds name contents
  /-- The contents are where a link led, unless that was the name itself. -/
  linked : f.IsLink temporary → ∃ place, f.reach true directory temporary = .ok place
    ∧ (place.text ≠ name → g.Holds place.text contents)
  kept : ∀ path, path ≠ name → path ≠ temporary → ¬f.Touches directory temporary path →
    f.SameAt g path

/-- Where the temporary name had no links, it is free afterwards. -/
theorem Replaced.get?_temporary {f g : Folder} {directory temporary name : String}
    {contents : List UInt8} (h : f.Replaced g directory temporary name contents)
    (hne : temporary ≠ name) (hfree : f.get? name ≠ some .directory)
    (hlinks : f.Unlinked temporary) : g.get? temporary = none := by
  apply h.gone
  cases hentry : f.get? temporary with
  | none => exact .inl rfl
  | some entry =>
      refine .inr fun hsame => ?_
      cases entry with
      | directory => exact hfree hsame.symm
      | item number => exact hne ((hlinks number hentry).2 name hsame.symm).symm

section

variable {f written moved : Folder} {directory name text : String} {fault : FileFault}

theorem writeAtomic_of_write_error
    (hwrite : f.write directory (temporaryPath name) (Utf8.encode text) = .error fault) :
    f.writeAtomic directory name text = (f, .error fault) := by
  rw [writeAtomic, hwrite]

theorem writeAtomic_of_rename_error
    (hwrite : f.write directory (temporaryPath name) (Utf8.encode text) = .ok written)
    (hrename : written.rename directory (temporaryPath name) name = .error fault) :
    f.writeAtomic directory name text = (written, .error fault) := by
  rw [writeAtomic, hwrite]
  simp only [hrename]

theorem writeAtomic_of_rename_ok
    (hwrite : f.write directory (temporaryPath name) (Utf8.encode text) = .ok written)
    (hrename : written.rename directory (temporaryPath name) name = .ok moved) :
    f.writeAtomic directory name text = (moved, .ok ()) := by
  rw [writeAtomic, hwrite]
  simp only [hrename]

end

/-- How one entry takes the place of another. -/
theorem rename_of_entries {f : Folder} {directory source target : String} {entry : Entry}
    (hs : IsEntryName source) (ht : IsEntryName target)
    (hsource : f.barrier? directory source = none)
    (htarget : f.barrier? directory target = none) (hentry : f.get? source = some entry) :
    f.rename directory source target
      = if f.get? target = some .directory then .error .isDirectory
        else .ok (if f.get? target = some entry then f
          else f.alter (·.move [source] [target] entry)) := by
  rw [rename, reach_entry_itself hs, reach_entry_itself ht, hsource, htarget]
  simp only [Option.elim_none, entryAt_entry hs, entryAt_entry ht, hentry]
  cases htaken : f.get? target with
  | none => rfl
  | some other => cases other <;> rfl

section

variable {f : Folder} {directory temporary name : String} {contents : List UInt8} {place : Place}
  (htemporary : IsEntryName temporary) (hname : IsEntryName name) (hne : temporary ≠ name)
  (hreach : f.reach true directory temporary = .ok place)
  (hplace : f.entryAt place ≠ some .directory)
include htemporary hreach hplace

/-- After the contents are written, an item stands under the temporary name. -/
theorem exists_get?_put_temporary :
    ∃ number, (f.alter (·.put place contents)).get? temporary = some (.item number) := by
  by_cases hlink : f.IsLink temporary
  · obtain ⟨number, target, hentry, -⟩ := hlink
    exact ⟨number, get?_put_of_some contents hplace hentry⟩
  · obtain rfl := reach_of_not_isLink htemporary hlink hreach
    obtain ⟨number, hentry, -⟩ := holds_put contents hreach
    exact ⟨number, hentry⟩

omit htemporary in
/-- Where a link stands, the contents are written elsewhere. -/
theorem text_ne_of_isLink (hlink : f.IsLink temporary) : place.text ≠ temporary := by
  obtain ⟨-, -, t, rfl, hfollow⟩ := reach_eq_ok_iff.mp hreach
  obtain ⟨number, target, hentry, hitem⟩ := hlink
  intro heq
  have hat : t.entryAt place = some (.item number) := by
    rw [FileTree.entryAt_eq_get? hplace, heq]
    exact hentry
  have htarget := FileTree.targetAt?_of_follow hfollow
  simp only [FileTree.targetAt?, hat, show t.items number = .link target from hitem] at htarget
  cases htarget

/-- A name without links stays one when it is written to. -/
theorem unlinked_put (hlinks : f.Unlinked temporary) :
    (f.alter (·.put place contents)).Unlinked temporary := by
  obtain rfl := reach_of_not_isLink htemporary hlinks.not_isLink hreach
  obtain ⟨number, hentry, hitem⟩ := holds_put contents hreach
  obtain ⟨-, -, t, rfl, -⟩ := reach_eq_ok_iff.mp hreach
  intro other hother
  obtain rfl : number = other := Entry.item.inj (Option.some.inj (hentry.symm.trans hother))
  refine ⟨⟨contents, hitem⟩, fun path hpath => Decidable.byContradiction fun hne => hne ?_⟩
  have hbefore := FileTree.get?_of_put contents hplace (Ne.symm hne) hother hpath
  exact (hlinks number hbefore).2 path (FileTree.get?_of_put contents hplace hne hpath hother)

section

variable {number : Nat}
  (hentry : (f.alter (·.put place contents)).get? temporary = some (.item number))
include hentry

/-- Without a link the contents are in the item that stands under the temporary name. -/
theorem item_put_of_not_isLink (hlink : ¬f.IsLink temporary) :
    (f.alter (·.put place contents)).item number = .file contents := by
  obtain rfl := reach_of_not_isLink htemporary hlink hreach
  obtain ⟨other, hother, hitem⟩ := holds_put contents hreach
  obtain rfl : number = other := Entry.item.inj (Option.some.inj (hentry.symm.trans hother))
  exact hitem

omit htemporary hreach in
/-- What stood under the temporary name before is this item. -/
theorem eq_item_of_get? {entry : Entry} (hbefore : f.get? temporary = some entry) :
    entry = .item number :=
  Option.some.inj ((get?_put_of_some contents hplace hbefore).symm.trans hentry)

include hne

/-- If the name is another one of this item, there is nothing to move. -/
theorem replaced_put
    (hsame : (f.alter (·.put place contents)).get? name = some (.item number)) :
    f.Replaced (f.alter (·.put place contents)) directory temporary name contents := by
  have hboth : f.get? temporary = some (.item number) ∧ f.get? name = some (.item number) := by
    obtain ⟨-, -, t, rfl, -⟩ := reach_eq_ok_iff.mp hreach
    exact ⟨FileTree.get?_of_put contents hplace hne hentry hsame,
      FileTree.get?_of_put contents hplace hne.symm hsame hentry⟩
  exact {
    moved entry hbefore := eq_item_of_get? hplace hentry hbefore ▸ hsame
    gone := by
      rintro (hnone | hother)
      · cases hnone.symm.trans hboth.1
      · exact absurd (hboth.1.trans hboth.2.symm) hother
    holds hlink := ⟨number, hsame, item_put_of_not_isLink htemporary hreach hplace hentry hlink⟩
    linked _ := ⟨place, hreach, fun _ => holds_put contents hreach⟩
    kept path _ _ htouches := sameAt_put contents hreach path htouches }

/-- The item is moved from the temporary name to the name itself. -/
theorem replaced_move :
    f.Replaced ((f.alter (·.put place contents)).alter (·.move [temporary] [name] (.item number)))
      directory temporary name contents := by
  have hitem : ¬f.IsLink temporary → (f.alter (·.put place contents)).item number = .file contents :=
    item_put_of_not_isLink htemporary hreach hplace hentry
  have hbefore : ∀ entry, f.get? temporary = some entry → entry = .item number :=
    fun _ => eq_item_of_get? hplace hentry
  have hkept := sameAt_put contents hreach
  obtain ⟨other, hother, hcontents⟩ := holds_put contents hreach
  obtain ⟨-, -, t, rfl, -⟩ := id (reach_eq_ok_iff.mp hreach)
  have hmove := FileTree.get?_move (t.put place contents) [temporary] [name] (.item number)
  have hmoved : ((t.put place contents).move [temporary] [name] (.item number)).entries.get? name
      = some (.item number) := (hmove name).trans (if_pos rfl)
  have hothers : ∀ path, path ≠ name → path ≠ temporary →
      ((t.put place contents).move [temporary] [name] (.item number)).entries.get? path
        = (t.put place contents).entries.get? path := fun path hpath hother =>
    (hmove path).trans ((if_neg hpath).trans (if_neg hother))
  exact {
    moved entry h := hbefore entry h ▸ hmoved
    gone _ := (hmove temporary).trans ((if_neg hne).trans (if_pos rfl))
    holds hlink := ⟨number, hmoved, hitem hlink⟩
    linked hlink := by
      refine ⟨place, hreach, fun hplaceName => ⟨other, ?_, hcontents⟩⟩
      exact (hothers _ hplaceName (text_ne_of_isLink hreach hplace hlink)).trans hother
    kept path hpath hother htouches :=
      ⟨(hothers path hpath hother).trans (hkept path htouches).entry,
        (hkept path htouches).item⟩ }

end

include hname hne

/-- Contents are put under a name by writing them under the temporary name and moving what then
stands there. -/
theorem exists_replaced_of_reach (hbarrier : f.barrier? directory name = none)
    (hfree : f.get? name ≠ some .directory) :
    ∃ g, (f.alter (·.put place contents)).rename directory temporary name = .ok g
      ∧ f.Replaced g directory temporary name contents := by
  obtain ⟨number, hentry⟩ : ∃ number, (f.alter (·.put place contents)).get? temporary
      = some (.item number) := exists_get?_put_temporary htemporary hreach hplace
  have hstill : (f.alter (·.put place contents)).get? name ≠ some .directory := by
    obtain ⟨-, -, t, rfl, -⟩ := reach_eq_ok_iff.mp hreach
    show (t.put place contents).entries.get? name ≠ _
    rw [FileTree.get?_put]
    split
    · nofun
    · exact hfree
  rw [rename_of_entries htemporary hname
    ((barrier?_alter _ temporary).trans (barrier?_of_reach htemporary hreach))
    ((barrier?_alter _ name).trans hbarrier) hentry, if_neg hstill]
  by_cases hsame : (f.alter (·.put place contents)).get? name = some (.item number)
  · rw [if_pos hsame]
    exact ⟨_, rfl, replaced_put htemporary hne hreach hplace hentry hsame⟩
  · rw [if_neg hsame]
    exact ⟨_, rfl, replaced_move htemporary hne hreach hplace hentry⟩

end

section

variable {f : Folder} {directory name : String} (hname : IsEntryName name)
  (htemporary : IsEntryName (temporaryPath name)) (hne : temporaryPath name ≠ name)
  (text : String)

/-- If nothing can be written under the temporary name, nothing changes. -/
theorem writeAtomic_of_not_writable (hnot : ¬f.Writable directory (temporaryPath name)) :
    ∃ fault, f.writeAtomic directory name text = (f, .error fault) := by
  obtain ⟨fault, hwrite⟩ := exists_write_eq_error (Utf8.encode text) hnot
  exact ⟨fault, writeAtomic_of_write_error hwrite⟩

include hname htemporary

/-- If a directory stands under the name, the text stays where the temporary name leads. -/
theorem writeAtomic_of_directory {place : Place}
    (hreach : f.reach true directory (temporaryPath name) = .ok place)
    (hplace : f.entryAt place ≠ some .directory)
    (hbarrier : f.barrier? directory name = none) (hdirectory : f.get? name = some .directory) :
    f.writeAtomic directory name text
      = (f.alter (·.put place (Utf8.encode text)), .error .isDirectory) := by
  obtain ⟨number, hentry⟩ := exists_get?_put_temporary htemporary hreach hplace
  refine writeAtomic_of_rename_error (write_of_reach _ hreach hplace) ?_
  rw [rename_of_entries htemporary hname
    ((barrier?_alter _ _).trans (barrier?_of_reach htemporary hreach))
    ((barrier?_alter _ name).trans hbarrier) hentry]
  exact if_pos (get?_put_of_some _ hplace hdirectory)

include hne

/-- **A text is put into place** if it can be written under the temporary name and no directory
stands under the name. -/
theorem exists_replaced (hwritable : f.Writable directory (temporaryPath name))
    (hbarrier : f.barrier? directory name = none) (hfree : f.get? name ≠ some .directory) :
    ∃ g, f.writeAtomic directory name text = (g, .ok ())
      ∧ f.Replaced g directory (temporaryPath name) name (Utf8.encode text) := by
  obtain ⟨place, hreach, hplace⟩ := hwritable
  have hwrite := write_of_reach (Utf8.encode text) hreach hplace
  obtain ⟨g, hrename, hreplaced⟩ :=
    exists_replaced_of_reach htemporary hname hne hreach hplace hbarrier hfree
  exact ⟨g, writeAtomic_of_rename_ok hwrite hrename, hreplaced⟩

end

end Folder

end HostAgent
