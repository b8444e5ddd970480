import HostAgent.Proofs.Service.Control
import HostAgent.Proofs.Text.Utf8

set_option autoImplicit false

/-! # Unit writes that fail

The unit is put into place in two steps. If the first one is refused, nothing has changed. The
second one is refused if a directory stands where the unit should be; then the text that was written
for it stays behind where the temporary name leads (`Service.failed_write_traceless_iff`), in the
place of what stood there before. Unless a link stands under the temporary name, that is the
temporary file itself.
-/

namespace HostAgent.Service

/-- Once the temporary file can be written, only a directory in the place of the unit makes a write
fail. -/
theorem unit_directory_of_write_error {s : Service} (hname : s.name ≠ "")
    (hslash : '/' ∉ s.name.toList) {before after : Folder} {text : String} {fault : FileFault}
    (hw : before.Writable s.unitDirectory s.temporaryName)
    (hfail : before.writeAtomic s.unitDirectory s.unitName text = (after, .error fault)) :
    before.get? s.unitName = some .directory := by
  apply Decidable.byContradiction
  intro hunit
  obtain ⟨other, hother, -⟩ := exists_replaced_unit hname hslash text hw hunit
  rw [hother] at hfail
  cases hfail

/-- **A unit write that fails leaves no trace exactly if the temporary file could not be written, or
held the same text before.** If it could be written, a directory stands in the place of the unit,
and the text stays behind where the temporary name leads. Nothing else has changed. -/
theorem failed_write_traceless_iff (s : Service) (hname : s.name ≠ "")
    (hslash : '/' ∉ s.name.toList) (before after : Folder) (text : String) (fault : FileFault)
    (hfail : before.writeAtomic s.unitDirectory s.unitName text = (after, .error fault)) :
    (after = before ↔ ¬before.Writable s.unitDirectory s.temporaryName
        ∨ ∃ place, before.reach true s.unitDirectory s.temporaryName = .ok place
          ∧ before.Holds place.text (Utf8.encode text))
      ∧ (before.Writable s.unitDirectory s.temporaryName →
        before.get? s.unitName = some .directory
          ∧ ∃ place, before.reach true s.unitDirectory s.temporaryName = .ok place
            ∧ after.Holds place.text (Utf8.encode text)
            ∧ (¬before.IsLink s.temporaryName → place = [s.temporaryName]))
      ∧ (∀ path, ¬before.Touches s.unitDirectory s.temporaryName path → before.SameAt after path)
      ∧ (before.Unlinked s.temporaryName →
        ∀ path, path ≠ s.temporaryName → before.SameAt after path) := by
  have htemporary := isEntryName_temporaryName hslash
  by_cases hw : before.Writable s.unitDirectory s.temporaryName
  · have hunit := unit_directory_of_write_error hname hslash hw hfail
    obtain ⟨place, hreach, hplace⟩ := id hw
    -- a failed write that has begun is the one in which the text stays behind
    obtain ⟨rfl, -⟩ : before.alter (·.put place (Utf8.encode text)) = after
        ∧ Except.error .isDirectory = Except.error fault := by
      rw [← Prod.mk.injEq, ← hfail]
      exact (writeAtomic_of_unit_directory hname hslash text hreach hplace hunit).symm
    have hkept := Folder.sameAt_put (Utf8.encode text) hreach
    refine ⟨?_, fun _ => ⟨hunit, place, hreach, Folder.holds_put _ hreach, fun hlink => ?_⟩,
      hkept, fun hlinks path hpath => hkept path fun htouches => hpath ?_⟩
    · rw [Folder.alter_put_eq_self_iff _ hreach hplace, or_iff_right (not_not_intro hw)]
      refine ⟨fun hholds => ⟨place, hreach, hholds⟩, fun ⟨other, hother, hholds⟩ => ?_⟩
      rw [Except.ok.inj (hreach.symm.trans hother)]
      exact hholds
    · exact Folder.reach_of_not_isLink htemporary hlink hreach
    · exact Folder.eq_of_touches htemporary hlinks htouches
  · obtain ⟨fault', hleft⟩ := writeAtomic_of_not_temporary hname hslash text hw
    obtain rfl : before = after := congrArg Prod.fst (hleft.symm.trans hfail)
    exact ⟨iff_of_true rfl (.inl hw), fun h => absurd h hw, fun path _ => .refl _ path,
      fun _ path _ => .refl _ path⟩

/-- A unit directory in which a directory stands in the place of the unit, with some more
entries. -/
def blockedUnits (others : List (String × Node)) : Folder :=
  .holding (Dict.ofList (("vm-agent.service", .directory) :: others)) "units"

/-- A failed write puts its text in the place of one that was left behind before. -/
theorem failed_write_replaces_stale_text :
    let s : Service := ⟨"vm-agent", "/usr/bin/vm-agent", "units", "systemctl"⟩
    let before := blockedUnits [("vm-agent.service.tmp", .file "stale")]
    let after := (before.writeAtomic s.unitDirectory s.unitName s.unitText).1
    (before.writeAtomic s.unitDirectory s.unitName s.unitText).2 = .error .isDirectory
      ∧ before.Writable s.unitDirectory s.temporaryName ∧ after ≠ before
      ∧ before.Holds s.temporaryName (Utf8.encode "stale")
      ∧ after.Holds s.temporaryName (Utf8.encode s.unitText) := by
  intro s before after
  have hreach : before.reach true s.unitDirectory s.temporaryName = .ok [s.temporaryName] := by
    decide +kernel
  have hplace : before.entryAt [s.temporaryName] ≠ some .directory := by decide +kernel
  have hw : before.Writable s.unitDirectory s.temporaryName := ⟨_, hreach, hplace⟩
  have herror : (before.writeAtomic s.unitDirectory s.unitName s.unitText).2
      = .error .isDirectory := by
    rw [writeAtomic_of_unit_directory (by decide) (by decide) s.unitText hreach hplace
      (by decide +kernel)]
  have hfail : before.writeAtomic s.unitDirectory s.unitName s.unitText
      = (after, .error .isDirectory) := Prod.ext rfl herror
  have hstale : before.Holds s.temporaryName (Utf8.encode "stale") :=
    ⟨1, by decide +kernel, by decide +kernel⟩
  obtain ⟨hsame, hleft, -⟩ :=
    failed_write_traceless_iff s (by decide) (by decide) before after s.unitText _ hfail
  obtain ⟨-, place, hplace, hholds, -⟩ := hleft hw
  obtain rfl : place = [s.temporaryName] := Except.ok.inj (hplace.symm.trans hreach)
  refine ⟨herror, hw, fun heq => ?_, hstale, hholds⟩
  rcases hsame.mp heq with hnot | ⟨other, hother, number, hentry, hitem⟩
  · exact hnot hw
  · obtain rfl : other = [s.temporaryName] := Except.ok.inj (hother.symm.trans hreach)
    obtain ⟨number', hentry', hitem'⟩ := hstale
    obtain rfl : number = number' :=
      Entry.item.inj (Option.some.inj (hentry.symm.trans hentry'))
    have hbytes := Item.file.inj (hitem.symm.trans hitem')
    have htext : some s.unitText = some "stale" := by
      rw [← Utf8.decode?_encode, hbytes, Utf8.decode?_encode]
    exact absurd (Option.some.inj htext) (by decide +kernel)

/-- A failed write leaves a file that was not there. -/
theorem failed_write_leaves_temporary_file :
    let s : Service := ⟨"vm-agent", "/usr/bin/vm-agent", "units", "systemctl"⟩
    let before := blockedUnits []
    let after := (before.writeAtomic s.unitDirectory s.unitName s.unitText).1
    (s.name ≠ "" ∧ '/' ∉ s.name.toList)
      ∧ (∃ fault, (before.writeAtomic s.unitDirectory s.unitName s.unitText).2 = .error fault)
      ∧ before.get? s.temporaryName = none
      ∧ after.Holds s.temporaryName (Utf8.encode s.unitText) := by
  intro s before after
  have hreach : before.reach true s.unitDirectory s.temporaryName = .ok [s.temporaryName] := by
    decide +kernel
  have hwrite : before.writeAtomic s.unitDirectory s.unitName s.unitText = _ :=
    writeAtomic_of_unit_directory (by decide) (by decide) s.unitText hreach (by decide +kernel)
      (by decide +kernel)
  refine ⟨by decide, ⟨.isDirectory, by rw [hwrite]⟩, by decide +kernel, ?_⟩
  show (before.writeAtomic s.unitDirectory s.unitName s.unitText).1.Holds _ _
  rw [hwrite]
  exact Folder.holds_put _ hreach

end HostAgent.Service
