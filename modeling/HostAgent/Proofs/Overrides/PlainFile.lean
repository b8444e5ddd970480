import HostAgent.OverrideFile
import HostAgent.Proofs.Ini.Lines
import HostAgent.Proofs.Ini.Tables
import HostAgent.Proofs.Overrides.Equality
import HostAgent.Proofs.Text.Utf8

set_option autoImplicit false

/-! # Plain override files

An operator writes each section once, with its assignments below its name, and puts blank lines and
comments anywhere. Such a file is read back as it was written: a look-up finds the last
assignment to its key in its section, in whatever order its tables are walked
(`get?_ofFile_of_plain`).

The settings of a section are kept under the names as they are spelled, and the case of letters is
folded afterwards. So names that differ only in case must not meet: neither two sections nor two
keys of one section may differ in that way.
-/

namespace HostAgent.Overrides

open Ini

/-- A section of a plain file: its name and its assignments in order, whose keys are never spelled
in two ways. -/
structure PlainSection where
  name : PlainName
  settings : List (PlainName × PlainValue)
  one_spelling : ∀ a ∈ settings, ∀ b ∈ settings, Alike a.1.text b.1.text → a.1 = b.1

namespace PlainSection

/-- A section as it is written, without what is put in between. -/
def lines (s : PlainSection) : List Line :=
  .header s.name :: s.settings.map fun a => .assignment a.1 a.2

/-- The last assignment to a key, in any spelling, has that value. -/
def Assigns (s : PlainSection) (key value : String) : Prop :=
  LastValue (fun a : PlainName × PlainValue => Alike a.1.text key) (·.2.text) s.settings value

/-- The group that a section is read as. -/
def group (s : PlainSection) : Ini.Group :=
  ⟨s.name.text, s.settings.map fun a => (a.1.text, a.2.text)⟩

theorem filterMap_lines (s : PlainSection) : s.lines.filterMap Line.item? = s.group.items := by
  have hheader : Line.item? (.header s.name) = some (.group s.name.text) := rfl
  have hsettings (settings : List (PlainName × PlainValue)) :
      (settings.map fun a => Line.assignment a.1 a.2).filterMap Line.item?
        = settings.map fun a => Item.setting a.1.text a.2.text := by
    rw [List.filterMap_map]
    exact congrFun (List.filterMap_eq_map ..) settings
  rw [lines, List.filterMap_cons_some hheader, hsettings, Group.items, group, List.map_map]
  rfl

/-- What the group of a section holds under a name. -/
theorem get?_group_iff {s : PlainSection} {key value : String} :
    (Dict.ofList s.group.settings).get? key = some value
      ↔ LastValue (fun a : PlainName × PlainValue => a.1.text = key) (·.2.text) s.settings
        value := by
  rw [Dict.get?_ofList_eq_some_iff, group, lastValue_map_iff]

/-- A key of a section is found in any spelling. -/
theorem exists_get?_group_iff {s : PlainSection} {key value : String} :
    (∃ name, Alike name key ∧ (Dict.ofList s.group.settings).get? name = some value)
      ↔ s.Assigns key value := by
  simp only [get?_group_iff]
  constructor
  · rintro ⟨name, halike, before, a, after, hsettings, rfl, hvalue, hlater⟩
    refine ⟨before, a, after, hsettings, halike, hvalue, fun b hb hkey => ?_⟩
    -- a later assignment under another spelling would be to the same key
    have hmem : b ∈ s.settings ∧ a ∈ s.settings := by
      rw [hsettings]
      exact ⟨List.mem_append_right _ (List.mem_cons_of_mem a hb),
        List.mem_append_right _ List.mem_cons_self⟩
    have hsame : b.1 = a.1 :=
      s.one_spelling b hmem.1 a hmem.2 (Alike.trans hkey (Alike.symm halike))
    exact hlater b hb (congrArg PlainName.text hsame)
  · rintro ⟨before, a, after, hsettings, halike, hvalue, hlater⟩
    refine ⟨a.1.text, halike, before, a, after, hsettings, rfl, hvalue, fun b hb hname => ?_⟩
    refine hlater b hb ?_
    show Alike b.1.text key
    rw [show b.1.text = a.1.text from hname]
    exact halike

end PlainSection

/-! ## The assignments of a file -/

section

variable {sections : List PlainSection}

/-- The items of a plain file, of which only the headers and the assignments count. -/
theorem read_plain (mark : LineEnd) {lines : List Line}
    (hlines : lines.filter Line.isItem = sections.flatMap PlainSection.lines) :
    Ini.read (fileText mark lines)
      = .ok ((sections.map PlainSection.group).flatMap Group.items) := by
  have hitems : (lines.filter Line.isItem).filterMap Line.item? = lines.filterMap Line.item? := by
    rw [List.filterMap_filter]
    refine List.filterMap_congr fun line _ => ?_
    cases line <;> rfl
  rw [read_fileText, ← hitems, hlines, List.filterMap_flatMap, List.flatMap_map]
  simp only [PlainSection.filterMap_lines]

/-- The names of plain sections lead nowhere else. -/
theorem isSimple_of_mem_groups : ∀ g ∈ sections.map PlainSection.group, Path.IsSimple g.name := by
  intro g hg
  obtain ⟨s, _, rfl⟩ := List.mem_map.mp hg
  obtain ⟨ch, cs, hname, -⟩ := s.name.exists_first
  refine Path.isSimple_of_forall ?_ fun ch hch => s.name.isPartChar_of_mem hch
  exact hname ▸ List.cons_ne_nil ch cs

variable (hnames : sections.Pairwise fun s t => ¬Alike s.name.text t.name.text)

include hnames

/-- Sections with alike names are the same. -/
theorem eq_of_alike {s t : PlainSection} (hs : s ∈ sections) (ht : t ∈ sections)
    (h : Alike s.name.text t.name.text) : s = t := by
  have hsymm : Std.Symm fun s t : PlainSection => ¬Alike s.name.text t.name.text :=
    ⟨fun _ _ hnot halike => hnot halike.symm⟩
  by_contra hne
  exact hnames.forall hs ht hne h

variable (walk : Ini.Walk)

/-- What a plain file assigns. -/
theorem mem_assignments_iff {e : Entry} :
    e ∈ assignments walk ((sections.map PlainSection.group).flatMap Group.items)
      ↔ ∃ s ∈ sections, s.name.text = e.group
        ∧ (Dict.ofList s.group.settings).get? e.key = some e.value := by
  have hdistinct : (sections.map PlainSection.group).Pairwise fun g g' => g.name ≠ g'.name := by
    refine List.pairwise_map.mpr (hnames.imp fun hnot heq => hnot ?_)
    exact sameName_iff_alike.mp (congrArg foldCase heq)
  have hentry : e ∈ assignments walk ((sections.map PlainSection.group).flatMap Group.items)
      ↔ (e.group, e.key, e.value) ∈ texts walk
        (tree walk (bindings ((sections.map PlainSection.group).flatMap Group.items))) := by
    rw [assignments, List.mem_map]
    constructor
    · rintro ⟨_, hmem, heq⟩
      exact heq ▸ hmem
    · exact fun hmem => ⟨_, hmem, rfl⟩
  rw [hentry, mem_texts_iff walk hdistinct isSimple_of_mem_groups]
  simp only [List.mem_map, exists_exists_and_eq_and]
  exact Iff.rfl

/-- No two sections, and no two keys of a section, contradict each other. -/
theorem consistent_assignments :
    Consistent (assignments walk ((sections.map PlainSection.group).flatMap Group.items)) := by
  intro e he e' he' hconcerns
  obtain ⟨s, hs, hgroup, hvalue⟩ := (mem_assignments_iff hnames walk).mp he
  obtain ⟨s', hs', hgroup', hvalue'⟩ := (mem_assignments_iff hnames walk).mp he'
  obtain rfl : s' = s := by
    refine eq_of_alike hnames hs' hs ?_
    rw [hgroup, hgroup']
    exact hconcerns.group_alike
  -- both keys are written in the one section
  obtain ⟨a, ha, hkey, -⟩ := (PlainSection.get?_group_iff.mp hvalue).exists_mem
  obtain ⟨a', ha', hkey', -⟩ := (PlainSection.get?_group_iff.mp hvalue').exists_mem
  have halike : Alike a'.1.text a.1.text := by
    rw [hkey, hkey']
    exact hconcerns.key_alike
  have hsame : e'.key = e.key := by rw [← hkey, ← hkey', s'.one_spelling a' ha' a ha halike]
  rw [hsame, hvalue] at hvalue'
  exact (Option.some.inj hvalue').symm

/-- A look-up finds what the section of its name assigns. -/
theorem get?_ofEntries_assignments_iff {group key value : String} :
    (ofEntries (assignments walk ((sections.map PlainSection.group).flatMap Group.items))).get?
        group key = some value
      ↔ ∃ s ∈ sections, Alike s.name.text group ∧ s.Assigns key value := by
  rw [(consistent_assignments hnames walk).get?_eq_some_iff]
  constructor
  · rintro ⟨e, he, hconcerns, rfl⟩
    obtain ⟨s, hs, hgroup, hvalue⟩ := (mem_assignments_iff hnames walk).mp he
    refine ⟨s, hs, ?_, PlainSection.exists_get?_group_iff.mp ⟨e.key, hconcerns.key_alike, hvalue⟩⟩
    rw [hgroup]
    exact hconcerns.group_alike
  · rintro ⟨s, hs, halike, hassigns⟩
    obtain ⟨name, hname, hvalue⟩ := PlainSection.exists_get?_group_iff.mpr hassigns
    exact ⟨⟨s.name.text, name, value⟩, (mem_assignments_iff hnames walk).mpr ⟨s, hs, rfl, hvalue⟩,
      ⟨halike, hname⟩, rfl⟩

end

/-- **A plain override file is read back as it is written.** The file has a line `[name]` for each
section and below it a line `key = value` for each of its assignments, and among these lines there
are blank ones and comments. If the names of sections differ by more than case, it is read without a
fault and alike under every walk through its tables, and a look-up under any spelling of a section
and a key finds the value of the last assignment to that key in that section, or nothing if there is
none. -/
theorem get?_ofFile_of_plain (path : String) (mark : LineEnd) (sections : List PlainSection)
    (lines : List Line) (hnames : sections.Pairwise fun s t => ¬Alike s.name.text t.name.text)
    (hlines : lines.filter Line.isItem = sections.flatMap PlainSection.lines) :
    ∃ o, (∀ walk, ofFile path (.bytes (Utf8.encode (fileText mark lines))) walk = .ok o)
      ∧ (∀ group key value, o.get? group key = some value
        ↔ ∃ s ∈ sections, Alike s.name.text group
          ∧ ∃ before a after, s.settings = before ++ a :: after ∧ Alike a.1.text key
            ∧ a.2.text = value ∧ ∀ later ∈ after, ¬Alike later.1.text key)
      ∧ ∀ group key, o.get? group key = none
        ↔ ∀ s ∈ sections, Alike s.name.text group → ∀ a ∈ s.settings, ¬Alike a.1.text key := by
  refine ⟨_, fun walk => ?_, fun group key value => get?_ofEntries_assignments_iff hnames {},
    fun group key => ?_⟩
  · rw [ofFile, Utf8.decode?_encode]
    show (ofText (fileText mark lines) walk).mapError _ = _
    rw [ofText, read_plain mark hlines]
    have hgroups : ∀ g ∈ sections.map PlainSection.group, Path.IsSimple g.name :=
      isSimple_of_mem_groups
    exact congrArg Except.ok ((consistent_assignments hnames walk).ofEntries_assignments_eq
      (isSimple_of_mem_bindings hgroups) {})
  · rw [Option.eq_none_iff_forall_ne_some]
    constructor
    · intro hnone s hs halike a ha hkey
      have hassigned : ∃ a ∈ s.settings, Alike a.1.text key := ⟨a, ha, hkey⟩
      obtain ⟨value, hassigns⟩ : ∃ value, s.Assigns key value := exists_lastValue _ hassigned
      exact hnone value ((get?_ofEntries_assignments_iff hnames {}).mpr ⟨s, hs, halike, hassigns⟩)
    · intro hnone value hsome
      obtain ⟨s, hs, halike, hassigns⟩ := (get?_ofEntries_assignments_iff hnames {}).mp hsome
      obtain ⟨a, ha, hkey, -⟩ := LastValue.exists_mem hassigns
      exact hnone s hs halike a ha hkey

/-- Two sections, of which one assigns a key twice. -/
def sampleSections : List PlainSection :=
  [⟨⟨"AccountManager", by decide⟩, [(⟨"Disable", by decide⟩, ⟨"true", by decide⟩)], by decide⟩,
    ⟨⟨"wsfc", by decide⟩, [(⟨"port", by decide⟩, ⟨"59999", by decide⟩),
      (⟨"addresses", by decide⟩, ⟨"10.0.0.7,10.0.0.8", by decide⟩),
      (⟨"port", by decide⟩, ⟨"59998", by decide⟩)], by decide⟩]

/-- The lines of a file with these sections. -/
def sampleLines : List Line :=
  [.blank "" (by decide), .comment ';' " [wsfc] is below" (by decide),
    .header ⟨"AccountManager", by decide⟩,
    .assignment ⟨"Disable", by decide⟩ ⟨"true", by decide⟩, .blank "  \t" (by decide),
    .header ⟨"wsfc", by decide⟩, .comment '#' "port = 1" (by decide),
    .assignment ⟨"port", by decide⟩ ⟨"59999", by decide⟩,
    .assignment ⟨"addresses", by decide⟩ ⟨"10.0.0.7,10.0.0.8", by decide⟩,
    .assignment ⟨"port", by decide⟩ ⟨"59998", by decide⟩, .blank "" (by decide)]

theorem get?_ofFile_of_sampleLines :
    ∃ o, (∀ walk, ofFile "instance_configs.cfg"
        (.bytes (Utf8.encode (fileText .crlf sampleLines))) walk = .ok o)
      ∧ o.get? "accountManager" "disable" = some "true" ∧ o.get? "WSFC" "Port" = some "59998"
      ∧ o.get? "wsfc" "disable" = none := by
  obtain ⟨o, hread, hsome, hnone⟩ := get?_ofFile_of_plain "instance_configs.cfg" .crlf
    sampleSections sampleLines (by decide) rfl
  refine ⟨o, hread, (hsome _ _ _).mpr ?_, (hsome _ _ _).mpr ?_, (hnone _ _).mpr (by decide)⟩
  · exact ⟨_, List.mem_cons_self, by decide, [], _, [], rfl, by decide, rfl, by decide⟩
  · exact ⟨_, List.mem_cons_of_mem _ List.mem_cons_self, by decide, [_, _], _, [], rfl, by decide,
      rfl, by decide⟩

end HostAgent.Overrides
