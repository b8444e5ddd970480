import HostAgent.Proofs.Json.OneLine
import HostAgent.Proofs.Text.Utf8
import HostAgent.Snapshot.Decode

set_option autoImplicit false

/-! # Snapshots as they are published

A snapshot is published as a JSON text. The members of its records may come in any order, among
others that the agent does not know, and those with nothing to tell may be left out
(`Snapshot.PublishedAs`). Every snapshot can be published (`Snapshot.exists_publishedAs`), and from
whatever text publishes it it is recovered as it is (`Snapshot.recovers_published`).

The four records are those of the module on decoding, so all that is to be shown of each is that its
fields are the members named here, that no field touches the part of another one, and that a record
is made up of its parts.
-/

namespace HostAgent

open Json (Slot SpellsText SpellsList SpellsDict SpellsWord64 SpellsRecord Padded NamedObject
  ValueText OnOneLine)

/-! ## The members of the records -/

/-- The members of a network interface. -/
def Interface.slots : List (Slot Interface) := [
  ⟨"mac", false, (·.mac), SpellsText⟩,
  ⟨"forwardedIps", false, (·.forwardedIps), SpellsList SpellsText⟩,
  ⟨"targetInstanceIps", false, (·.targetInstanceIps), SpellsList SpellsText⟩,
  ⟨"ipAliases", false, (·.ipAliases), SpellsList SpellsText⟩]

/-- The members of the machine. -/
def Machine.slots : List (Slot Machine) := [
  ⟨"id", false, (·.id), SpellsWord64⟩,
  ⟨"hostname", false, (·.hostname), SpellsText⟩,
  ⟨"attributes", false, (·.attributes), SpellsDict SpellsText⟩,
  ⟨"networkInterfaces", false, (·.interfaces), SpellsList (SpellsRecord Interface.slots {})⟩]

/-- The members of the project. -/
def Project.slots : List (Slot Project) := [
  ⟨"projectId", false, (·.projectId), SpellsText⟩,
  ⟨"attributes", false, (·.attributes), SpellsDict SpellsText⟩]

/-- The members of a snapshot. -/
def Snapshot.slots : List (Slot Snapshot) := [
  ⟨"instance", false, (·.machine), SpellsRecord Machine.slots {}⟩,
  ⟨"project", false, (·.project), SpellsRecord Project.slots {}⟩]

/-- A text that publishes a snapshot. -/
def Snapshot.PublishedAs (s : Snapshot) (text : String) : Prop :=
  ∃ v, SpellsRecord slots empty s v ∧ Padded v text.toList

/-! ## Reading them back -/

theorem Interface.fits : Interface.record.Fits Interface.slots where
  fields := by
    refine .cons (.stored Json.recovers_text (fun _ _ => rfl) ?_) <|
      .cons (.stored Json.recovers_text.list (fun _ _ => rfl) ?_) <|
      .cons (.stored Json.recovers_text.list (fun _ _ => rfl) ?_) <|
      .cons (.stored Json.recovers_text.list (fun _ _ => rfl) ?_) .nil
    all_goals simp [slots]
  names := by decide
  ext v s h := by
    simp only [slots, List.forall_mem_cons] at h
    obtain ⟨hmac, hforwarded, htarget, haliases, -⟩ := h
    cases v
    cases s
    simp_all

theorem Machine.fits : Machine.record.Fits Machine.slots where
  fields := by
    refine .cons (.stored Json.recovers_word64 (fun _ _ => rfl) ?_) <|
      .cons (.stored Json.recovers_text (fun _ _ => rfl) ?_) <|
      .cons (.stored Json.recovers_text.dict (fun _ _ => rfl) ?_) <|
      .cons (.stored Interface.fits.recovers.list (fun _ _ => rfl) ?_) .nil
    all_goals simp [slots]
  names := by decide
  ext v s h := by
    simp only [slots, List.forall_mem_cons] at h
    obtain ⟨hid, hhostname, hattributes, hinterfaces, -⟩ := h
    cases v
    cases s
    simp_all

theorem Project.fits : Project.record.Fits Project.slots where
  fields := by
    refine .cons (.stored Json.recovers_text (fun _ _ => rfl) ?_) <|
      .cons (.stored Json.recovers_text.dict (fun _ _ => rfl) ?_) .nil
    all_goals simp [slots]
  names := by decide
  ext v s h := by
    simp only [slots, List.forall_mem_cons] at h
    obtain ⟨hid, hattributes, -⟩ := h
    cases v
    cases s
    simp_all

theorem Snapshot.fits : Snapshot.record.Fits Snapshot.slots where
  fields := by
    refine .cons (.stored Machine.fits.recovers (fun _ _ => rfl) ?_) <|
      .cons (.stored Project.fits.recovers (fun _ _ => rfl) ?_) .nil
    all_goals simp [slots]
  names := by decide
  ext v s h := by
    simp only [slots, List.forall_mem_cons] at h
    obtain ⟨hmachine, hproject, -⟩ := h
    cases v
    cases s
    simp_all

/-! ## Every snapshot can be published -/

theorem Interface.onOneLine (nic : Interface) : OnOneLine (SpellsRecord slots {}) nic := by
  have htexts (as : List String) := Json.onOneLine_list fun a (_ : a ∈ as) => Json.onOneLine_text a
  refine Json.onOneLine_record fits.names _ ?_
  simp only [slots, List.forall_mem_cons]
  exact ⟨Json.onOneLine_text _, htexts _, htexts _, htexts _, nofun⟩

theorem Machine.onOneLine {m : Machine} (h : m.id < 2 ^ 64) :
    OnOneLine (SpellsRecord slots {}) m := by
  have hnics := Json.onOneLine_list fun nic (_ : nic ∈ m.interfaces) => nic.onOneLine
  refine Json.onOneLine_record fits.names _ ?_
  simp only [slots, List.forall_mem_cons]
  exact ⟨Json.onOneLine_word64 h, Json.onOneLine_text _,
    Json.onOneLine_dict fun e _ => Json.onOneLine_text e.2, hnics, nofun⟩

theorem Project.onOneLine (p : Project) : OnOneLine (SpellsRecord slots {}) p := by
  refine Json.onOneLine_record fits.names _ ?_
  simp only [slots, List.forall_mem_cons]
  exact ⟨Json.onOneLine_text _, Json.onOneLine_dict fun e _ => Json.onOneLine_text e.2, nofun⟩

/-- A snapshot whose machine has a number of 64 bits can be published. -/
theorem Snapshot.exists_publishedAs {s : Snapshot} (h : s.machine.id < 2 ^ 64) :
    ∃ text, s.PublishedAs text := by
  have hslots : ∀ slot ∈ slots, OnOneLine slot.Spells (slot.part s) := by
    simp only [slots, List.forall_mem_cons]
    exact ⟨Machine.onOneLine h, s.project.onOneLine, nofun⟩
  obtain ⟨v, hv, -⟩ := Json.onOneLine_record fits.names empty hslots
  refine ⟨String.ofList v, v, hv, ?_⟩
  rw [String.toList_ofList]
  exact .self v

/-! ## Published snapshots are recovered -/

/-- An object of members that are no fields publishes the empty snapshot. -/
theorem Snapshot.empty_publishedAs {text : String} {v : List Char}
    {members : List (String × List Char)} (hv : NamedObject members v)
    (htext : Padded v text.toList)
    (hmembers : ∀ m ∈ members, m.1 ≠ "instance" ∧ m.1 ≠ "project" ∧ ValueText m.2) :
    empty.PublishedAs text := by
  have hname : ∀ slot ∈ slots, slot.name = "instance" ∨ slot.name = "project" := by
    simp [slots]
  have hother : ∀ slot ∈ slots, ∀ m ∈ members, m.1 ≠ slot.name := by
    intro slot hslot m hm heq
    obtain ⟨hmachine, hproject, -⟩ := hmembers m hm
    rcases hname slot hslot with h | h
    · exact hmachine (heq.trans h)
    · exact hproject (heq.trans h)
  refine ⟨v, ⟨members, ⟨?_, fun _ _ _ => rfl, ?_, ?_⟩, ?_, hv⟩, htext⟩
  · exact fun slot hslot m hm heq => absurd heq (hother slot hslot m hm)
  · exact List.pairwise_of_forall_mem_list fun m hm m' _ _ slot hslot =>
      (hother slot hslot m hm).symm
  · exact fun m hm _ => (hmembers m hm).2.2
  · intro slot hslot hrequired
    have hoptional : ∀ slot ∈ slots, slot.required = false := by simp [slots]
    rw [hoptional slot hslot] at hrequired
    cases hrequired

theorem Snapshot.decode_of_publishedAs {s : Snapshot} {text : String} (h : s.PublishedAs text) :
    decode text = .ok s := by
  obtain ⟨v, hv, htext⟩ := h
  exact fits.recovers.decode hv htext

theorem Snapshot.parseBytes_of_publishedAs {s : Snapshot} {text : String}
    (h : s.PublishedAs text) : parseBytes (Utf8.encode text) = .ok s := by
  rw [parseBytes, Utf8.decode?_encode]
  simp only [parse, decode_of_publishedAs h, Except.mapError]

/-- **A snapshot is recovered from every text that publishes it**, both from the text and from the
bytes of a response, and there is such a text if the number of its machine has 64 bits. An object of
members that are no fields is the empty snapshot. -/
theorem Snapshot.recovers_published :
    (∀ s : Snapshot, s.machine.id < 2 ^ 64 → ∃ text, s.PublishedAs text)
    ∧ (∀ (s : Snapshot) (text : String), s.PublishedAs text →
      decode text = .ok s ∧ parseBytes (Utf8.encode text) = .ok s)
    ∧ ∀ (text : String) (v : List Char) (members : List (String × List Char)),
      NamedObject members v → Padded v text.toList →
      (∀ m ∈ members, m.1 ≠ "instance" ∧ m.1 ≠ "project" ∧ ValueText m.2) →
      decode text = .ok empty := by
  refine ⟨fun s => exists_publishedAs,
    fun s text h => ⟨decode_of_publishedAs h, parseBytes_of_publishedAs h⟩,
    fun text v members hv htext hmembers => ?_⟩
  exact decode_of_publishedAs (empty_publishedAs hv htext hmembers)

/-- A snapshot is recovered from among members that are no fields, one of which holds half a
character. -/
theorem Snapshot.recovers_published_among_others :
    let text := " \x7b\"zone\":[\"\\ud800\",1e400],\"instance\":"
      ++ "\x7b\"hostname\":\"\\u0041\",\"id\":18446744073709551615\x7d\x7d"
    let s : Snapshot := { machine := { id := 18446744073709551615, hostname := "A" } }
    s.PublishedAs text ∧ decode text = .ok s ∧ decode "\x7b\"zone\":[1e400]\x7d" = .ok empty := by
  intro text s
  have hname : SpellsText "A" "\"\\u0041\"".toList :=
    ⟨[_], .cons (.unit (.mk (k := 0) (l := 0) (m := 4) (n := 1) ⟨by decide, .inl rfl⟩
      ⟨by decide, .inl rfl⟩ ⟨by decide, .inl rfl⟩ ⟨by decide, .inl rfl⟩)) .nil, rfl⟩
  have hid : SpellsWord64 18446744073709551615 "18446744073709551615".toList :=
    ⟨by decide, .other rfl (by decide) (List.all_eq_true.mp (by decide)), by decide +kernel⟩
  have hmachine : SpellsRecord Machine.slots {} s.machine
      "\x7b\"hostname\":\"\\u0041\",\"id\":18446744073709551615\x7d".toList := by
    refine ⟨[("hostname", "\"\\u0041\"".toList), ("id", "18446744073709551615".toList)],
      ⟨?_, ?_, ?_, ?_⟩, ?_, .of_plain _ (by decide)⟩
    all_goals simp [Json.Complete, Machine.slots, s]
    exact ⟨hid, hname⟩
  have hnumber : ValueText "1e400".toList :=
    .number ⟨[], ['1'], [], ['e', '4', '0', '0'], .inl rfl, .other rfl (by decide) nofun, .none,
      .some (.inl rfl) (.inl rfl) rfl (List.all_eq_true.mp (by decide)), rfl⟩
  have hhalf : ValueText "\"\\ud800\"".toList :=
    .text ⟨[_], List.forall_mem_singleton.mpr (.unit (.mk (k := 13) (l := 8) (m := 0) (n := 0)
      ⟨by decide, .inl rfl⟩ ⟨by decide, .inl rfl⟩ ⟨by decide, .inl rfl⟩ ⟨by decide, .inl rfl⟩)),
      rfl⟩
  have hzone : ValueText "[\"\\ud800\",1e400]".toList :=
    .list (.intercalate _ _ ["\"\\ud800\"".toList, "1e400".toList])
      (List.forall_mem_cons.mpr ⟨hhalf, List.forall_mem_singleton.mpr hnumber⟩)
  have hs : s.PublishedAs text := by
    refine ⟨_, ⟨[("zone", "[\"\\ud800\",1e400]".toList),
      ("instance", "\x7b\"hostname\":\"\\u0041\",\"id\":18446744073709551615\x7d".toList)],
      ⟨?_, ?_, ?_, ?_⟩, ?_, .of_plain _ (by decide)⟩, [' '], [], by simp [Json.Blanks], .nil,
      by simp [text]⟩
    all_goals simp [Json.Complete, slots, s, empty]
    · exact hmachine
    · exact hzone
  refine ⟨hs, (recovers_published.2.1 s text hs).1, ?_⟩
  have hlist : ValueText "[1e400]".toList :=
    .list (.intercalate _ _ ["1e400".toList]) (List.forall_mem_singleton.mpr hnumber)
  exact recovers_published.2.2 _ _ [("zone", "[1e400]".toList)] (.of_plain _ (by decide)) (.self _)
    (List.forall_mem_singleton.mpr ⟨by decide, by decide, hlist⟩)

end HostAgent
