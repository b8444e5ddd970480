import HostAgent.Proofs.Json.Record

set_option autoImplicit false

/-! # JSON on one line

Whatever a text holds, it can be written, and that without a line break: any character has an escape
of hexadecimal digits. So lists, dictionaries and records can be written on one line if their parts
can.
-/

namespace HostAgent.Json

universe u v

variable {α : Type} {Spells : α → List Char → Prop}

/-- There is a way to write `a` without a line break. -/
def OnOneLine (Spells : α → List Char → Prop) (a : α) : Prop :=
  ∃ t, Spells a t ∧ '\n' ∉ t

/-! ## Texts and numbers -/

theorem isHexDigit_digitChar {n : Nat} (h : n < 16) :
    IsHexDigit (Nat.digitChar n) n ∧ Nat.digitChar n ≠ '\n' := by
  have hall : ∀ k : Fin 16, Nat.digitChar k ≠ '\n' := by decide
  exact ⟨⟨h, .inl rfl⟩, hall ⟨n, h⟩⟩

theorem exists_hexQuad {n : Nat} (h : n < 0x10000) :
    ∃ digits, HexQuad digits n ∧ '\n' ∉ digits := by
  have hdigit (m : Nat) := isHexDigit_digitChar (Nat.mod_lt m (by decide : 0 < 16))
  have hvalue : ((n / 4096 % 16 * 16 + n / 256 % 16) * 16 + n / 16 % 16) * 16 + n % 16 = n := by
    omega
  have hquad := HexQuad.mk (hdigit (n / 4096)).1 (hdigit (n / 256)).1 (hdigit (n / 16)).1
    (hdigit n).1
  rw [hvalue] at hquad
  exact ⟨_, hquad, by simp [(hdigit _).2.symm]⟩

/-- Every character has an escape. -/
theorem onOneLine_char (c : Char) : OnOneLine SpellsChar c := by
  obtain ⟨hbound, -⟩ := toNat_bounds c
  by_cases hunit : c.toNat < 0x10000
  · obtain ⟨digits, hdigits, hbreak⟩ := exists_hexQuad hunit
    exact ⟨_, .unit hdigits, by simp [hbreak]⟩
  · have hcode : c.toNat = 0x10000 + (c.toNat - 0x10000) / 0x400 * 0x400
        + (c.toNat - 0x10000) % 0x400 := by omega
    obtain ⟨high, hhigh, hbreak⟩ :=
      exists_hexQuad (show 0xD800 + (c.toNat - 0x10000) / 0x400 < 0x10000 by omega)
    obtain ⟨low, hlow, hbreak'⟩ :=
      exists_hexQuad (show 0xDC00 + (c.toNat - 0x10000) % 0x400 < 0x10000 by omega)
    exact ⟨_, .pair (Nat.mod_lt _ (by decide)) hcode hhigh hlow, by simp [hbreak, hbreak']⟩

/-- What can be found for each can be found for all. -/
theorem exists_forall₂ {γ : Type u} {β : Type v} {R : γ → β → Prop} {P : β → Prop} {cs : List γ}
    (h : ∀ c ∈ cs, ∃ b, R c b ∧ P b) : ∃ bs, List.Forall₂ R cs bs ∧ ∀ b ∈ bs, P b := by
  induction cs with
  | nil => exact ⟨[], .nil, nofun⟩
  | cons c cs ih =>
      obtain ⟨⟨b, hb, hP⟩, hcs⟩ := List.forall_mem_cons.mp h
      obtain ⟨bs, hbs, hall⟩ := ih hcs
      exact ⟨b :: bs, .cons hb hbs, List.forall_mem_cons.mpr ⟨hP, hall⟩⟩

theorem onOneLine_text (s : String) : OnOneLine SpellsText s := by
  obtain ⟨parts, hparts, hbreaks⟩ := exists_forall₂ fun c (_ : c ∈ s.toList) => onOneLine_char c
  refine ⟨_, ⟨parts, hparts, rfl⟩, ?_⟩
  simpa using fun part hpart => hbreaks part hpart

theorem onOneLine_option (s : Option String) : OnOneLine SpellsOption s := by
  cases s with
  | none => exact ⟨_, rfl, by decide⟩
  | some s => exact onOneLine_text s

theorem isDigit_digitChar {n : Nat} (h : n < 10) :
    (Nat.digitChar n).isDigit = true ∧ (n ≠ 0 → Nat.digitChar n ≠ '0') := by
  have hall : ∀ k : Fin 10, (Nat.digitChar k).isDigit = true ∧ (k ≠ 0 → Nat.digitChar k ≠ '0') := by
    decide
  exact ⟨(hall ⟨n, h⟩).1, fun hne => (hall ⟨n, h⟩).2 (by simpa [Fin.ext_iff] using hne)⟩

/-- The digits of a number do not begin with a zero that is not needed. -/
theorem wholeText_toDigits (n : Nat) : WholeText (Nat.toDigits 10 n) := by
  induction n using Nat.strongRecOn with
  | ind n ih =>
      rw [Nat.toDigits_eq_if (by decide)]
      split
      · next hlt =>
        obtain rfl | hne := Nat.eq_zero_or_pos n
        · exact .zero
        · exact .other (isDigit_digitChar hlt).1 ((isDigit_digitChar hlt).2 hne.ne') nofun
      · next hge =>
        have hlast : (Nat.digitChar (n % 10)).isDigit = true :=
          (isDigit_digitChar (Nat.mod_lt n (by decide))).1
        have hmore : Nat.toDigits 10 (n / 10) ≠ ['0'] := by
          intro hzero
          have hvalue := Nat.ofDigitChars_ten_toDigits (n := n / 10)
          rw [hzero, show Nat.ofDigitChars 10 ['0'] 0 = 0 by decide] at hvalue
          omega
        -- one digit more than a number that is not zero, so the first digit stays
        have hfront := ih (n / 10) (by omega)
        generalize Nat.toDigits 10 (n / 10) = digits at hmore hfront
        cases hfront with
        | zero => exact absurd rfl hmore
        | other hd hne hdigits =>
            refine .other hd hne fun c hc => ?_
            rcases List.mem_append.mp hc with hc | hc
            · exact hdigits c hc
            · exact List.mem_singleton.mp hc ▸ hlast

theorem WholeText.isDigit {t : List Char} (h : WholeText t) : ∀ c ∈ t, c.isDigit = true := by
  cases h with
  | zero => exact List.forall_mem_singleton.mpr rfl
  | other hd _ hdigits => exact List.forall_mem_cons.mpr ⟨hd, hdigits⟩

theorem onOneLine_word64 {n : Nat} (h : n < 2 ^ 64) : OnOneLine SpellsWord64 n := by
  refine ⟨_, ⟨h, wholeText_toDigits n, Nat.ofDigitChars_ten_toDigits⟩, fun hbreak => ?_⟩
  nomatch (wholeText_toDigits n).isDigit '\n' hbreak

/-! ## Lists, dictionaries and records -/

theorem not_mem_intercalate {c : Char} (hcomma : c ≠ ',') {items : List (List Char)}
    (h : ∀ item ∈ items, c ∉ item) : c ∉ [','].intercalate items := by
  induction items with
  | nil => exact List.not_mem_nil
  | cons item items ih =>
      obtain ⟨hitem, hitems⟩ := List.forall_mem_cons.mp h
      cases items with
      | nil => simpa using hitem
      | cons next items =>
          rw [List.intercalate_cons_of_ne_nil (List.cons_ne_nil next items)]
          simp [hitem, hcomma, ih hitems]

/-- Any items without line breaks can be put between brackets without line breaks. -/
theorem exists_enclosed (opening closing : Char) (hopening : opening ≠ '\n')
    (hclosing : closing ≠ '\n') {items : List (List Char)} (h : ∀ item ∈ items, '\n' ∉ item) :
    ∃ t, Enclosed opening closing items t ∧ '\n' ∉ t := by
  have hbreak := not_mem_intercalate (by decide) h
  exact ⟨_, .intercalate opening closing items, by simp [hopening.symm, hclosing.symm, hbreak]⟩

theorem onOneLine_list {as : List α} (h : ∀ a ∈ as, OnOneLine Spells a) :
    OnOneLine (SpellsList Spells) as := by
  obtain ⟨items, hitems, hbreaks⟩ := exists_forall₂ h
  obtain ⟨t, ht, hbreak⟩ := exists_enclosed '[' ']' (by decide) (by decide) hbreaks
  exact ⟨t, ⟨items, hitems, ht⟩, hbreak⟩

/-- Any members make up an object. -/
theorem exists_namedObject {members : List (String × List Char)}
    (h : ∀ m ∈ members, '\n' ∉ m.2) : ∃ t, NamedObject members t ∧ '\n' ∉ t := by
  have hmember : ∀ m ∈ members, OnOneLine NamedMember m := by
    intro m hm
    obtain ⟨key, hkey, hbreak⟩ := onOneLine_text m.1
    exact ⟨_, ⟨key, hkey, [], [], .nil, .nil, rfl⟩, by simp [hbreak, h m hm]⟩
  obtain ⟨items, hitems, hbreaks⟩ := exists_forall₂ hmember
  obtain ⟨t, ht, hbreak⟩ := exists_enclosed '\x7b' '\x7d' (by decide) (by decide) hbreaks
  exact ⟨t, ⟨items, hitems, ht⟩, hbreak⟩

theorem onOneLine_dict {d : Dict α} (h : ∀ e ∈ d.entries, OnOneLine Spells e.2) :
    OnOneLine (SpellsDict Spells) d := by
  have hmember : ∀ e ∈ d.entries, ∃ m : String × List Char,
      (m.1 = e.1 ∧ Spells e.2 m.2) ∧ '\n' ∉ m.2 := by
    intro e he
    obtain ⟨t, ht, hbreak⟩ := h e he
    exact ⟨(e.1, t), ⟨rfl, ht⟩, hbreak⟩
  obtain ⟨members, hmembers, hbreaks⟩ := exists_forall₂ hmember
  obtain ⟨t, ht, hbreak⟩ := exists_namedObject hbreaks
  exact ⟨t, ⟨d.entries, members, .refl _, hmembers, ht⟩, hbreak⟩

/-- Members for all fields of a record make any other record into it. -/
theorem describes_of_forall₂ {σ : Type} {slots : List (Slot σ)} {s : σ}
    {members : List (String × List Char)} (hnames : (slots.map (·.name)).Nodup)
    (h : List.Forall₂ (fun slot m => m.1 = slot.name ∧ slot.Spells (slot.part s) m.2) slots members)
    (v : σ) : Describes slots v s members ∧ Complete slots members := by
  have hslot : ∀ slot ∈ slots, ∃ m ∈ members, m.1 = slot.name := by
    intro slot hslot
    obtain ⟨m, hm, hname, -⟩ := exists_of_mem_forall₂ h.flip slot hslot
    exact ⟨m, hm, hname⟩
  have hmembers : members.map (·.1) = slots.map (·.name) := by
    have hall : List.Forall₂ (fun m slot => m.1 = slot.name) members slots :=
      h.flip.imp fun _ _ h => h.1
    exact List.forall₂_eq_eq_eq ▸
      List.forall₂_map_left_iff.mpr (List.forall₂_map_right_iff.mpr hall)
  refine ⟨⟨fun slot hslot m hm hname => ?_, fun slot hslot' hnone => ?_, ?_, fun m hm hother => ?_⟩,
    fun slot hslot' _ => hslot slot hslot'⟩
  · obtain ⟨other, hother, hname', hspells⟩ := exists_of_mem_forall₂ h m hm
    obtain rfl := List.inj_on_of_nodup_map hnames hother hslot (hname'.symm.trans hname)
    exact hspells
  · obtain ⟨m, hm, hname⟩ := hslot slot hslot'
    exact absurd hname (hnone m hm)
  · have hdistinct : members.Pairwise fun m m' => m.1 ≠ m'.1 :=
      List.pairwise_map.mp (hmembers ▸ hnames)
    exact hdistinct.imp fun hne heq => absurd heq hne
  · obtain ⟨slot, hslot, hname, -⟩ := exists_of_mem_forall₂ h m hm
    exact absurd hname.symm (hother slot hslot)

theorem onOneLine_record {σ : Type} {slots : List (Slot σ)} (hnames : (slots.map (·.name)).Nodup)
    (blank : σ) {s : σ} (h : ∀ slot ∈ slots, OnOneLine slot.Spells (slot.part s)) :
    OnOneLine (SpellsRecord slots blank) s := by
  have hmember : ∀ slot ∈ slots, ∃ m : String × List Char,
      (m.1 = slot.name ∧ slot.Spells (slot.part s) m.2) ∧ '\n' ∉ m.2 := by
    intro slot hslot
    obtain ⟨t, ht, hbreak⟩ := h slot hslot
    exact ⟨(slot.name, t), ⟨rfl, ht⟩, hbreak⟩
  obtain ⟨members, hmembers, hbreaks⟩ := exists_forall₂ hmember
  obtain ⟨hdescribes, hcomplete⟩ := describes_of_forall₂ hnames hmembers blank
  obtain ⟨t, ht, hbreak⟩ := exists_namedObject hbreaks
  exact ⟨t, ⟨members, hdescribes, hcomplete, ht⟩, hbreak⟩

end HostAgent.Json
