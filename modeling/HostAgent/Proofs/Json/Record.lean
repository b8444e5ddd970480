import HostAgent.Json.Decode
import HostAgent.Proofs.Dict
import HostAgent.Proofs.Json.Value

set_option autoImplicit false

/-! # JSON records as they are written

For each kind of data the ways in which it is written are given as a relation between values and
texts, and a reader *recovers* the data if it reads every such text back and leaves what stands
behind it (`Recovers`). Lists, dictionaries and records are recovered if their parts are.

A record is written as an object, with its members in any order. A member that is no field may have
any value, and a field may be left out if it is not required and has the value of the blank record
(`Describes`). The reader goes through the members and stores one field after another; at each
moment the record that it holds has the fields seen so far from the record that was written, and the
others from the blank one (`Record.members_of_remaining`).
-/

namespace HostAgent.Json

/-! ## Data as it is written -/

/-- A text, or null for none. -/
def SpellsOption : Option String → List Char → Prop
  | none, t => t = "null".toList
  | some s, t => SpellsText s t

/-- A list whose items are written as `Spells` says. -/
def SpellsList {α : Type} (Spells : α → List Char → Prop) (as : List α) (t : List Char) : Prop :=
  ∃ items, List.Forall₂ Spells as items ∧ ListText items t

/-- A member of the given name. -/
def NamedMember (member : String × List Char) (item : List Char) : Prop :=
  ∃ key, SpellsText member.1 key ∧ MemberText key member.2 item

/-- An object with the given names and values of its members. -/
def NamedObject (members : List (String × List Char)) (t : List Char) : Prop :=
  ∃ items, List.Forall₂ NamedMember members items ∧ Enclosed '\x7b' '\x7d' items t

/-- Members with plain names make up an object, with nothing in it that is not needed. -/
theorem NamedObject.of_plain (members : List (String × List Char))
    (h : ∀ m ∈ members, isPlainText m.1 = true) :
    NamedObject members ('\x7b' :: ([','].intercalate (members.map fun m =>
      '"' :: (m.1.toList ++ ['"']) ++ ':' :: m.2) ++ ['\x7d'])) := by
  refine ⟨_, List.forall₂_map_right_iff.mpr ?_, .intercalate _ _ _⟩
  exact List.forall₂_same.mpr fun m hm =>
    ⟨_, spellsText_of_plain (h m hm), [], [], .nil, .nil, rfl⟩

/-- A dictionary whose values are written as `Spells` says; its entries come in any order. -/
def SpellsDict {α : Type} (Spells : α → List Char → Prop) (d : Dict α) (t : List Char) : Prop :=
  ∃ entries members, entries.Perm d.entries
    ∧ List.Forall₂ (fun e m => m.1 = e.1 ∧ Spells e.2 m.2) entries members ∧ NamedObject members t

/-- A field of a record as it is written: its name, whether it has to be there, the part of the
record that it holds, and how that is written. -/
structure Slot (σ : Type) where
  name : String
  required : Bool
  {Part : Type}
  part : σ → Part
  Spells : Part → List Char → Prop

section

variable {σ : Type}

/-- Members that make the record `v` into `s`. -/
structure Describes (slots : List (Slot σ)) (v s : σ) (members : List (String × List Char)) :
    Prop where
  /-- Members that are fields are written as the fields of `s` are. -/
  fields : ∀ slot ∈ slots, ∀ m ∈ members, m.1 = slot.name → slot.Spells (slot.part s) m.2
  /-- Fields without a member are those of `v`. -/
  omitted : ∀ slot ∈ slots, (∀ m ∈ members, m.1 ≠ slot.name) → slot.part s = slot.part v
  /-- No field has two members. -/
  once : members.Pairwise fun m m' => m.1 = m'.1 → ∀ slot ∈ slots, slot.name ≠ m.1
  /-- Members that are no fields have any value. -/
  others : ∀ m ∈ members, (∀ slot ∈ slots, slot.name ≠ m.1) → ValueText m.2

/-- The fields that have to be there are there. -/
def Complete (slots : List (Slot σ)) (members : List (String × List Char)) : Prop :=
  ∀ slot ∈ slots, slot.required = true → ∃ m ∈ members, m.1 = slot.name

/-- A record: an object whose members make the blank record into it. -/
def SpellsRecord (slots : List (Slot σ)) (blank s : σ) (t : List Char) : Prop :=
  ∃ members, Describes slots blank s members ∧ Complete slots members ∧ NamedObject members t

end

/-! ## Readers that recover data -/

/-- A reader that reads back what is written as `Spells` says. -/
structure Recovers {α : Type} (item : Reader α) (Spells : α → List Char → Prop) : Prop where
  starts : ∀ {a : α} {v : List Char}, Spells a v → Starts v
  reads : ∀ {a : α} {front v rest : List Char}, Blanks front → Spells a v → Follow rest →
    item (front ++ (v ++ rest)) = .ok (a, rest)

theorem recovers_text : Recovers text SpellsText where
  starts := SpellsText.starts
  reads := by
    intro s front v rest hfront h _
    obtain ⟨parts, hparts, rfl⟩ := h
    have hspace : skipSpace (front ++ ('"' :: (parts.flatten ++ ['"']) ++ rest))
        = '"' :: (parts.flatten ++ '"' :: rest) := by
      rw [skipSpace_append hfront, List.cons_append, List.append_assoc]
      rfl
    rw [text, hspace]
    simp only [readTextBody_of_spelled hparts, ok_bind, String.ofList_toList]
    rfl

theorem recovers_optionalText : Recovers optionalText SpellsOption where
  starts := by
    intro a v h
    cases a with
    | none => exact h ▸ .cons (by decide)
    | some s => exact SpellsText.starts h
  reads := by
    intro a front v rest hfront h hrest
    cases a with
    | none =>
        obtain rfl : v = "null".toList := h
        have hspace : skipSpace (front ++ ("null".toList ++ rest))
            = 'n' :: (['u', 'l', 'l'] ++ rest) := by
          rw [skipSpace_append hfront]
          rfl
        rw [optionalText, hspace]
        simp only [readName_append, ok_bind]
        rfl
    | some s =>
        have hread : text (v ++ rest) = .ok (s, rest) := recovers_text.reads .nil h hrest
        have hspace : skipSpace (front ++ (v ++ rest)) = v ++ rest := by
          rw [skipSpace_append hfront, (SpellsText.starts h).skipSpace_eq]
        obtain ⟨parts, -, rfl⟩ := h
        rw [optionalText, hspace]
        show text ('"' :: (parts.flatten ++ ['"']) ++ rest) >>= (fun r => pure (some r.1, r.2)) = _
        rw [hread]
        rfl

theorem recovers_word64 : Recovers word64 SpellsWord64 where
  starts := SpellsWord64.starts
  reads := by
    intro n front v rest hfront h hrest
    have hread := readNumber_of_natural h hrest
    obtain ⟨d, digits, rfl, hd⟩ := h.2.1.exists_digit
    have hspace : skipSpace (front ++ (d :: digits ++ rest)) = d :: (digits ++ rest) := by
      rw [skipSpace_append hfront, h.starts.skipSpace_eq, List.cons_append]
    have hminus : d ≠ '-' := by
      rintro rfl
      cases hd
    rw [word64, hspace]
    split
    · next heq => cases heq
    · next heq => exact absurd (List.cons.inj heq).1 hminus
    · next heq =>
      obtain ⟨rfl, rfl⟩ := List.cons.inj heq
      rw [isDigit_eq, if_pos hd, ← List.cons_append]
      simp only [hread]
      rfl

/-! ## Lists -/

section

variable {α : Type} {item : Reader α} {Spells : α → List Char → Prop}

theorem nextElement_of_remaining_nil {rest cs : List Char} {first : Bool}
    (h : Remaining ']' rest first [] cs) : nextElement first cs = .ok (false, rest) := by
  obtain ⟨hback⟩ := h
  rw [nextElement, skipSpace_append hback]
  rfl

/-- The next item is found, behind a comma unless it is the first one. -/
theorem nextElement_of_remaining_cons {rest cs next : List Char} {first : Bool}
    {items : List (List Char)} (h : Remaining ']' rest first (next :: items) cs)
    (hnext : Starts next) : ∃ left, nextElement first cs = .ok (true, next ++ left)
      ∧ Remaining ']' rest false items left := by
  obtain @⟨c, others, hc⟩ := hnext
  have hspace {front : List Char} (hfront : Blanks front) (left : List Char) :
      skipSpace (front ++ (c :: others ++ left)) = c :: (others ++ left) := by
    rw [skipSpace_append hfront, List.cons_append, skipSpace_cons (isSpace_eq_false_of_not_mem hc)]
  have hbracket : c ≠ ']' := by
    rintro rfl
    exact hc (by decide)
  have hcomma : c ≠ ',' := by
    rintro rfl
    exact hc (by decide)
  cases h with
  | first hfront h =>
      refine ⟨_, ?_, h⟩
      rw [nextElement, hspace hfront]
      split
      · next heq => cases heq
      · next heq => exact absurd (List.cons.inj heq).1 hbracket
      · next heq => exact absurd (List.cons.inj heq).1 hcomma
      · rfl
  | @next back front _ left _ hback hfront h =>
      have hmark : skipSpace (back ++ ',' :: (front ++ (c :: others ++ left)))
          = ',' :: (front ++ (c :: others ++ left)) := by
        rw [skipSpace_append hback]
        rfl
      refine ⟨_, ?_, h⟩
      rw [nextElement, hmark]
      simp only [Bool.false_eq_true, if_false, hspace hfront]
      split
      · next heq => cases heq
      · next heq => exact absurd (List.cons.inj heq).1 hbracket
      · rfl

theorem elements_succ {fuel : Nat} {first : Bool} {cs v left rest : List Char} {a : α}
    {as : List α} (hnext : nextElement first cs = .ok (true, v)) (hread : item v = .ok (a, left))
    (hleft : elements item fuel false left = .ok (as, rest)) :
    elements item (fuel + 1) first cs = .ok (a :: as, rest) := by
  simp only [elements, hnext, hread, hleft, ok_bind]
  rfl

/-- **What is left of a list is read item by item.** -/
theorem elements_of_remaining (h : Recovers item Spells) {as : List α} {items : List (List Char)}
    (has : List.Forall₂ Spells as items) {rest cs : List Char} {first : Bool}
    (hcs : Remaining ']' rest first items cs) (fuel : Nat) :
    elements item (items.length + 1 + fuel) first cs = .ok (as, rest) := by
  induction has generalizing first cs with
  | nil =>
      rw [List.length_nil, Nat.zero_add, Nat.add_comm, elements, nextElement_of_remaining_nil hcs]
      rfl
  | cons ha _ ih =>
      obtain ⟨left, hnext, hleft⟩ := nextElement_of_remaining_cons hcs (h.starts ha)
      rw [List.length_cons, Nat.add_right_comm _ 1 1, Nat.add_right_comm _ 1 fuel]
      exact elements_succ hnext (h.reads .nil ha (hleft.follow (by decide))) (ih hleft)

theorem Recovers.list (h : Recovers item Spells) : Recovers (list item) (SpellsList Spells) where
  starts := by
    rintro as v ⟨items, -, hlist⟩
    exact Enclosed.starts (by decide) hlist
  reads := by
    rintro as front v rest hfront ⟨items, has, hlist⟩ _
    have hstart : Starts v := Enclosed.starts (by decide) hlist
    obtain ⟨cs, hcs, hrest⟩ := Enclosed.remaining hlist rest
    have hspace : skipSpace (front ++ (v ++ rest)) = '[' :: cs := by
      rw [skipSpace_append hfront, hstart.skipSpace_eq, hcs]
    obtain ⟨fuel, hfuel⟩ := Nat.exists_eq_add_of_le (Nat.add_le_add_right hrest.length_le 1)
    rw [Json.list, hspace]
    show elements item (cs.length + 1) true cs = _
    rw [hfuel]
    exact elements_of_remaining h has hrest fuel

/-! ## Members of objects -/

theorem nextKey_of_remaining_nil {rest cs : List Char} {first : Bool}
    (h : Remaining '\x7d' rest first [] cs) : nextKey first cs = .ok (none, rest) := by
  obtain ⟨hback⟩ := h
  rw [nextKey, skipSpace_append hback]
  rfl

/-- The name of the next member is found, behind a comma unless the member is the first one, and
behind the name there are a colon and the value. -/
theorem nextKey_of_remaining_cons {rest cs next : List Char} {first : Bool}
    {items : List (List Char)} (h : Remaining '\x7d' rest first (next :: items) cs)
    {m : String × List Char} (hnext : NamedMember m next) : ∃ after gap left,
      nextKey first cs = .ok (some m.1, after) ∧ colon after = .ok (gap ++ (m.2 ++ left))
        ∧ Blanks gap ∧ Remaining '\x7d' rest false items left := by
  obtain ⟨key, ⟨parts, hparts, rfl⟩, ⟨middle, gap, hmiddle, hgap, rfl⟩⟩ := hnext
  have hcolon (left : List Char) :
      colon (middle ++ ':' :: (gap ++ (m.2 ++ left))) = .ok (gap ++ (m.2 ++ left)) := by
    rw [colon, skipSpace_append hmiddle]
    rfl
  have htext (left : List Char) :
      '"' :: (parts.flatten ++ ['"']) ++ (middle ++ ':' :: (gap ++ m.2)) ++ left
        = '"' :: (parts.flatten ++ '"' :: (middle ++ ':' :: (gap ++ (m.2 ++ left)))) := by
    simp
  have hspace {front : List Char} (hfront : Blanks front) (cs : List Char) :
      skipSpace (front ++ '"' :: cs) = '"' :: cs := by
    rw [skipSpace_append hfront]
    rfl
  have hname (after : List Char) :
      readTextBody (parts.flatten ++ '"' :: after)
          >>= (fun r => pure (some (String.ofList r.1), r.2))
        = (.ok (some m.1, after) : Except Fault (Option String × List Char)) := by
    rw [readTextBody_of_spelled hparts, ok_bind, String.ofList_toList]
    rfl
  cases h with
  | first hfront h =>
      refine ⟨_, gap, _, ?_, hcolon _, hgap, h⟩
      rw [htext, nextKey, hspace hfront]
      exact hname _
  | @next back front _ left _ hback hfront h =>
      have hmark (cs : List Char) : skipSpace (back ++ ',' :: cs) = ',' :: cs := by
        rw [skipSpace_append hback]
        rfl
      refine ⟨_, gap, _, ?_, hcolon _, hgap, h⟩
      rw [htext, nextKey, hmark]
      split
      · next heq => cases heq
      · next heq => exact absurd (List.cons.inj heq).1 (by decide)
      · next heq =>
        obtain ⟨rfl, rfl⟩ := List.cons.inj heq
        rw [if_neg Bool.false_ne_true, if_pos rfl, hspace hfront]
        exact hname _

/-! ## Dictionaries -/

theorem dictMembers_succ {fuel : Nat} {first : Bool} {d : Dict α} {cs after v left : List Char}
    {key : String} {a : α} (hkey : nextKey first cs = .ok (some key, after))
    (hcolon : colon after = .ok v) (hread : item v = .ok (a, left)) :
    dictMembers item (fuel + 1) first d cs
      = dictMembers item fuel false (d.insert key a) left := by
  simp only [dictMembers, hkey, hcolon, hread, ok_bind]

/-- **What is left of a dictionary is read entry by entry.** -/
theorem dictMembers_of_remaining (h : Recovers item Spells) {members : List (String × List Char)}
    {items : List (List Char)} (hmembers : List.Forall₂ NamedMember members items)
    {entries : List (String × α)}
    (hentries : List.Forall₂ (fun e m => m.1 = e.1 ∧ Spells e.2 m.2) entries members)
    {rest cs : List Char} {first : Bool} (hcs : Remaining '\x7d' rest first items cs) (d : Dict α)
    (fuel : Nat) :
    dictMembers item (items.length + 1 + fuel) first d cs
      = .ok (entries.foldl (fun d e => d.insert e.1 e.2) d, rest) := by
  induction hmembers generalizing entries first cs d with
  | nil =>
      cases hentries
      rw [List.length_nil, Nat.zero_add, Nat.add_comm, dictMembers, nextKey_of_remaining_nil hcs]
      rfl
  | cons hm _ ih =>
      obtain ⟨e, others, ⟨hname, hspells⟩, hothers, rfl⟩ := List.forall₂_cons_right_iff.mp hentries
      obtain ⟨after, gap, left, hkey, hcolon, hgap, hleft⟩ := nextKey_of_remaining_cons hcs hm
      have hread := h.reads hgap hspells (hleft.follow (by decide))
      rw [List.length_cons, Nat.add_right_comm _ 1 1, Nat.add_right_comm _ 1 fuel,
        dictMembers_succ hkey hcolon hread, ih hothers hleft, List.foldl_cons, hname]

/-- An object is read from behind its opening bracket. -/
theorem NamedObject.remaining {members : List (String × List Char)} {v : List Char}
    (h : NamedObject members v) {front : List Char} (hfront : Blanks front) (rest : List Char) :
    ∃ items cs fuel, List.Forall₂ NamedMember members items
      ∧ skipSpace (front ++ (v ++ rest)) = '\x7b' :: cs ∧ Remaining '\x7d' rest true items cs
      ∧ cs.length + 1 = items.length + 1 + fuel := by
  obtain ⟨items, hmembers, hitems⟩ := h
  have hstart : Starts v := hitems.starts (by decide)
  obtain ⟨cs, hcs, hrest⟩ := hitems.remaining rest
  obtain ⟨fuel, hfuel⟩ := Nat.exists_eq_add_of_le (Nat.add_le_add_right hrest.length_le 1)
  refine ⟨items, cs, fuel, hmembers, ?_, hrest, hfuel⟩
  rw [skipSpace_append hfront, hstart.skipSpace_eq, hcs]

theorem NamedObject.starts {members : List (String × List Char)} {v : List Char}
    (h : NamedObject members v) : Starts v := by
  obtain ⟨items, -, hitems⟩ := h
  exact hitems.starts (by decide)

theorem Recovers.dict (h : Recovers item Spells) : Recovers (dict item) (SpellsDict Spells) where
  starts := by
    rintro d v ⟨entries, members, -, -, hobject⟩
    exact hobject.starts
  reads := by
    rintro d front v rest hfront ⟨entries, members, hperm, hentries, hobject⟩ _
    obtain ⟨items, cs, fuel, hmembers, hspace, hcs, hfuel⟩ := hobject.remaining hfront rest
    have hread := dictMembers_of_remaining h hmembers hentries hcs ∅ fuel
    rw [Json.dict, hspace]
    show dictMembers item (cs.length + 1) true ∅ cs = _
    rw [hfuel, hread]
    exact congrArg (fun d => Except.ok (d, rest)) (Dict.ofList_of_perm hperm)

end

/-! ## Records -/

section

variable {σ : Type} {slots : List (Slot σ)} {slot : Slot σ} {f : Field σ}

/-- A field that is read into the part of a slot, and leaves the parts of the other slots. -/
inductive Slot.ReadBy (slots : List (Slot σ)) : Slot σ → Field σ → Prop
  | stored {name : String} {required : Bool} {Part : Type} {part : σ → Part}
      {Spells : Part → List Char → Prop} {item : Reader Part} {set : σ → Part → σ}
      (hitem : Recovers item Spells) (hself : ∀ v a, part (set v a) = a)
      (hothers : ∀ other ∈ slots, other.name ≠ name → ∀ v a,
        other.part (set v a) = other.part v) :
      ReadBy slots ⟨name, required, part, Spells⟩ (.stored name required item set)

namespace Slot.ReadBy

theorem name_eq (h : slot.ReadBy slots f) : f.name = slot.name := by
  cases h
  rfl

theorem required_eq (h : slot.ReadBy slots f) : f.required = slot.required := by
  cases h
  rfl

theorem reads (h : slot.ReadBy slots f) (v : σ) {s : σ} {front t rest : List Char}
    (hfront : Blanks front) (ht : slot.Spells (slot.part s) t) (hrest : Follow rest) :
    ∃ v', f.read v (front ++ (t ++ rest)) = .ok (v', rest) ∧ slot.part v' = slot.part s
      ∧ ∀ other ∈ slots, other.name ≠ slot.name → other.part v' = other.part v := by
  cases h with
  | @stored name required Part part Spells item set hitem hself hothers =>
      refine ⟨set v (part s), ?_, hself v _, fun other hother hne => hothers other hother hne v _⟩
      simp only [Field.stored, hitem.reads hfront ht hrest, ok_bind]
      rfl

end Slot.ReadBy

namespace Describes

variable {v v' s : σ} {m : String × List Char} {members : List (String × List Char)}

/-- A member that is no field makes nothing of a record. -/
theorem tail_other (h : Describes slots v s (m :: members)) (hm : ∀ slot ∈ slots, slot.name ≠ m.1) :
    Describes slots v s members where
  fields slot hslot m' hm' := h.fields slot hslot m' (List.mem_cons_of_mem m hm')
  omitted slot hslot hnone := h.omitted slot hslot
    (List.forall_mem_cons.mpr ⟨(hm slot hslot).symm, hnone⟩)
  once := (List.pairwise_cons.mp h.once).2
  others m' hm' := h.others m' (List.mem_cons_of_mem m hm')

/-- Behind a member that was stored the rest is made of the other members. -/
theorem tail_field (h : Describes slots v s (m :: members))
    (hnames : (slots.map (·.name)).Nodup) (hslot : slot ∈ slots) (hname : m.1 = slot.name)
    (hself : slot.part v' = slot.part s)
    (hothers : ∀ other ∈ slots, other.name ≠ slot.name → other.part v' = other.part v) :
    Describes slots v' s members where
  fields slot hslot m' hm' := h.fields slot hslot m' (List.mem_cons_of_mem m hm')
  omitted other hother hnone := by
    by_cases heq : other.name = slot.name
    · obtain rfl := List.inj_on_of_nodup_map hnames hother hslot heq
      exact hself.symm
    · have hne : m.1 ≠ other.name := fun hm => heq (hm.symm.trans hname)
      rw [h.omitted other hother (List.forall_mem_cons.mpr ⟨hne, hnone⟩), hothers other hother heq]
  once := (List.pairwise_cons.mp h.once).2
  others m' hm' := h.others m' (List.mem_cons_of_mem m hm')

end Describes

/-- A record whose fields are read into the given slots, which make up the whole of it. -/
structure Record.Fits (r : Record σ) (slots : List (Slot σ)) : Prop where
  fields : List.Forall₂ (Slot.ReadBy slots) slots r.fields
  names : (slots.map (·.name)).Nodup
  ext : ∀ v s : σ, (∀ slot ∈ slots, slot.part s = slot.part v) → v = s

namespace Record

variable {r : Record σ}

/-- A name is that of a slot and of the field that reads it, or of no field. -/
theorem find?_fields {among : List (Slot σ)} {fields : List (Field σ)}
    (h : List.Forall₂ (Slot.ReadBy slots) among fields) (key : String) :
    (∃ slot ∈ among, slot.name = key
        ∧ ∃ f, (fields.find? fun f => f.name == key) = some f ∧ slot.ReadBy slots f)
      ∨ (∀ slot ∈ among, slot.name ≠ key) ∧ (fields.find? fun f => f.name == key) = none := by
  induction h with
  | nil => exact .inr ⟨nofun, rfl⟩
  | @cons slot f among fields hf _ ih =>
      by_cases hname : slot.name = key
      · have hfound : (f.name == key) = true := beq_iff_eq.mpr (hf.name_eq.trans hname)
        exact .inl ⟨slot, List.mem_cons_self, hname, f, List.find?_cons_of_pos hfound, hf⟩
      · have hother : (f :: fields).find? (fun f => f.name == key)
            = fields.find? fun f => f.name == key :=
          List.find?_cons_of_neg fun heq => hname (hf.name_eq.symm.trans (beq_iff_eq.mp heq))
        rw [hother]
        obtain ⟨slot', hslot', hfind⟩ | ⟨hnone, hfind⟩ := ih
        · exact .inl ⟨slot', List.mem_cons_of_mem _ hslot', hfind⟩
        · exact .inr ⟨List.forall_mem_cons.mpr ⟨hname, hnone⟩, hfind⟩

section

variable {fuel : Nat} {first : Bool} {seen : List String} {v : σ} {cs after value left : List Char}
  {key : String}

theorem members_field (hkey : nextKey first cs = .ok (some key, after))
    (hcolon : colon after = .ok value) (hfind : (r.fields.find? fun f => f.name == key) = some f)
    (hnew : key ∉ seen) {v' : σ} (hread : f.read v value = .ok (v', left)) :
    r.members (fuel + 1) first seen v cs = r.members fuel false (key :: seen) v' left := by
  have hcontains : seen.contains key = false := by simpa using hnew
  simp only [members, hkey, hfind, hcontains, hcolon, hread, ok_bind, Bool.false_eq_true, if_false]

theorem members_other (hkey : nextKey first cs = .ok (some key, after))
    (hcolon : colon after = .ok value) (hfind : (r.fields.find? fun f => f.name == key) = none)
    (hskip : skipValue value = .ok left) :
    r.members (fuel + 1) first seen v cs = r.members fuel false seen v left := by
  simp only [members, hkey, hfind, hcolon, hskip, ok_bind]

theorem members_end (hkey : nextKey first cs = .ok (none, after))
    (hfind : (r.fields.find? fun f => f.required && !seen.contains f.name) = none) :
    r.members (fuel + 1) first seen v cs = .ok (v, after) := by
  simp only [members, hkey, hfind, ok_bind]
  rfl

end

/-- **What is left of a record is read member by member.** -/
theorem members_of_remaining (hr : r.Fits slots) {members : List (String × List Char)}
    {items : List (List Char)} (hmembers : List.Forall₂ NamedMember members items)
    {seen : List String} {v s : σ} (hdescribes : Describes slots v s members)
    (hnew : ∀ m ∈ members, m.1 ∉ seen)
    (hcomplete : ∀ slot ∈ slots, slot.required = true →
      slot.name ∈ seen ∨ ∃ m ∈ members, m.1 = slot.name)
    {rest cs : List Char} {first : Bool} (hcs : Remaining '\x7d' rest first items cs) (fuel : Nat) :
    r.members (items.length + 1 + fuel) first seen v cs = .ok (s, rest) := by
  induction hmembers generalizing seen v first cs with
  | nil =>
      -- nothing is left that makes a difference, and nothing that has to be there is missing
      have hequal : v = s := hr.ext v s fun slot hslot => hdescribes.omitted slot hslot nofun
      have hfind : (r.fields.find? fun f => f.required && !seen.contains f.name) = none := by
        refine List.find?_eq_none.mpr fun f hf => ?_
        obtain ⟨slot, hslot, hread⟩ := exists_of_mem_forall₂ hr.fields f hf
        rw [hread.required_eq, hread.name_eq]
        cases hrequired : slot.required with
        | false => exact Bool.false_ne_true
        | true =>
            have hseen : slot.name ∈ seen :=
              (hcomplete slot hslot hrequired).resolve_right fun ⟨m, hm, _⟩ => nomatch hm
            simpa using hseen
      rw [List.length_nil, Nat.zero_add, Nat.add_comm,
        members_end (nextKey_of_remaining_nil hcs) hfind, hequal]
  | @cons m item members items hm _ ih =>
      obtain ⟨after, gap, left, hkey, hcolon, hgap, hleft⟩ := nextKey_of_remaining_cons hcs hm
      obtain ⟨hnewm, hnew⟩ := List.forall_mem_cons.mp hnew
      have hfollow := hleft.follow (by decide)
      rw [List.length_cons, Nat.add_right_comm _ 1 1, Nat.add_right_comm _ 1 fuel]
      obtain ⟨slot, hslot, hname, f, hfind, hreadBy⟩ | ⟨hnone, hfind⟩ := find?_fields hr.fields m.1
      · -- the member is a field, and no other member is that field
        have hspells := hdescribes.fields slot hslot m List.mem_cons_self hname.symm
        obtain ⟨v', hread, hself, hothers⟩ := hreadBy.reads v hgap hspells hfollow
        have honce := (List.pairwise_cons.mp hdescribes.once).1
        have hnew' : ∀ m' ∈ members, m'.1 ∉ m.1 :: seen := by
          intro m' hm' hmem
          rcases List.mem_cons.mp hmem with heq | hseen
          · exact honce m' hm' heq.symm slot hslot hname
          · exact hnew m' hm' hseen
        have hcomplete' : ∀ slot ∈ slots, slot.required = true →
            slot.name ∈ m.1 :: seen ∨ ∃ m ∈ members, m.1 = slot.name := by
          intro other hother hrequired
          obtain hseen | ⟨m', hm', hname'⟩ := hcomplete other hother hrequired
          · exact .inl (List.mem_cons_of_mem _ hseen)
          · rcases List.mem_cons.mp hm' with rfl | hm'
            · exact .inl (hname' ▸ List.mem_cons_self)
            · exact .inr ⟨m', hm', hname'⟩
        rw [members_field hkey hcolon hfind hnewm hread]
        exact ih (hdescribes.tail_field hr.names hslot hname.symm hself hothers) hnew' hcomplete'
          hleft
      · -- the member is no field, so its value is passed over
        have hvalue := hdescribes.others m List.mem_cons_self hnone
        have hcomplete' : ∀ slot ∈ slots, slot.required = true →
            slot.name ∈ seen ∨ ∃ m ∈ members, m.1 = slot.name := by
          intro other hother hrequired
          refine (hcomplete other hother hrequired).imp_right fun ⟨m', hm', hname'⟩ => ?_
          rcases List.mem_cons.mp hm' with rfl | hm'
          · exact absurd hname'.symm (hnone other hother)
          · exact ⟨m', hm', hname'⟩
        rw [members_other hkey hcolon hfind (skipValue_of_value hgap hvalue hfollow)]
        exact ih (hdescribes.tail_other hnone) hnew hcomplete' hleft

/-- **A record is read back as it was written.** -/
theorem Fits.recovers (h : r.Fits slots) : Recovers r.read (SpellsRecord slots r.blank) where
  starts := by
    rintro s v ⟨members, -, -, hobject⟩
    exact hobject.starts
  reads := by
    rintro s front v rest hfront ⟨members, hdescribes, hcomplete, hobject⟩ _
    obtain ⟨items, cs, fuel, hmembers, hspace, hcs, hfuel⟩ := hobject.remaining hfront rest
    have hnew : ∀ m ∈ members, m.1 ∉ ([] : List String) := fun _ _ => List.not_mem_nil
    have hread := members_of_remaining h hmembers hdescribes hnew
      (fun slot hslot hrequired => .inr (hcomplete slot hslot hrequired)) hcs fuel
    rw [read, hspace]
    show r.members (cs.length + 1) true [] r.blank cs = _
    rw [hfuel, hread]

end Record

/-- **A text that holds one value and blanks around it is decoded to that value.** -/
theorem Recovers.decode {α : Type} {item : Reader α} {Spells : α → List Char → Prop}
    (h : Recovers item Spells) {a : α} {v t : List Char} (ha : Spells a v) (ht : Padded v t) :
    decode item t = .ok a := by
  obtain ⟨front, back, hfront, hback, rfl⟩ := ht
  have hend : skipSpace back = [] := by
    rw [← List.append_nil back, skipSpace_append hback]
    rfl
  have hfollow : Follow back := by
    rw [← List.append_nil back]
    exact .append hback .nil
  simp only [Json.decode, h.reads hfront ha hfollow, ok_bind, hend]
  rfl

end

end HostAgent.Json
