set_option autoImplicit false

/-! # Dictionaries with texts for keys

A `Dict α` is a finite map from texts to `α`, kept as its list of entries in strictly
increasing order of the keys (by code points). The order is part of the type, so equality of
dictionaries is equality of maps, and a listing of the entries needs no sorting.

`insert` replaces the value of a key that is present. The lemmas say that a look-up sees the
entry inserted last, and nothing else.
-/

namespace HostAgent

universe u

/-- The entries in strictly increasing order of their keys. -/
def Ascending {α : Type u} (entries : List (String × α)) : Prop :=
  entries.Pairwise fun a b => a.1 < b.1

/-- A finite map from texts to `α`. -/
structure Dict (α : Type u) where
  entries : List (String × α)
  ascending : Ascending entries

namespace Dict

variable {α : Type u}

instance [DecidableEq α] : DecidableEq (Dict α) := fun d e =>
  decidable_of_iff (d.entries = e.entries) ⟨by cases d; cases e; simp, congrArg entries⟩

/-- The dictionary without entries. -/
def empty : Dict α := ⟨[], .nil⟩

instance : EmptyCollection (Dict α) := ⟨empty⟩
instance : Inhabited (Dict α) := ⟨empty⟩

/-- The entries with `key` bound to `value`, in their place in the order. -/
def insertEntry (key : String) (value : α) : List (String × α) → List (String × α)
  | [] => [(key, value)]
  | (k, v) :: rest =>
    if key < k then (key, value) :: (k, v) :: rest
    else if key = k then (key, value) :: rest
    else (k, v) :: insertEntry key value rest

theorem mem_insertEntry {key : String} {value : α} {e : String × α}
    {entries : List (String × α)} (h : e ∈ insertEntry key value entries) :
    e = (key, value) ∨ e ∈ entries := by
  induction entries with
  | nil => simpa [insertEntry] using h
  | cons a rest ih =>
    obtain ⟨k, v⟩ := a
    unfold insertEntry at h
    split at h
    · simpa using h
    · split at h
      · rcases List.mem_cons.mp h with h | h
        · exact .inl h
        · exact .inr (List.mem_cons_of_mem _ h)
      · rcases List.mem_cons.mp h with h | h
        · exact .inr (h ▸ List.mem_cons_self)
        · exact (ih h).imp_right (List.mem_cons_of_mem _)

theorem ascending_insertEntry (key : String) (value : α) {entries : List (String × α)}
    (h : Ascending entries) : Ascending (insertEntry key value entries) := by
  unfold Ascending at h ⊢
  induction entries with
  | nil => simp [insertEntry]
  | cons a rest ih =>
    obtain ⟨k, v⟩ := a
    obtain ⟨hk, hrest⟩ := List.pairwise_cons.mp h
    unfold insertEntry
    split
    · next hlt =>
      refine List.pairwise_cons.mpr ⟨fun b hb => ?_, h⟩
      rcases List.mem_cons.mp hb with rfl | hb
      · exact hlt
      · exact String.lt_trans hlt (hk b hb)
    · next hnlt =>
      split
      · next heq => exact List.pairwise_cons.mpr ⟨fun b hb => heq ▸ hk b hb, hrest⟩
      · next hne =>
        have hkk : k < key := by
          rcases Decidable.em (k < key) with h' | h'
          · exact h'
          · exact absurd (String.le_antisymm (String.not_lt.mp h') (String.not_lt.mp hnlt)) hne
        refine List.pairwise_cons.mpr ⟨fun b hb => ?_, ih hrest⟩
        rcases mem_insertEntry hb with rfl | hb
        · exact hkk
        · exact hk b hb

/-- `d` with `key` bound to `value`. -/
def insert (d : Dict α) (key : String) (value : α) : Dict α :=
  ⟨insertEntry key value d.entries, ascending_insertEntry key value d.ascending⟩

/-- `d` without a binding of `key`. -/
def erase (d : Dict α) (key : String) : Dict α :=
  ⟨d.entries.filter fun e => e.1 ≠ key, d.ascending.filter _⟩

/-- The value bound to `key` in a list of entries. -/
def find? (key : String) : List (String × α) → Option α
  | [] => none
  | (k, v) :: rest => if key = k then some v else find? key rest

/-- The value bound to `key`. -/
def get? (d : Dict α) (key : String) : Option α := find? key d.entries

/-- Whether there are no entries. -/
def isEmpty (d : Dict α) : Bool := d.entries.isEmpty

/-- The keys in increasing order. -/
def keys (d : Dict α) : List String := d.entries.map Prod.fst

/-- The values in increasing order of their keys. -/
def values (d : Dict α) : List α := d.entries.map Prod.snd

/-- The dictionary of a list of bindings; of two bindings of one key the later one holds. -/
def ofList (bindings : List (String × α)) : Dict α :=
  bindings.foldl (fun d b => d.insert b.1 b.2) empty

theorem forall_mem_insert {P : String × α → Prop} {d : Dict α} {key : String} {value : α}
    (hd : ∀ e ∈ d.entries, P e) (h : P (key, value)) :
    ∀ e ∈ (d.insert key value).entries, P e := by
  intro e he
  rcases mem_insertEntry he with rfl | he
  · exact h
  · exact hd e he

/-- What is true of all bindings is true of all entries. -/
theorem forall_mem_ofList {P : String × α → Prop} {bindings : List (String × α)}
    (h : ∀ b ∈ bindings, P b) : ∀ e ∈ (ofList bindings).entries, P e := by
  suffices hfold : ∀ d : Dict α, (∀ e ∈ d.entries, P e) →
      ∀ e ∈ (bindings.foldl (fun d b => d.insert b.1 b.2) d).entries, P e from
    hfold empty fun _ he => nomatch he
  induction bindings with
  | nil => exact fun d hd => hd
  | cons b bindings ih =>
    intro d hd
    refine ih (fun b' hb' => h b' (List.mem_cons_of_mem b hb')) (d.insert b.1 b.2) ?_
    exact forall_mem_insert hd (h b List.mem_cons_self)

theorem pairwise_keys (d : Dict α) : d.keys.Pairwise (· < ·) :=
  List.pairwise_map.mpr d.ascending

/-- Values that tell their keys tell them in order. -/
theorem map_values_eq_keys {d : Dict α} {key : α → String} (h : ∀ e ∈ d.entries, key e.2 = e.1) :
    d.values.map key = d.keys := by
  rw [values, keys, List.map_map]
  exact List.map_congr_left h

theorem find?_insertEntry_self (key : String) (value : α) (entries : List (String × α)) :
    find? key (insertEntry key value entries) = some value := by
  induction entries with
  | nil => simp [insertEntry, find?]
  | cons a rest ih =>
    obtain ⟨k, v⟩ := a
    unfold insertEntry
    split
    · simp [find?]
    · split
      · simp [find?]
      · next hne => simp [find?, hne, ih]

theorem find?_insertEntry_ne {key other : String} (value : α) (h : other ≠ key)
    (entries : List (String × α)) :
    find? other (insertEntry key value entries) = find? other entries := by
  induction entries with
  | nil => simp [insertEntry, find?, h]
  | cons a rest ih =>
    obtain ⟨k, v⟩ := a
    unfold insertEntry
    split
    · simp [find?, h]
    · split
      · next heq => subst heq; simp [find?, h]
      · simp [find?, ih]

theorem mem_of_find? {key : String} {value : α} {entries : List (String × α)}
    (h : find? key entries = some value) : (key, value) ∈ entries := by
  induction entries with
  | nil => nomatch h
  | cons a rest ih =>
    obtain ⟨k, v⟩ := a
    rw [find?] at h
    split at h
    · next heq =>
      subst heq
      obtain rfl := Option.some.inj h
      exact List.mem_cons_self
    · exact List.mem_cons_of_mem _ (ih h)

theorem find?_of_mem {key : String} {value : α} {entries : List (String × α)}
    (hentries : (entries.map Prod.fst).Nodup) (h : (key, value) ∈ entries) :
    find? key entries = some value := by
  induction entries with
  | nil => nomatch h
  | cons a rest ih =>
    obtain ⟨k, v⟩ := a
    obtain ⟨hk, hrest⟩ := List.nodup_cons.mp hentries
    rcases List.mem_cons.mp h with h | h
    · obtain ⟨rfl, rfl⟩ := Prod.mk.inj h
      rw [find?, if_pos rfl]
    · have hmem : key ∈ rest.map Prod.fst := List.mem_map_of_mem (f := Prod.fst) h
      have hne : key ≠ k := fun heq => hk (heq ▸ hmem)
      rw [find?, if_neg hne, ih hrest h]

theorem nodup_keys (d : Dict α) : (d.entries.map Prod.fst).Nodup :=
  List.Pairwise.imp (fun {a b} (hlt : a < b) (heq : a = b) => String.lt_irrefl b (heq ▸ hlt))
    d.pairwise_keys

theorem insertEntry_of_find? {key : String} {value : α} {entries : List (String × α)}
    (hentries : Ascending entries) (h : find? key entries = some value) :
    insertEntry key value entries = entries := by
  induction entries with
  | nil => nomatch h
  | cons a rest ih =>
    obtain ⟨k, v⟩ := a
    obtain ⟨hk, hrest⟩ := List.pairwise_cons.mp hentries
    rw [find?] at h
    split at h
    · next heq =>
      subst heq
      obtain rfl := Option.some.inj h
      rw [insertEntry, if_neg (String.lt_irrefl key), if_pos rfl]
    · next hne =>
      -- the entry is among those behind the first one, whose key comes before its own
      have hlt : k < key := hk _ (mem_of_find? h)
      rw [insertEntry, if_neg (String.lt_asymm hlt), if_neg hne, ih hrest h]

theorem get?_eq_some_iff {d : Dict α} {key : String} {value : α} :
    d.get? key = some value ↔ (key, value) ∈ d.entries :=
  ⟨mem_of_find?, find?_of_mem d.nodup_keys⟩

@[simp] theorem get?_empty (key : String) : (empty : Dict α).get? key = none := rfl

@[simp] theorem get?_insert_self (d : Dict α) (key : String) (value : α) :
    (d.insert key value).get? key = some value :=
  find?_insertEntry_self key value d.entries

theorem get?_insert_ne (d : Dict α) {key other : String} (value : α) (h : other ≠ key) :
    (d.insert key value).get? other = d.get? other :=
  find?_insertEntry_ne value h d.entries

/-- Inserting what is there changes nothing. -/
theorem insert_of_get? {d : Dict α} {key : String} {value : α} (h : d.get? key = some value) :
    d.insert key value = d := by
  have hentries := insertEntry_of_find? d.ascending h
  obtain ⟨entries, ascending⟩ := d
  simp only [insert, hentries]

theorem find?_filter_self (key : String) (entries : List (String × α)) :
    find? key (entries.filter fun e => e.1 ≠ key) = none := by
  induction entries with
  | nil => rfl
  | cons a rest ih =>
    by_cases h : a.1 = key
    · simpa [h] using ih
    · simpa [h, find?, Ne.symm h] using ih

theorem find?_filter_ne {key other : String} (h : other ≠ key) (entries : List (String × α)) :
    find? other (entries.filter fun e => e.1 ≠ key) = find? other entries := by
  induction entries with
  | nil => rfl
  | cons a rest ih =>
    by_cases ha : a.1 = key
    · simpa [ha, find?, h] using ih
    · by_cases ho : other = a.1
      · simp [ha, find?, ho]
      · simpa [ha, find?, ho] using ih

@[simp] theorem get?_erase_self (d : Dict α) (key : String) : (d.erase key).get? key = none :=
  find?_filter_self key d.entries

theorem get?_erase_ne (d : Dict α) {key other : String} (h : other ≠ key) :
    (d.erase key).get? other = d.get? other :=
  find?_filter_ne h d.entries

end Dict

end HostAgent
