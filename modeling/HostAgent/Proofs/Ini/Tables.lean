import HostAgent.Ini.Tree
import HostAgent.Proofs.Dict
import Mathlib.Data.List.Pairwise
import Mathlib.Data.List.Perm.Basic
import Mathlib.Data.List.TakeWhile

set_option autoImplicit false

/-! # The settings of groups with distinct names

The items of a file go into a table of names, the table into a tree of paths, and the tree is
flattened into texts. Each table is walked in an order that can be any (`Dict.exists_ranked_eq`).
Where each group is written once and no name leads into another one, nothing
is lost or mixed up on this way: the texts of a group are the last values of its keys
(`mem_texts_iff`). In whichever order the tables are walked, the texts are the same.
-/

namespace HostAgent

/-! ## Orders of walking -/

namespace Dict

universe u

variable {α : Type u} {rank : String → Nat}

theorem pairwise_insertRanked (entry : String × α) {entries : List (String × α)}
    (h : entries.Pairwise fun a b => rank a.1 ≤ rank b.1) :
    (insertRanked rank entry entries).Pairwise fun a b => rank a.1 ≤ rank b.1 := by
  induction entries with
  | nil => exact List.pairwise_singleton _ _
  | cons e rest ih =>
      obtain ⟨hfirst, hrest⟩ := List.pairwise_cons.mp h
      rw [insertRanked]
      split
      · next hle =>
        refine List.pairwise_cons.mpr ⟨fun other hother => ?_, h⟩
        rcases List.mem_cons.mp hother with rfl | hother
        · exact hle
        · exact hle.trans (hfirst other hother)
      · next hlt =>
        refine List.pairwise_cons.mpr ⟨fun other hother => ?_, ih hrest⟩
        rcases List.mem_cons.mp ((perm_insertRanked rank entry rest).mem_iff.mp hother) with
          rfl | hother
        · exact (Nat.lt_of_not_le hlt).le
        · exact hfirst other hother

theorem pairwise_ranked (d : Dict α) :
    (d.ranked rank).Pairwise fun a b => rank a.1 ≤ rank b.1 := by
  rw [ranked]
  induction d.entries with
  | nil => exact .nil
  | cons e rest ih => exact pairwise_insertRanked e ih

/-- **A table can be walked in every order.** -/
theorem exists_ranked_eq (d : Dict α) {order : List (String × α)} (h : order.Perm d.entries) :
    ∃ rank, d.ranked rank = order := by
  have hkeys : (order.map Prod.fst).Nodup := (h.map Prod.fst).nodup_iff.mpr d.nodup_keys
  -- the rank of a name is its position in the order
  let rank (name : String) : Nat := (order.map Prod.fst).idxOf name
  have hordered : order.Pairwise fun a b => rank a.1 ≤ rank b.1 := by
    rw [List.pairwise_iff_getElem]
    intro i j hi hj hij
    have hposition (k : Nat) (hk : k < order.length) : rank order[k].1 = k := by
      have hk' : k < (order.map Prod.fst).length := by rwa [List.length_map]
      have hname : order[k].1 = (order.map Prod.fst)[k] := (List.getElem_map ..).symm
      show (order.map Prod.fst).idxOf order[k].1 = k
      rw [hname, hkeys.idxOf_getElem k hk']
    rw [hposition i hi, hposition j hj]
    exact hij.le
  have hperm : (d.ranked rank).Perm order := (d.perm_ranked rank).trans h.symm
  refine ⟨rank, hperm.eq_of_pairwise (fun a b ha hb hab hba => ?_) d.pairwise_ranked hordered⟩
  have ha' := hperm.mem_iff.mp ha
  have hname : a.1 = b.1 :=
    (List.idxOf_inj (List.mem_map_of_mem ha')).mp (Nat.le_antisymm hab hba)
  exact List.inj_on_of_nodup_map hkeys ha' hb hname

end Dict

namespace Ini

/-- A group as it is written: its name, and its settings in order. -/
structure Group where
  name : String
  settings : List (String × String)

namespace Group

/-- The items of a group. -/
def items (g : Group) : List Item :=
  .group g.name :: g.settings.map fun s => .setting s.1 s.2

/-- What the name of a group is bound to. -/
def binding (g : Group) : String × Binding := (g.name, .group (Dict.ofList g.settings))

end Group

/-! ## From items to the table -/

/-- The settings behind a header are added to its group. -/
theorem foldl_bind_settings (settings : List (String × String)) (table : Dict Binding)
    (name : String) (d : Dict String) :
    (settings.map fun s => Item.setting s.1 s.2).foldl bind
        (table.insert name (.group d), some name)
      = (table.insert name (.group (settings.foldl (fun d s => d.insert s.1 s.2) d)),
        some name) := by
  induction settings generalizing d with
  | nil => rfl
  | cons s settings ih =>
      have hfound : bind.settings (table.insert name (.group d), some name) name = d := by
        rw [bind.settings, Dict.get?_insert_self]
      have hbind : bind (table.insert name (.group d), some name) (.setting s.1 s.2)
          = (table.insert name (.group (d.insert s.1 s.2)), some name) := by
        show ((table.insert name (.group d)).insert name
          (.group ((bind.settings (table.insert name (.group d), some name) name).insert s.1 s.2)),
            some name) = _
        rw [hfound, Dict.insert_insert]
      rw [List.map_cons, List.foldl_cons, hbind, ih, List.foldl_cons]

theorem foldl_bind_items (g : Group) (table : Dict Binding) (current : Option String) :
    g.items.foldl bind (table, current) = (table.insert g.name g.binding.2, some g.name) :=
  foldl_bind_settings g.settings table g.name ∅

/-- **The table of a file binds the name of each group to its settings.** -/
theorem bindings_flatMap_items (groups : List Group) :
    bindings (groups.flatMap Group.items) = Dict.ofList (groups.map Group.binding) := by
  have hfold : ∀ (table : Dict Binding) (current : Option String),
      ((groups.flatMap Group.items).foldl bind (table, current)).1
        = (groups.map Group.binding).foldl (fun d b => d.insert b.1 b.2) table := by
    induction groups with
    | nil => exact fun _ _ => rfl
    | cons g groups ih =>
        intro table current
        rw [List.flatMap_cons, List.foldl_append, foldl_bind_items, ih]
        rfl
  exact hfold ∅ none

/-! ## From the table to the texts -/

/-- A name that leads nowhere else. -/
def Path.IsSimple (name : String) : Prop := Path.read name = ⟨name, []⟩

/-- A name of part characters alone leads nowhere else. -/
theorem Path.isSimple_of_forall {name : String} (hne : name.toList ≠ [])
    (h : ∀ ch ∈ name.toList, isPartChar ch = true) : IsSimple name := by
  have hpart : readPart? name.toList = some (name, []) := by
    rw [readPart?, List.takeWhile_eq_self_iff.mpr h, List.dropWhile_eq_nil_iff.mpr h,
      List.isEmpty_eq_false_iff.mpr hne, String.ofList_toList]
    rfl
  rw [IsSimple, read, hpart]
  rfl

variable (walk : Walk)

/-- The tree of a table of simple names has these names. -/
theorem get?_tree {table : Dict Binding} (h : ∀ e ∈ table.entries, Path.IsSimple e.1)
    (name : String) : (tree walk table).get? name = (table.get? name).map (store none []) := by
  have hperm := table.perm_ranked walk.names
  have hfill : tree walk table
      = Dict.fill (fun node b => store node [] b) (table.ranked walk.names) ∅ := by
    refine List.foldl_ext _ _ _ fun t e he => ?_
    have hpath : Path.read e.1 = ⟨e.1, []⟩ := h e (hperm.mem_iff.mp he)
    show t.insert (Path.read e.1).root
        (store (t.get? (Path.read e.1).root) (Path.read e.1).steps e.2)
      = t.insert e.1 (store (t.get? e.1) [] e.2)
    rw [hpath]
  rw [hfill, Dict.get?_fill _ hperm]

/-- The leaves of a group are the texts of its settings. -/
theorem get?_leaves {settings : Dict String} {leaves : Dict Leaf}
    (h : store none [] (.group settings) = .group leaves) (key : String) :
    leaves.get? key = (settings.get? key).map .text := by
  have hleaves : leaves = Dict.fill (fun _ value => .text value) settings.entries ∅ :=
    (Node.group.inj h).symm
  rw [hleaves, Dict.get?_fill _ (.refl _)]

theorem mem_texts {t : Dict Node} {group key value : String} : (group, key, value) ∈ texts walk t
    ↔ ∃ leaves, t.get? group = some (.group leaves) ∧ leaves.get? key = some (.text value) := by
  simp only [texts, List.mem_flatMap, (Dict.perm_ranked _ _).mem_iff, Dict.get?_eq_some_iff]
  constructor
  · rintro ⟨⟨name, node⟩, hnode, hmem⟩
    cases node with
    | text _ => exact absurd hmem List.not_mem_nil
    | elements => exact absurd hmem List.not_mem_nil
    | group leaves =>
        obtain ⟨⟨name', leaf⟩, hleaf, htext⟩ := List.mem_filterMap.mp hmem
        rw [(Dict.perm_ranked _ leaves).mem_iff] at hleaf
        cases leaf with
        | deeper => cases htext
        | text value' =>
            obtain ⟨rfl, rfl, rfl⟩ : name = group ∧ name' = key ∧ value' = value := by
              simpa using htext
            exact ⟨leaves, hnode, hleaf⟩
  · rintro ⟨leaves, hnode, hleaf⟩
    have hranked : (key, .text value) ∈ leaves.ranked (walk.keys group) :=
      (Dict.perm_ranked _ leaves).mem_iff.mpr hleaf
    exact ⟨(group, .group leaves), hnode,
      List.mem_filterMap.mpr ⟨(key, .text value), hranked, rfl⟩⟩

/-- **The texts of a table are the settings of its groups.** -/
theorem mem_texts_tree {table : Dict Binding} (h : ∀ e ∈ table.entries, Path.IsSimple e.1)
    {group key value : String} : (group, key, value) ∈ texts walk (tree walk table)
      ↔ ∃ settings, table.get? group = some (.group settings) ∧ settings.get? key = some value := by
  rw [mem_texts, get?_tree walk h]
  constructor
  · rintro ⟨leaves, hnode, hleaf⟩
    obtain ⟨binding, hbinding, hstore⟩ := Option.map_eq_some_iff.mp hnode
    cases binding with
    | text _ => cases hstore
    | group settings =>
        rw [get?_leaves hstore, Option.map_eq_some_iff] at hleaf
        obtain ⟨value', hvalue, htext⟩ := hleaf
        obtain rfl := Leaf.text.inj htext
        exact ⟨settings, hbinding, hvalue⟩
  · rintro ⟨settings, hbinding, hvalue⟩
    refine ⟨_, by rw [hbinding]; rfl, ?_⟩
    rw [get?_leaves rfl, hvalue]
    rfl

/-- The table of groups with simple names has simple names. -/
theorem isSimple_of_mem_bindings {groups : List Group}
    (h : ∀ g ∈ groups, Path.IsSimple g.name) :
    ∀ e ∈ (bindings (groups.flatMap Group.items)).entries, Path.IsSimple e.1 := by
  rw [bindings_flatMap_items]
  refine Dict.forall_mem_ofList fun b hb => ?_
  obtain ⟨g, hg, rfl⟩ := List.mem_map.mp hb
  exact h g hg

/-- **The texts of a file are the last values of the keys of its groups**, if their names are
distinct. -/
theorem mem_texts_iff {groups : List Group} (hnames : groups.Pairwise fun g g' => g.name ≠ g'.name)
    (hsimple : ∀ g ∈ groups, Path.IsSimple g.name) {group key value : String} :
    (group, key, value) ∈ texts walk (tree walk (bindings (groups.flatMap Group.items)))
      ↔ ∃ g ∈ groups, g.name = group ∧ (Dict.ofList g.settings).get? key = some value := by
  have hbinding (settings : Dict String) :
      (bindings (groups.flatMap Group.items)).get? group = some (.group settings)
        ↔ ∃ g ∈ groups, g.name = group ∧ Dict.ofList g.settings = settings := by
    rw [bindings_flatMap_items, Dict.get?_ofList_eq_some_iff, lastValue_map_iff,
      lastValue_iff_exists_mem]
    · exact exists_congr fun g => and_congr_right fun _ => and_congr_right fun _ =>
        ⟨Binding.group.inj, congrArg Binding.group⟩
    · -- two groups of one name are the same
      intro g hg g' hg' hname hname'
      have hsymm : Std.Symm fun g g' : Group => g.name ≠ g'.name := ⟨fun _ _ h => h.symm⟩
      have heq : g = g' := by
        by_contra hne
        exact hnames.forall hg hg' hne (Eq.trans hname (Eq.symm hname'))
      rw [heq]
  rw [mem_texts_tree walk (isSimple_of_mem_bindings hsimple)]
  constructor
  · rintro ⟨settings, hgroup, hvalue⟩
    obtain ⟨g, hg, hname, rfl⟩ := (hbinding settings).mp hgroup
    exact ⟨g, hg, hname, hvalue⟩
  · rintro ⟨g, hg, hname, hvalue⟩
    exact ⟨Dict.ofList g.settings, (hbinding _).mpr ⟨g, hg, hname, rfl⟩, hvalue⟩

/-! ## The walk does not matter -/

/-- The texts of a tree are listed in some order. -/
theorem perm_texts (walk' : Walk) (t : Dict Node) : (texts walk t).Perm (texts walk' t) := by
  have hgroups : (t.ranked walk.groups).Perm (t.ranked walk'.groups) :=
    (t.perm_ranked _).trans (t.perm_ranked _).symm
  refine hgroups.flatMap fun e _ => ?_
  obtain ⟨name, node⟩ := e
  cases node with
  | text _ | elements => exact .refl _
  | group leaves =>
      exact ((leaves.perm_ranked _).trans (leaves.perm_ranked _).symm).filterMap _

/-- A table of simple names has one tree. -/
theorem tree_eq_of_simple {table : Dict Binding} (h : ∀ e ∈ table.entries, Path.IsSimple e.1)
    (walk' : Walk) : tree walk table = tree walk' table :=
  Dict.ext_get? fun name => by rw [get?_tree walk h, get?_tree walk' h]

end Ini

end HostAgent
