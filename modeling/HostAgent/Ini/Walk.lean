import HostAgent.Dict

set_option autoImplicit false

/-! # Orders of walking

The names of a settings file are kept in hash tables, and a hash table is walked in an order that
nothing in the file decides: it is another one every time the file is read. Where the names of a
file do not get in each other's way the order does not show. Where they do, it decides which of
them comes last.

A `Walk` gives the order for each table of a reading. It ranks the names, as their hashes do, and
the entries are visited by rank, those of one rank in the order of the dictionary. Unless told
otherwise all names have the same rank.
-/

namespace HostAgent

universe u

namespace Dict

variable {α : Type u} (rank : String → Nat)

/-- An entry in its place among entries in the order of rank, before those of the same rank. -/
def insertRanked (entry : String × α) : List (String × α) → List (String × α)
  | [] => [entry]
  | e :: rest =>
    if rank entry.1 ≤ rank e.1 then entry :: e :: rest else e :: insertRanked entry rest

/-- The entries in the order of rank. -/
def ranked (d : Dict α) : List (String × α) := d.entries.foldr (insertRanked rank) []

theorem perm_insertRanked (entry : String × α) (entries : List (String × α)) :
    (insertRanked rank entry entries).Perm (entry :: entries) := by
  induction entries with
  | nil => exact .refl _
  | cons e rest ih =>
      rw [insertRanked]
      split
      · exact .refl _
      · exact (ih.cons e).trans (.swap entry e rest)

/-- Every entry is visited once. -/
theorem perm_ranked (d : Dict α) : (d.ranked rank).Perm d.entries := by
  rw [ranked]
  induction d.entries with
  | nil => exact .refl _
  | cons e rest ih => exact (perm_insertRanked rank e _).trans (ih.cons e)

end Dict

namespace Ini

/-- The orders in which the tables of a reading are walked. -/
structure Walk where
  /-- The ranks of the names of a file when they are followed as paths. -/
  names : String → Nat := fun _ => 0
  /-- The ranks of the groups when their settings are listed. -/
  groups : String → Nat := fun _ => 0
  /-- The ranks of the keys of each group when they are listed. -/
  keys : String → String → Nat := fun _ _ => 0

end Ini

end HostAgent
