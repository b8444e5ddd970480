import HostAgent.Dict
import HostAgent.Ini.Grammar
import HostAgent.Ini.Path
import HostAgent.Ini.Walk

set_option autoImplicit false

/-! # Groups of settings

The items of a file make up a table of names. A header that repeats an earlier one, spelled
alike, starts its group afresh. Each name of the table is then followed as a path, so that
settings of one group may be written in several places. Where two names lead to one place, the
one that is visited later holds it, and the order of the visits is that of a `Walk`.

Only the two upper levels of the result carry settings: a text at the top belongs to no group,
and what lies deeper than a key of a group is no text. The texts, too, are listed in the order of
a walk.
-/

namespace HostAgent.Ini

/-- What a name at the top of a file is bound to. -/
inductive Binding
  | text (value : String)
  | group (settings : Dict String)

/-- What a key of a group holds: a text, or something deeper. -/
inductive Leaf
  | text (value : String)
  | deeper

/-- What a top name holds after all paths were followed. -/
inductive Node
  | text (value : String)
  | group (leaves : Dict Leaf)
  | elements

/-- Adds an item to the table; `current` is the group that is open. -/
def bind (table : Dict Binding × Option String) (item : Item) : Dict Binding × Option String :=
  match item with
  | .group name => (table.1.insert name (.group ∅), some name)
  | .setting key value =>
    match table.2 with
    | none => (table.1.insert key (.text value), none)
    | some name => (table.1.insert name (.group ((settings name).insert key value)), some name)
where
  /-- The settings of a group so far. -/
  settings (name : String) : Dict String :=
    match table.1.get? name with
    | some (.group d) => d
    | _ => ∅

/-- The table of the names of a file. -/
def bindings (items : List Item) : Dict Binding := (items.foldl bind (∅, none)).1

/-- The leaves below a node. -/
def Node.leaves : Option Node → Dict Leaf
  | some (.group leaves) => leaves
  | _ => ∅

/-- A node after a binding was stored at some steps below it. -/
def store (node : Option Node) (steps : List PathStep) (b : Binding) : Node :=
  match steps, b with
  | [], .text value => .text value
  | [], .group settings =>
    .group (settings.entries.foldl (fun d e => d.insert e.1 (.text e.2)) (Node.leaves node))
  | [.child key], .text value => .group ((Node.leaves node).insert key (.text value))
  | .child key :: _, _ => .group ((Node.leaves node).insert key .deeper)
  | .element :: _, _ => .elements

/-- The tree of a table. -/
def tree (walk : Walk) (table : Dict Binding) : Dict Node :=
  (table.ranked walk.names).foldl (fun t e =>
    let path := Path.read e.1
    t.insert path.root (store (t.get? path.root) path.steps e.2)) ∅

/-- The texts of a tree, by group and key. -/
def texts (walk : Walk) (t : Dict Node) : List (String × String × String) :=
  (t.ranked walk.groups).flatMap fun e =>
    match e.2 with
    | .group leaves => (leaves.ranked (walk.keys e.1)).filterMap fun l =>
      match l.2 with
      | .text value => some (e.1, l.1, value)
      | .deeper => none
    | _ => []

end HostAgent.Ini
