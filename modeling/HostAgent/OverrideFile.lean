import HostAgent.Event
import HostAgent.File.Fault
import HostAgent.Ini.Tree
import HostAgent.Overrides
import HostAgent.Text.Utf8

set_option autoImplicit false

/-! # The override file

Overrides come from a settings file that is read afresh for every cycle. A missing file means
no overrides. A file that cannot be read or understood means no overrides either, but is
reported; no part of it counts.

The assignments of a file are collected in the order of a walk through its tables. Of two
assignments whose names differ only in case, the one that is collected later holds: which one
this is, the file does not say, and it may be another one at the next reading.
-/

namespace HostAgent

/-- What is found at the path of a file. -/
inductive FileContents
  | absent
  | directory
  | bytes (contents : List UInt8)
deriving DecidableEq, Repr

/-- Why overrides cannot be read. -/
inductive OverrideFault
  | read (path : String) (cause : FileFault)
  | parse (path text : String)
deriving DecidableEq, Repr

/-- The wording of a fault. -/
def OverrideFault.message : OverrideFault → String
  | .read path cause => "failed to read override file " ++ path ++ ": " ++ cause.message
  | .parse path text => "failed to parse override file " ++ path ++ ": " ++ text

namespace Overrides

/-- The assignments that the items of a settings file make. -/
def assignments (walk : Ini.Walk) (items : List Ini.Item) : List Entry :=
  (Ini.texts walk (Ini.tree walk (Ini.bindings items))).map fun (group, key, value) =>
    ⟨group, key, value⟩

/-- The overrides that the text of a settings file holds. -/
def ofText (s : String) (walk : Ini.Walk := {}) : Except Ini.Fault Overrides :=
  (Ini.read s).map fun items => ofEntries (assignments walk items)

/-- The overrides of the file at `path`. -/
def ofFile (path : String) (file : FileContents) (walk : Ini.Walk := {}) :
    Except OverrideFault Overrides :=
  match file with
  | .absent => .ok empty
  | .directory => .error (.read path .isDirectory)
  | .bytes contents =>
    match Utf8.decode? contents with
    | none => .error (.read path .notText)
    | some s => (ofText s walk).mapError fun fault => .parse path fault.message

/-- The overrides that are in force with the given file, and the report on a faulty one. -/
def load (path : String) (file : FileContents) (walk : Ini.Walk := {}) : Overrides × Log :=
  match ofFile path file walk with
  | .ok o => (o, [])
  | .error fault =>
    (empty, [⟨.error, .overrides, "Using default configuration",
      [("error", .shown fault.message)]⟩])

end Overrides

end HostAgent
