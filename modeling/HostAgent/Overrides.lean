import HostAgent.Number.Decimal
import HostAgent.Dict
import HostAgent.Switch

set_option autoImplicit false

/-! # Local overrides

An operator overrides published settings by values that are grouped into sections. Sections
and keys are looked up in any case: both are stored with ASCII letters in lower case. With no
override at all every domain runs with its defaults.
-/

namespace HostAgent

/-- Override values by section and key. -/
structure Overrides where
  sections : Dict (Dict String)
deriving DecidableEq

namespace Overrides

/-- One assignment of an override. -/
structure Entry where
  group : String
  key : String
  value : String
deriving DecidableEq, Repr

/-- No override. -/
def empty : Overrides := ⟨∅⟩

instance : EmptyCollection Overrides := ⟨empty⟩
instance : Inhabited Overrides := ⟨empty⟩

/-- `o` with one more assignment, which replaces an earlier one of the same key. -/
def assign (o : Overrides) (e : Entry) : Overrides :=
  let group := foldCase e.group
  let values := (o.sections.get? group).getD ∅
  ⟨o.sections.insert group (values.insert (foldCase e.key) e.value)⟩

/-- The overrides of a list of assignments; of two for one key the later one holds. -/
def ofEntries (entries : List Entry) : Overrides := entries.foldl assign empty

/-- Whether no value is set. -/
def isEmpty (o : Overrides) : Bool := o.sections.values.all Dict.isEmpty

/-- The value set for a key of a section. -/
def get? (o : Overrides) (group key : String) : Option String := do
  let values ← o.sections.get? (foldCase group)
  values.get? (foldCase key)

/-- The switch set for a key; a value that is not a switch text counts as not set. -/
def switch? (o : Overrides) (group key : String) : Option Bool :=
  (o.get? group key).bind Switch.read

/-- A port number with blanks around it allowed. -/
def readPort (s : String) : Option Nat := (Decimal.read Decimal.max16 (trim s)).toOption

/-- The port set for a key; a value that is not a port number counts as not set. -/
def port? (o : Overrides) (group key : String) : Option Nat :=
  (o.get? group key).bind readPort

end Overrides

end HostAgent
