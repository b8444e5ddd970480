import HostAgent.Text.Blank
import HostAgent.Text.Case

set_option autoImplicit false

/-! # Switches

A switch text says on or off in one of four words each, in any case and with any blanks
around it. Every other text says nothing, and its readers treat it like a missing one.
-/

namespace HostAgent.Switch

/-- The words for on. -/
def onWords : List String := ["true", "yes", "on", "1"]

/-- The words for off. -/
def offWords : List String := ["false", "no", "off", "0"]

/-- What a switch text says, if anything. -/
def read (s : String) : Option Bool :=
  let word := foldCase (trim s)
  if word ∈ onWords then some true
  else if word ∈ offWords then some false
  else none

end HostAgent.Switch
