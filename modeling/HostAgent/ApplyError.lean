set_option autoImplicit false

/-! # Failed applications

The ways in which a domain fails to bring the host to its desired state.
-/

namespace HostAgent

/-- Why a domain could not apply its configuration. -/
inductive ApplyError
  /-- The published configuration could not be understood. -/
  | invalidInput (text : String)
  /-- The host refused the change. -/
  | host (text : String)
  | io (text : String)
  | internal (text : String)
deriving DecidableEq, Repr

/-- The wording of a failed application. -/
def ApplyError.message : ApplyError → String
  | .invalidInput text => "invalid desired state: " ++ text
  | .host text => "host mutation failed: " ++ text
  | .io text => "io error: " ++ text
  | .internal text => "internal error: " ++ text

end HostAgent
