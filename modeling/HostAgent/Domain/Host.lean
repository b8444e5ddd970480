import HostAgent.Domain.Basic
import HostAgent.Host

set_option autoImplicit false

/-! # Applications to a host

The domains of the agent apply their configuration by one operation on the host at most.
-/

namespace HostAgent

/-- An operation on a host as an application of a configuration. -/
def Host.attempt (h : Host) (op : HostOperation) : Attempt Host :=
  match h.perform op with
  | (.ok (), host, log) => ⟨.completed, host, log⟩
  | (.error error, host, log) => ⟨.refused error, host, log⟩

/-- An application that ends without an operation. -/
def Host.untouched (h : Host) (ending : Ending) : Attempt Host := ⟨ending, h, []⟩

/-- An application with a report before its own. -/
def Attempt.after {H : Type} (a : Attempt H) (log : Log) : Attempt H :=
  { a with log := log ++ a.log }

end HostAgent
