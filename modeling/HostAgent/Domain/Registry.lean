import HostAgent.Domain.Accounts
import HostAgent.Domain.Addresses
import HostAgent.Domain.Cluster
import HostAgent.Domain.Diagnostics

set_option autoImplicit false

/-! # The domains of the agent

All domains that the agent knows, in the order of their registration. The order shows in
reports only.
-/

namespace HostAgent

/-- The domains of the agent. -/
def Registry.agent : Registry Snapshot Host := [
  ⟨Addresses.name, Addresses.domain⟩,
  ⟨Accounts.name, Accounts.domain⟩,
  ⟨Cluster.name, Cluster.domain⟩,
  ⟨Diagnostics.name, Diagnostics.domain⟩]

end HostAgent
