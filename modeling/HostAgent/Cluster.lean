import HostAgent.Overrides
import HostAgent.Snapshot.Basic
import HostAgent.Text.Order
import HostAgent.Text.Split

set_option autoImplicit false

/-! # Cluster membership

A machine may belong to a failover cluster. The cluster then owns the addresses on its list,
and the machine answers health checks on the agent port. Local overrides come before
published attributes in each of the three settings. Listing addresses implies membership
unless a switch says otherwise.
-/

namespace HostAgent

/-- The membership that is in force. -/
structure ClusterSettings where
  enabled : Bool
  addresses : List String
  agentPort : Nat
deriving DecidableEq, Repr

namespace ClusterSettings

/-- The port for health checks unless one is set. -/
def defaultPort : Nat := 59998

/-- The distinct addresses of a list with commas, in order. -/
def readAddresses (list : String) : List String :=
  sortDistinct (((splitText ',' list).map trim).filter fun a => !a.isEmpty)

/-- The settings that a snapshot and the overrides amount to. -/
def resolve (snapshot : Snapshot) (overrides : Overrides) : ClusterSettings :=
  let list := (overrides.get? "wsfc" "addresses").or (snapshot.attribute? "wsfc-addrs")
  let addresses := readAddresses (list.getD "")
  let enabled := (overrides.switch? "wsfc" "enable").or (snapshot.switch? "enable-wsfc")
  let port := (overrides.port? "wsfc" "port").or
    ((snapshot.attribute? "wsfc-agent-port").bind Overrides.readPort)
  { enabled := enabled.getD (!addresses.isEmpty)
    addresses
    agentPort := port.getD defaultPort }

/-- Whether the cluster takes charge of an address. -/
def owns (c : ClusterSettings) (address : String) : Bool :=
  c.enabled && c.addresses.contains address

end ClusterSettings

end HostAgent
