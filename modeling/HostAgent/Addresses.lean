import HostAgent.Cluster

set_option autoImplicit false

/-! # Addresses of a machine

A machine carries the addresses published for its interfaces, except those that an enabled
cluster takes charge of.
-/

namespace HostAgent

/-- The addresses published for the interfaces of a machine, trimmed, without blank ones. -/
def Snapshot.publishedAddresses (s : Snapshot) : List String :=
  ((s.machine.interfaces.flatMap Interface.addresses).map trim).filter fun a => !a.isEmpty

/-- The addresses that the machine itself has to carry, in order. -/
def desiredAddresses (snapshot : Snapshot) (overrides : Overrides) : List String :=
  let cluster := ClusterSettings.resolve snapshot overrides
  sortDistinct (snapshot.publishedAddresses.filter fun a => !cluster.owns a)

end HostAgent
