import HostAgent.Domain.Host

set_option autoImplicit false

/-! # The cluster domain

Keeps the cluster membership of the host at the settings in force. A membership that is
switched off by publication has to be left, so only a local override takes this domain out of
a cycle.
-/

namespace HostAgent.Cluster

/-- The name of the domain. -/
def name : String := "cluster"

/-- Whether the domain is switched off. -/
def isDisabled (i : Inputs Snapshot) : Bool :=
  (i.overrides.switch? "wsfc" "disable").getD false

/-- Whether the settings in force changed. -/
def hasChanged (i : Inputs Snapshot) : Bool :=
  i.previous.isEmpty ||
    ClusterSettings.resolve i.previous i.overrides != ClusterSettings.resolve i.current i.overrides

/-- Applies the settings in force. -/
def apply (i : Inputs Snapshot) (h : Host) : Attempt Host :=
  let settings := ClusterSettings.resolve i.current i.overrides
  (h.attempt (.cluster settings)).after
    [⟨.info, .domain name, "Configuring cluster membership",
      [("enabled", .flag settings.enabled), ("port", .number settings.agentPort),
        ("addresses", .shown (quotedList settings.addresses))]⟩]

/-- The domain within a cycle. -/
def domain (i : Inputs Snapshot) : Domain Host where
  name := name
  disabled := .ok (isDisabled i)
  diff := .ok (hasChanged i)
  set := apply i

end HostAgent.Cluster
