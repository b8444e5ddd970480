import HostAgent.Addresses
import HostAgent.Domain.Host

set_option autoImplicit false

/-! # The addresses domain

Keeps the addresses of the host at those desired for the snapshot.
-/

namespace HostAgent.Addresses

/-- The name of the domain. -/
def name : String := "addresses"

/-- Whether the domain is switched off. -/
def isDisabled (i : Inputs Snapshot) : Bool :=
  ((i.overrides.switch? "addressManager" "disable").or
    (i.current.switch? "disable-address-manager")).getD false

/-- Whether the desired addresses changed. -/
def hasChanged (i : Inputs Snapshot) : Bool :=
  i.previous.isEmpty ||
    desiredAddresses i.previous i.overrides != desiredAddresses i.current i.overrides

/-- Applies the desired addresses. -/
def apply (i : Inputs Snapshot) (h : Host) : Attempt Host :=
  let addresses := desiredAddresses i.current i.overrides
  (h.attempt (.addresses addresses)).after
    [⟨.info, .domain name, "Configuring forwarded addresses",
      [("count", .number addresses.length)]⟩]

/-- The domain within a cycle. -/
def domain (i : Inputs Snapshot) : Domain Host where
  name := name
  disabled := .ok (isDisabled i)
  diff := .ok (hasChanged i)
  set := apply i

end HostAgent.Addresses
