import HostAgent.Domain.Host

set_option autoImplicit false

/-! # The accounts domain

Keeps the accounts of the host at those of the published keys.
-/

namespace HostAgent.Accounts

/-- The name of the domain. -/
def name : String := "accounts"

/-- The text of the published keys. -/
def publishedKeys? (snapshot : Snapshot) : Option String := snapshot.attribute? "windows-keys"

/-- Whether the domain is switched off. -/
def isDisabled (i : Inputs Snapshot) : Bool :=
  ((i.overrides.switch? "accountManager" "disable").or
    (i.current.switch? "disable-account-manager")).getD false

/-- Whether the published keys changed. -/
def hasChanged (i : Inputs Snapshot) : Bool :=
  i.previous.isEmpty || publishedKeys? i.previous != publishedKeys? i.current

/-- Applies the usable keys. -/
def apply (i : Inputs Snapshot) (h : Host) : Attempt Host :=
  let (keys, log) := AccountKey.readAll ((publishedKeys? i.current).getD "") i.now
  (h.attempt (.accounts keys)).after
    (log ++ [⟨.info, .domain name, "Provisioning accounts", [("count", .number keys.length)]⟩])

/-- The domain within a cycle. -/
def domain (i : Inputs Snapshot) : Domain Host where
  name := name
  disabled := .ok (isDisabled i)
  diff := .ok (hasChanged i)
  set := apply i

end HostAgent.Accounts
