import HostAgent.Dict
import HostAgent.Switch

set_option autoImplicit false

/-! # Published snapshots

The metadata service publishes the whole desired configuration of a machine at once. A
snapshot describes the machine and the project it belongs to. Everything in it may be left
out, so the snapshot without any content stands for "nothing applied yet".

Attributes are looked up on the machine first and on its project second. A switch attribute
that does not hold a switch text is passed over at either place.
-/

namespace HostAgent

/-- A network interface and the addresses published for it. -/
structure Interface where
  mac : String := ""
  forwardedIps : List String := []
  targetInstanceIps : List String := []
  ipAliases : List String := []
deriving DecidableEq

/-- The addresses published for an interface, as they are spelled. -/
def Interface.addresses (nic : Interface) : List String :=
  nic.forwardedIps ++ nic.targetInstanceIps ++ nic.ipAliases

/-- The part of a snapshot on the machine itself. -/
structure Machine where
  id : Nat := 0
  hostname : String := ""
  attributes : Dict String := ∅
  interfaces : List Interface := []
deriving DecidableEq

/-- The part of a snapshot on the project of the machine. -/
structure Project where
  projectId : String := ""
  attributes : Dict String := ∅
deriving DecidableEq

/-- The whole published configuration at one point in time. -/
structure Snapshot where
  machine : Machine := {}
  project : Project := {}
deriving DecidableEq

namespace Snapshot

/-- The snapshot without content. -/
def empty : Snapshot := {}

instance : Inhabited Snapshot := ⟨empty⟩

/-- Whether a snapshot has no content. -/
def isEmpty (s : Snapshot) : Bool := s == empty

/-- The value of an attribute. -/
def attribute? (s : Snapshot) (name : String) : Option String :=
  (s.machine.attributes.get? name).or (s.project.attributes.get? name)

/-- The switch of an attribute. -/
def switch? (s : Snapshot) (name : String) : Option Bool :=
  ((s.machine.attributes.get? name).bind Switch.read).or
    ((s.project.attributes.get? name).bind Switch.read)

end Snapshot

end HostAgent
