import HostAgent.Account.Key
import HostAgent.ApplyError
import HostAgent.Cluster
import HostAgent.Diagnostics

set_option autoImplicit false

/-! # The host

The host records the configuration that was applied to it last. Each operation on it belongs
to one domain and touches that domain's part of the record only; applying what is recorded
already changes nothing. `mutations` counts the operations that did change something; it is kept
in 64 bits, whose end no run comes near, and is unbounded here.

Operations of chosen domains can be made to fail. A failed operation changes nothing.
-/

namespace HostAgent

/-- What is recorded of a host. -/
structure HostState where
  addresses : List String := []
  accounts : List String := []
  uploads : List String := []
  cluster : Option ClusterSettings := none
  mutations : Nat := 0
deriving DecidableEq, Repr

/-- A host: its record, and the domains whose operations fail. -/
structure Host where
  state : HostState := {}
  failing : List String := []
deriving DecidableEq, Repr

/-- An operation on a host. -/
inductive HostOperation
  /-- Makes these the addresses of the host. -/
  | addresses (addresses : List String)
  /-- Creates or updates the accounts of these keys. -/
  | accounts (keys : List AccountKey)
  /-- Collects diagnostics and uploads them. -/
  | diagnostics (request : DiagnosticsRequest)
  /-- Joins, updates or leaves the cluster. -/
  | cluster (settings : ClusterSettings)
deriving DecidableEq, Repr

namespace HostOperation

/-- The domain that an operation belongs to. -/
def domain : HostOperation → String
  | .addresses _ => "addresses"
  | .accounts _ => "accounts"
  | .diagnostics _ => "diagnostics"
  | .cluster _ => "cluster"

/-- The record after an operation, the count of mutations aside. -/
def applyTo (s : HostState) : HostOperation → HostState
  | .addresses list => { s with addresses := list }
  | .accounts keys => { s with accounts := sortTexts (keys.map (·.userName)) }
  | .diagnostics request =>
    if request.signedUrl ∈ s.uploads then s
    else { s with uploads := s.uploads ++ [request.signedUrl] }
  | .cluster settings => { s with cluster := some settings }

/-- The report on an operation that changed the record. -/
def report : HostOperation → Event
  | .diagnostics request =>
    ⟨.info, .domain "backend", "[MOCK] Diagnostics collected", [("trace", .flag request.trace)]⟩
  | op =>
    ⟨.info, .domain "backend", "[MOCK] Host state updated", [("domain", .word op.domain)]⟩

end HostOperation

namespace Host

/-- A host on which nothing was applied yet. -/
def fresh : Host := {}

/-- The host with the operations of a domain failing, or not. -/
def setFailing (h : Host) (domain : String) (fail : Bool) : Host :=
  let others := h.failing.filter (· != domain)
  { h with failing := if fail then domain :: others else others }

/-- The result of an operation, the host after it, and the report on it. -/
def perform (h : Host) (op : HostOperation) : Except ApplyError Unit × Host × Log :=
  if op.domain ∈ h.failing then
    (.error (.host ("mock host configured to fail " ++ op.domain)), h, [])
  else
    let next := op.applyTo h.state
    if next = h.state then (.ok (), h, [])
    else (.ok (), { h with state := { next with mutations := h.state.mutations + 1 } }, [op.report])

end Host

end HostAgent
