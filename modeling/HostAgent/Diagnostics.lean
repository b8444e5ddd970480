import HostAgent.Json.Decode
import HostAgent.Snapshot.Basic

set_option autoImplicit false

/-! # Diagnostics requests

An operator asks for diagnostics by publishing a request: the address to which they are
uploaded, an optional expiry, and whether to trace.
-/

namespace HostAgent

/-- A request to collect diagnostics. -/
structure DiagnosticsRequest where
  signedUrl : String := ""
  expireOn : Option String := none
  trace : Bool := false
deriving DecidableEq, Repr

namespace DiagnosticsRequest

/-- The record of a request. -/
def record : Json.Record DiagnosticsRequest where
  name := "struct DiagnosticsRequest"
  blank := {}
  fields := [
    .stored "signedUrl" true Json.text fun r v => { r with signedUrl := v },
    .stored "expireOn" false Json.optionalText fun r v => { r with expireOn := v },
    .stored "trace" false Json.flag fun r v => { r with trace := v }]

/-- The text of the request that a snapshot publishes, if it publishes one. -/
def published? (snapshot : Snapshot) : Option String :=
  ((snapshot.attribute? "diagnostics").map trim).filter fun text => !text.isEmpty

/-- The request that a text holds, or the wording of the fault. -/
def parse (text : String) : Except String DiagnosticsRequest :=
  (Json.decode record.read text.toList).mapError fun fault => fault.message text.toList

end DiagnosticsRequest

end HostAgent
