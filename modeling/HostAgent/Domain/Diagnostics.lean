import HostAgent.Domain.Host

set_option autoImplicit false

/-! # The diagnostics domain

Collects diagnostics when a new request is published. The domain is off unless it is switched
on.
-/

namespace HostAgent.Diagnostics

/-- The name of the domain. -/
def name : String := "diagnostics"

/-- Whether the domain is switched off. -/
def isDisabled (i : Inputs Snapshot) : Bool :=
  !((i.overrides.switch? "diagnostics" "enable").or
    (i.current.switch? "enable-diagnostics")).getD false

/-- Whether there is a request other than the last one. -/
def hasChanged (i : Inputs Snapshot) : Bool :=
  let current := DiagnosticsRequest.published? i.current
  current.isSome && current != DiagnosticsRequest.published? i.previous

/-- Collects what the request asks for, unless the request has expired. -/
def apply (i : Inputs Snapshot) (h : Host) : Attempt Host :=
  match DiagnosticsRequest.published? i.current with
  | none => h.untouched .completed
  | some text =>
    match DiagnosticsRequest.parse text with
    | .error fault => h.untouched (.refused (.invalidInput ("diagnostics request: " ++ fault)))
    | .ok request =>
      if hasExpired request.expireOn i.now then
        (h.untouched .completed).after
          [⟨.info, .domain name, "Diagnostics request expired, ignoring", []⟩]
      else
        (h.attempt (.diagnostics request)).after
          [⟨.info, .domain name, "Collecting diagnostics", [("trace", .flag request.trace)]⟩]

/-- The domain within a cycle. -/
def domain (i : Inputs Snapshot) : Domain Host where
  name := name
  disabled := .ok (isDisabled i)
  diff := .ok (hasChanged i)
  set := apply i

end HostAgent.Diagnostics
