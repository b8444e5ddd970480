import HostAgent.ApplyError
import HostAgent.Text.Quoted

set_option autoImplicit false

/-! # Outcomes of a cycle

What became of each domain in a cycle: nothing beyond the first question for a domain that is
switched off, nothing beyond the second for one without changes, and otherwise the end of its
application. A report lists the outcomes in the order of registration.
-/

namespace HostAgent

/-- What became of a domain in a cycle. -/
inductive Outcome
  | disabled
  | unchanged
  | applied
  | failed (text : String)
  | panicked (text : String)
deriving DecidableEq, Repr

namespace Outcome

/-- Whether the outcome is that of an application that ended by itself. -/
def attempted : Outcome → Bool
  | .applied | .failed _ => true
  | _ => false

/-- Whether the outcome is a failure or a panic. -/
def isFailure : Outcome → Bool
  | .failed _ | .panicked _ => true
  | _ => false

/-- The wording of an outcome. -/
def message : Outcome → String
  | .disabled => "disabled"
  | .unchanged => "unchanged"
  | .applied => "applied"
  | .failed text => "failed: " ++ text
  | .panicked text => "panicked: " ++ text

end Outcome

/-- How a panic of a task is reported to the one who waits for it. -/
def panicText (task : Nat) (message : String) : String :=
  "task " ++ toString task ++ " panicked with message " ++ quoted message

/-- The outcomes of one cycle in the order of registration. -/
structure Report where
  outcomes : List (String × Outcome) := []
deriving DecidableEq, Repr

namespace Report

/-- The outcome of the named domain. -/
def outcome? (r : Report) (name : String) : Option Outcome :=
  (r.outcomes.find? fun entry => entry.1 == name).map (·.2)

/-- The number of domains whose application was completed. -/
def applied (r : Report) : Nat := r.outcomes.countP fun entry => entry.2 == .applied

/-- The number of domains that failed or panicked. -/
def failed (r : Report) : Nat := r.outcomes.countP fun entry => entry.2.isFailure

end Report

end HostAgent
