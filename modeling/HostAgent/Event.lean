import HostAgent.Text.Quoted

set_option autoImplicit false

/-! # Log events

Everything the agent reports goes through events: a level, the component that speaks, a
message, and named fields in the order in which they are written. A log is a list of events,
oldest first. Functions that report return their log beside their result.

A field value is kept as what it is, because the places where events are printed differ in
the form they give to it: a word is quoted on a text line, a number stays a number in a
structured one.
-/

namespace HostAgent

/-- How much an event matters. -/
inductive Level
  | info
  | warn
  | error
deriving DecidableEq, Repr

/-- The part of the agent that reports an event. -/
inductive Component
  | program
  | agent
  | watch
  | dispatch
  | domain (name : String)
  | overrides
  | service
deriving DecidableEq, Repr

/-- The value of a field: a text to show as it stands, a word, a number or a switch. -/
inductive FieldValue
  | shown (text : String)
  | word (text : String)
  | number (n : Nat)
  | flag (b : Bool)
deriving DecidableEq, Repr

/-- The bare text of a value. -/
def FieldValue.text : FieldValue → String
  | .shown t => t
  | .word t => t
  | .number n => toString n
  | .flag b => if b then "true" else "false"

/-- One line of the log. -/
structure Event where
  level : Level
  component : Component
  message : String
  fields : List (String × FieldValue) := []
deriving DecidableEq, Repr

/-- Events in the order in which they were reported. -/
abbrev Log := List Event

/-- The word for a level. -/
def Level.name : Level → String
  | .info => "INFO"
  | .warn => "WARN"
  | .error => "ERROR"

end HostAgent
