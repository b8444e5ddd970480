import HostAgent.ApplyError
import HostAgent.Event
import HostAgent.Instant
import HostAgent.Overrides

set_option autoImplicit false

/-! # Configuration domains

A domain is a part of a host's configuration that is brought up to date on its own. For every
cycle a fresh instance of each domain is built from the inputs of the cycle: the snapshot that
the last cycle saw, the one just fetched, the overrides in force and a reading of the clock.

An instance answers two questions, whether it is switched off and whether anything changed,
and applies the configuration to the host in one step, which may take time before it takes
effect. Each of the three calls may break off in a panic.
-/

namespace HostAgent

/-- What the domains of one cycle are built from. -/
structure Inputs (S : Type) where
  previous : S
  current : S
  overrides : Overrides
  now : Instant

/-- How an application of a configuration ended. -/
inductive Ending
  | completed
  | refused (error : ApplyError)
  | panicked (message : String)
deriving DecidableEq, Repr

/-- An application of a configuration: how it ended, the host after it, and the report. -/
structure Attempt (H : Type) where
  ending : Ending
  host : H
  log : Log := []

/-- A domain within one cycle. The first two calls fail with the message of a panic. -/
structure Domain (H : Type) where
  name : String
  /-- Whether the domain is switched off. -/
  disabled : Except String Bool
  /-- Whether there is anything to apply. -/
  diff : Except String Bool
  /-- The time that passes between the start of an application and its effect. -/
  delay : Nat := 0
  /-- Applies the configuration. -/
  set : H → Attempt H

/-- A known domain: its name, and how it is built for a cycle. -/
structure Factory (S H : Type) where
  name : String
  build : Inputs S → Domain H

/-- The known domains in the order of their registration. -/
abbrev Registry (S H : Type) := List (Factory S H)

namespace Registry

variable {S H : Type}

/-- The names of the known domains. -/
def names (r : Registry S H) : List String := r.map (·.name)

/-- One instance of every known domain. -/
def instantiate (r : Registry S H) (inputs : Inputs S) : List (Domain H) :=
  r.map (·.build inputs)

end Registry

end HostAgent
