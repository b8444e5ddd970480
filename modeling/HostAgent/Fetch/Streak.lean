import HostAgent.Number.Decimal

set_option autoImplicit false

/-! # Streaks of failed fetches

A single failed fetch is usually over at the next attempt and is not reported. The second one
in a row is, and the later ones of the same streak stay quiet until a success ends it. The
length of the streak stops growing at the largest number of thirty-two bits.
-/

namespace HostAgent

/-- The failed fetches since the last success. -/
structure Streak where
  length : Nat := 0
deriving DecidableEq, Repr

namespace Streak

/-- No failure yet. -/
def start : Streak := {}

/-- The length of a streak at which it is reported. -/
def reportedAt : Nat := 2

/-- The streak after one more failure. -/
def fail (s : Streak) : Streak := ⟨min (s.length + 1) Decimal.max32⟩

/-- The streak after a success. -/
def succeed (_ : Streak) : Streak := start

/-- Whether the failure that led to this streak is to be reported. -/
def isReported (s : Streak) : Bool := s.length == reportedAt

end Streak

end HostAgent
