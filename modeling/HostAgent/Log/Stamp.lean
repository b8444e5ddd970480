import HostAgent.Instant

set_option autoImplicit false

/-! # Time stamps of log lines

A log line starts with the time of its event: calendar date and time of day on the universal
time scale, to the microsecond.
-/

namespace HostAgent.Instant

/-- A number with at least the given number of digits. -/
def wide (width n : Nat) : String :=
  let digits := toString n
  String.ofList (List.replicate (width - digits.length) '0') ++ digits

/-- The year that holds a day, which must not lie before 1970. -/
def yearOf (day : Int) : Nat :=
  let guess := ((day + 719528) * 400 / 146097).toNat
  if day < dayNumber guess 1 1 then guess - 1
  else if dayNumber (guess + 1) 1 1 ≤ day then guess + 1
  else guess

/-- The month that holds a day of a year. -/
def monthOf (year : Nat) (day : Int) : Nat :=
  ((List.range 12).filter fun m => dayNumber year (m + 1) 1 ≤ day).length

/-- The stamp of an instant that does not lie before 1970. -/
def stamp (t : Instant) : String :=
  let day := t.seconds / 86400
  let second := (t.seconds % 86400).toNat
  let year := yearOf day
  let month := monthOf year day
  let dayOfMonth := (day - dayNumber year month 1).toNat + 1
  wide 4 year ++ "-" ++ wide 2 month ++ "-" ++ wide 2 dayOfMonth ++ "T"
    ++ wide 2 (second / 3600) ++ ":" ++ wide 2 (second / 60 % 60) ++ ":" ++ wide 2 (second % 60)
    ++ "." ++ wide 6 (t.nanos / 1000) ++ "Z"

end HostAgent.Instant
