import HostAgent.Number.Decimal
import HostAgent.Text.Blank

set_option autoImplicit false

/-! # Instants and expiry

An `Instant` is a point of time on the universal time scale. Published expiry dates are
written as calendar date, time of day and offset from universal time (`2030-01-31T12:00:00Z`,
`2030-01-31 12:00:00.5+01:00`); years have four digits, a leap second counts as a second that
lasts two, and digits of a second beyond the ninth are cut off.

An expiry that is absent or blank never passes. One that cannot be read has always passed.
-/

namespace HostAgent

/-- Whole seconds since the start of 1970, and nanoseconds on top of them; only a leap second
has `10^9` nanoseconds or more. -/
structure Instant where
  seconds : Int
  nanos : Nat
deriving DecidableEq, Repr

namespace Instant

/-- Whether `a` is strictly before `b`. -/
def before (a b : Instant) : Bool :=
  a.seconds < b.seconds || (a.seconds == b.seconds && a.nanos < b.nanos)

/-- Whether a year has a 29th of February. -/
def isLeapYear (year : Nat) : Bool :=
  year % 4 == 0 && (year % 100 != 0 || year % 400 == 0)

/-- The days of a month from 1 to 12. -/
def daysInMonth (year month : Nat) : Nat :=
  match month with
  | 2 => if isLeapYear year then 29 else 28
  | 4 | 6 | 9 | 11 => 30
  | _ => 31

/-- The days of the year before the given month. -/
def daysBeforeMonth (year month : Nat) : Nat :=
  (List.range (month - 1)).foldl (fun days m => days + daysInMonth year (m + 1)) 0

/-- The days from the start of 1970 to the given day. -/
def dayNumber (year month day : Nat) : Int :=
  let leapYearsBefore := (year + 3) / 4 - (year + 99) / 100 + (year + 399) / 400
  (365 * year + leapYearsBefore + daysBeforeMonth year month + (day - 1) : Nat) - 719528

/-- A fixed number of digits. -/
def digits? (count : Nat) (cs : List Char) : Option (Nat × List Char) :=
  match count with
  | 0 => some (0, cs)
  | count + 1 => do
    let (high, rest) ← digits? count cs
    match rest with
    | [] => none
    | c :: rest => return (high * 10 + (← Decimal.digit? c), rest)

/-- One of the given characters. -/
def oneOf? (allowed : List Char) : List Char → Option (List Char)
  | [] => none
  | c :: rest => if c ∈ allowed then some rest else none

/-- The nanoseconds of a fraction of a second, if there is one. -/
def fraction? (cs : List Char) : Option (Nat × List Char) :=
  match cs with
  | '.' :: rest =>
    let digits := rest.takeWhile fun c => (Decimal.digit? c).isSome
    if digits.isEmpty then none
    else do
      let (n, _) ← digits? 9 (digits ++ List.replicate 9 '0')
      return (n, rest.drop digits.length)
  | cs => some (0, cs)

/-- The offset from universal time in seconds. -/
def offset? : List Char → Option (Int × List Char)
  | [] => none
  | sign :: rest =>
    if sign = 'Z' ∨ sign = 'z' then some (0, rest)
    else do
      let negative ← if sign = '+' then some false
        else if sign = '-' ∨ sign = '\u2212' then some true
        else none
      let (hours, rest) ← digits? 2 rest
      let rest ← oneOf? [':'] rest
      let (minutes, rest) ← digits? 2 rest
      if hours ≤ 23 ∧ minutes ≤ 59 then
        let seconds : Int := (hours * 60 + minutes) * 60
        some (if negative then -seconds else seconds, rest)
      else none

/-- The instant that a text denotes. -/
def read? (s : String) : Option Instant := do
  let (year, rest) ← digits? 4 s.toList
  let rest ← oneOf? ['-'] rest
  let (month, rest) ← digits? 2 rest
  let rest ← oneOf? ['-'] rest
  let (day, rest) ← digits? 2 rest
  let rest ← oneOf? ['T', 't', ' '] rest
  let (hour, rest) ← digits? 2 rest
  let rest ← oneOf? [':'] rest
  let (minute, rest) ← digits? 2 rest
  let rest ← oneOf? [':'] rest
  let (second, rest) ← digits? 2 rest
  let (nanos, rest) ← fraction? rest
  let (offset, rest) ← offset? rest
  guard rest.isEmpty
  guard (1 ≤ month ∧ month ≤ 12 ∧ 1 ≤ day ∧ day ≤ daysInMonth year month)
  guard (hour ≤ 23 ∧ minute ≤ 59 ∧ second ≤ 60)
  let timeOfDay := (hour * 60 + minute) * 60 + min second 59
  return {
    seconds := dayNumber year month day * 86400 + timeOfDay - offset
    nanos := if second = 60 then nanos + 1000000000 else nanos }

end Instant

/-- Whether an expiry has passed at `now`. -/
def hasExpired (expiry : Option String) (now : Instant) : Bool :=
  match expiry with
  | none => false
  | some s =>
    let s := trim s
    if s.isEmpty then false
    else
      match Instant.read? s with
      | none => true
      | some t => t.before now

end HostAgent
