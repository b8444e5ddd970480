set_option autoImplicit false

/-! # Unsigned decimal numbers

A number text is an optional plus sign and at least one ASCII digit. Reading it is bounded:
the reader goes through the digits from the left and stops at the first character that is no
digit, or at the first digit that lifts the value over the bound. Leading zeros are free.
-/

namespace HostAgent.Decimal

/-- Why a text is not a number within the bound. -/
inductive Fault
  | empty
  | invalidDigit
  | tooLarge
deriving DecidableEq, Repr

/-- The wording of a fault. -/
def Fault.message : Fault → String
  | .empty => "cannot parse integer from empty string"
  | .invalidDigit => "invalid digit found in string"
  | .tooLarge => "number too large to fit in target type"

/-- The value of an ASCII digit. -/
def digit? (c : Char) : Option Nat :=
  if '0' ≤ c ∧ c ≤ '9' then some (c.toNat - '0'.toNat) else none

/-- Reads digits onto `value`. -/
def readDigits (bound value : Nat) : List Char → Except Fault Nat
  | [] => .ok value
  | c :: rest =>
    match digit? c with
    | none => .error .invalidDigit
    | some d =>
      if value * 10 + d ≤ bound then readDigits bound (value * 10 + d) rest
      else .error .tooLarge

/-- Reads a number text whose value is at most `bound`. -/
def readChars (bound : Nat) : List Char → Except Fault Nat
  | [] => .error .empty
  | ['+'] => .error .invalidDigit
  | '+' :: digits => readDigits bound 0 digits
  | digits => readDigits bound 0 digits

/-- Reads a number text whose value is at most `bound`. -/
def read (bound : Nat) (s : String) : Except Fault Nat := readChars bound s.toList

/-- The largest number of sixteen bits. -/
def max16 : Nat := Nat.pow 2 16 - 1

/-- The largest number of thirty-two bits. -/
def max32 : Nat := Nat.pow 2 32 - 1

/-- The largest number of sixty-four bits. -/
def max64 : Nat := Nat.pow 2 64 - 1

end HostAgent.Decimal
