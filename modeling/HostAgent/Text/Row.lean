import HostAgent.Number.Hexadecimal
import HostAgent.Text.Split

set_option autoImplicit false

/-! # Rows of numbers

Large tables of characters are kept as rows of code points in base sixteen with spaces between
them.
-/

namespace HostAgent.Row

/-- A number of a row. -/
def number (cs : List Char) : Nat := (Hexadecimal.value? cs).getD 0

/-- The numbers of a row. -/
def numbers (row : String) : List Nat := (splitChars ' ' row.toList).map number

/-- The characters that are written as numbers with plus signs between them. -/
def characters (cs : List Char) : List Char :=
  (splitChars '+' cs).map fun digits => Char.ofNat (number digits)

end HostAgent.Row
