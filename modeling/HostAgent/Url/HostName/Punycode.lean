set_option autoImplicit false

/-! # Punycode

A label of a name is written in ASCII by putting its ASCII characters first and then, behind a
hyphen, how the others are to be inserted. They are inserted in the order of their code points,
and each insertion is one number: how many places it is further on than the one before, where
the places of all code points in between count.

A number is written in digits of base 36, the lowest first. A digit below a threshold ends it.
The thresholds follow the size of the numbers so far, as the `bias` tells. Numbers must fit
into 32 bits.
-/

namespace HostAgent.Url.HostName.Punycode

/-- The value of a digit: letters stand for 0 to 25, decimal digits for 26 to 35. -/
def digit? (c : Char) : Option Nat :=
  if c.isLower then some (c.toNat - 'a'.toNat)
  else if c.isUpper then some (c.toNat - 'A'.toNat)
  else if c.isDigit then some (c.toNat - '0'.toNat + 26)
  else none

/-- The digit of a value below 36. -/
def digitChar (value : Nat) : Char :=
  if value < 26 then Char.ofNat ('a'.toNat + value) else Char.ofNat ('0'.toNat + (value - 26))

/-- The threshold of the digit whose place is `place`, in steps of 36. -/
def threshold (place bias : Nat) : Nat :=
  if place ≤ bias then 1 else if bias + 26 ≤ place then 26 else place - bias

theorem threshold_pos (place bias : Nat) : 1 ≤ threshold place bias := by
  unfold threshold
  repeat' split
  all_goals omega

/-- A number cut down until it is small, and 36 for every cut. -/
def cutDown (n bias : Nat) : Nat × Nat :=
  if 455 < n then cutDown (n / 35) (bias + 36) else (n, bias)
termination_by n
decreasing_by exact Nat.div_lt_self (by omega) (by decide)

/-- The bias after the number `n`, which inserted the character number `count`. -/
def adapt (n count : Nat) (first : Bool) : Nat :=
  let n := if first then n / 700 else n / 2
  let (n, bias) := cutDown (n + n / count) 0
  bias + 36 * n / (n + 38)

/-- The code point from which insertions start. -/
def firstCode : Nat := 0x80

/-- The bias at the start. -/
def firstBias : Nat := 72

/-- The place of the first digit of a number. -/
def firstPlace : Nat := 36

/-! ## Reading -/

/-- How far the insertions of a label have been read. -/
structure Reading where
  /-- The label so far. -/
  text : List Char
  /-- The code point inserted last. -/
  code : Nat := firstCode
  /-- The position behind the insertion before. -/
  position : Nat := 0
  bias : Nat := firstBias
  /-- The position with the number that is being read. -/
  sum : Nat := 0
  /-- What the next digit counts, and its place. -/
  weight : Nat := 1
  place : Nat := firstPlace

/-- Whether a number fits. -/
def fits (n : Nat) : Bool := n < 0x100000000

/-- Inserts the character that a complete number stands for. -/
def Reading.insert? (r : Reading) : Option Reading :=
  let count := r.text.length + 1
  let code := r.code + r.sum / count
  let position := r.sum % count
  if h : code.isValidChar then
    some {
      text := r.text.insertIdx position (Char.ofNatAux code h)
      code
      position := position + 1
      bias := adapt (r.sum - r.position) count (r.position == 0)
      sum := position + 1 }
  else none

/-- Reads one digit. -/
def Reading.step? (r : Reading) (c : Char) : Option Reading :=
  match digit? c with
  | none => none
  | some digit =>
    let sum := r.sum + digit * r.weight
    let bound := threshold r.place r.bias
    let weight := r.weight * (36 - bound)
    if !fits sum then none
    else if digit < bound then Reading.insert? { r with sum }
    else if !fits weight then none
    else some { r with sum, weight, place := r.place + 36 }

/-- The characters before the last hyphen, and those after it. -/
def splitLast (cs : List Char) : List Char × List Char :=
  let after := (cs.reverse.takeWhile (· != '-')).reverse
  if after.length + 1 < cs.length then (cs.take (cs.length - after.length - 1), after)
  else ([], cs)

/-- The label that is written so. -/
def decode? (cs : List Char) : Option (List Char) := do
  let (plain, insertions) := splitLast cs
  let r ← insertions.foldlM Reading.step? { text := plain }
  if r.place = firstPlace then return r.text else none

/-! ## Writing -/

/-- The digits of a number. -/
def digits (bias place n : Nat) : List Char :=
  let bound := threshold place bias
  if n < bound then [digitChar n]
  else
    let rest := n - bound
    digitChar (bound + rest % (36 - bound)) :: digits bias (place + 36) (rest / (36 - bound))
termination_by n
decreasing_by
  have h := threshold_pos place bias
  exact Nat.lt_of_le_of_lt (Nat.div_le_self _ _) (by omega)

/-- How far a label has been written: the digits so far, how many places were passed since the
last insertion, the bias, and how many characters are in place. -/
structure Writing where
  digits : List Char := []
  passed : Nat := 0
  bias : Nat := firstBias
  count : Nat

/-- Passes a character of the label while `code` is inserted; `plain` characters were in place
from the start. -/
def Writing.pass (plain code : Nat) (w : Writing) (c : Char) : Writing :=
  if c.toNat < code then { w with passed := w.passed + 1 }
  else if c.toNat = code then
    { digits := w.digits ++ Punycode.digits w.bias firstPlace w.passed
      bias := adapt w.passed (w.count + 1) (w.count == plain)
      count := w.count + 1 }
  else w

/-- Writes the insertions of all characters with the given code points; `last` is the code point
behind which the places have not been counted yet. -/
def writeCodes (cs : List Char) (plain : Nat) : Nat → Writing → List Nat → List Char
  | _, w, [] => w.digits
  | last, w, code :: rest =>
    let w := { w with passed := w.passed + (code - last) * (w.count + 1) }
    let w := cs.foldl (Writing.pass plain code) w
    writeCodes cs plain (code + 1) { w with passed := w.passed + 1 } rest

/-- The code points of a text beyond ASCII, each once, in ascending order. -/
def codes (cs : List Char) : List Nat :=
  (((cs.map Char.toNat).filter (firstCode ≤ ·)).mergeSort (· ≤ ·)).eraseDups

/-- A label in ASCII. -/
def encode (cs : List Char) : List Char :=
  let plain := cs.filter (·.toNat < firstCode)
  (if plain.isEmpty then [] else plain ++ ['-'])
    ++ writeCodes cs plain.length firstCode { count := plain.length } (codes cs)

end HostAgent.Url.HostName.Punycode
