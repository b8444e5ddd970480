import HostAgent.Text.Composed
import HostAgent.Text.Direction
import HostAgent.Text.Joining
import HostAgent.Url.HostName.Image
import HostAgent.Url.HostName.Punycode

set_option autoImplicit false

/-! # Names of hosts

The name of a host consists of labels with dots between them. It may be given in any script, and
in any of the shapes that count as the same. `ascii?` is the one form under which the host is
known: small letters, each label with characters beyond ASCII written in Punycode behind a mark.

A label may also be given in Punycode. It has to be what `ascii?` would write.
-/

namespace HostAgent.Url.HostName

/-- What stands before a label in Punycode. -/
def mark : List Char := ['x', 'n', '-', '-']

/-- The longest label beyond ASCII, in characters. -/
def maxLabelSize : Nat := 1000

/-- The longest text in Punycode. -/
def maxCodedSize : Nat := 2000

/-- The characters that no name holds. -/
def isForbidden (c : Char) : Bool :=
  c.toNat ≤ 0x20 || c.toNat == 0x7F || "%#/:<>?@[\\]^|".toList.contains c

/-- Whether a text is in ASCII. -/
def isAscii (cs : List Char) : Bool := cs.all (·.toNat < 0x80)

/-- The label that a text in Punycode stands for. At least one of its characters is inserted,
each is its own image, and they are in composed form. -/
def decodeLabel? (coded : List Char) : Option (List Char) := do
  if !isAscii coded ∨ maxCodedSize < coded.length then none
  if coded.isEmpty ∨ coded.getLast? = some '-' then none
  let label ← Punycode.decode? coded
  if label.all (fun c => isSettled c && !isForbidden c) ∧ Composed.ofText label = label then
    return label
  else none

/-- A label as it is meant: out of Punycode, if it is given in that. -/
def readLabel? (label : List Char) : Option (List Char) :=
  if mark.isPrefixOf label then decodeLabel? (label.drop mark.length) else some label

/-- Whether a label starts with no mark, has joiners only where they make sense, and is not too
long. -/
def isSound (label : List Char) : Bool :=
  !(label.head?.any isMark) && Joining.allMakeSense [] label
    && (isAscii label || label.length ≤ maxLabelSize)

/-- Whether each label of a name that leads to the left somewhere can be read in one way only. -/
def runOneWay (labels : List (List Char)) : Bool :=
  let directions := labels.map (·.map Direction.ofChar)
  !directions.any (·.any Direction.leadsLeft) || directions.all Direction.runsOneWay

/-- A label in ASCII. -/
def spell (label : List Char) : List Char :=
  if isAscii label then label else mark ++ Punycode.encode label

/-- The form in ASCII under which a host is known, unless the text is no name. -/
def ascii? (cs : List Char) : Option (List Char) := do
  let name := Composed.ofText (← cs.mapM image?).flatten
  if name.any isForbidden then none
  let labels ← (splitChars '.' name).mapM readLabel?
  if labels.all isSound ∧ runOneWay labels then
    return ['.'].intercalate (labels.map spell)
  else none

end HostAgent.Url.HostName
