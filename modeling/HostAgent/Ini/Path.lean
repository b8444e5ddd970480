import HostAgent.Ini.Cursor

set_option autoImplicit false

/-! # Dotted names

A name at the top level of a settings file may lead into a group: `wsfc.port` is the key
`port` of the group `wsfc`. A name may also count elements, as in `hosts[0]`. Parts of such a
name consist of ASCII letters, digits, hyphens and underscores; any other name stands for
itself.
-/

namespace HostAgent.Ini

/-- A step below the first part of a name. -/
inductive PathStep
  | child (name : String)
  | element
deriving DecidableEq, Repr

/-- A name: its first part, and the steps below it. -/
structure Path where
  root : String
  steps : List PathStep := []
deriving DecidableEq, Repr

namespace Path

/-- A character of a part of a name. -/
def isPartChar (c : Char) : Bool := c.isAlphanum || c == '-' || c == '_'

/-- A part of a name, and what follows it. -/
def readPart? (cs : List Char) : Option (String × List Char) :=
  let part := cs.takeWhile isPartChar
  if part.isEmpty then none else some (String.ofList part, cs.dropWhile isPartChar)

/-- Whether digits after an optional minus sign make up a number of 64 bits with a sign. -/
def isIndex (cs : List Char) : Bool :=
  let (negative, digits) := match cs with
    | '-' :: rest => (true, rest)
    | cs => (false, cs)
  !digits.isEmpty && digits.all Char.isDigit &&
    digits.foldl (fun n c => n * 10 + (c.toNat - '0'.toNat)) 0
      < Nat.pow 2 63 + (if negative then 1 else 0)

/-- What follows an index and its closing bracket; spaces and tabs may surround the index. -/
def afterIndex? (cs : List Char) : Option (List Char) :=
  let cs := cs.dropWhile isIndent
  let index := cs.takeWhile fun c => c == '-' || c.isDigit
  match (cs.drop index.length).dropWhile isIndent with
  | ']' :: rest => if isIndex index then some rest else none
  | _ => none

/-- The steps of a name, in at most `fuel` of them. -/
def readSteps? : Nat → List Char → Option (List PathStep)
  | _, [] => some []
  | 0, _ => none
  | fuel + 1, '.' :: rest => do
    let (name, rest) ← readPart? rest
    return .child name :: (← readSteps? fuel rest)
  | fuel + 1, '[' :: rest => do
    return .element :: (← readSteps? fuel (← afterIndex? rest))
  | _ + 1, _ => none

/-- The parts of a name; a name that is not made of parts stands for itself. -/
def read (name : String) : Path :=
  let parts? := do
    let (root, rest) ← readPart? name.toList
    return Path.mk root (← readSteps? rest.length rest)
  parts?.getD ⟨name, []⟩

end Path

end HostAgent.Ini
