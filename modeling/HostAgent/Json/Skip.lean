import HostAgent.Json.Token

set_option autoImplicit false

/-! # Passing over values

A value that nobody asked for is passed over, whatever its depth: the open brackets around
the place of reading are kept on a list, innermost first. The value has to be well formed,
but numbers may be of any size and escapes may name half characters.
-/

namespace HostAgent.Json

/-- An open bracket. -/
inductive Frame
  | list
  | object
deriving DecidableEq, Repr

namespace Frame

/-- The bracket that closes a frame. -/
def closing : Frame → Char
  | .list => ']'
  | .object => '\x7d'

/-- The fault of a text that ends within a frame. -/
def endCause : Frame → Cause
  | .list => .endOfList
  | .object => .endOfObject

/-- The fault of a value that nothing separates from the next one. -/
def separatorCause : Frame → Cause
  | .list => .expectedListCommaOrEnd
  | .object => .expectedObjectCommaOrEnd

end Frame

/-- Where reading stands while a value is passed over: before a value, behind an opening
bracket, or behind a value. -/
inductive SkipState
  | before
  | opened
  | behind
deriving DecidableEq, Repr

/-- What follows the key of a member and its colon. -/
def skipKey [StrayBytes] (cs : List Char) : Except Fault (List Char) := do
  match skipSpace cs with
  | [] => throw ⟨.endOfObject, 0⟩
  | c :: rest =>
    if c ≠ '"' then throw (faultPast .keyMustBeText (c :: rest))
    match skipSpace (← skipTextBody rest) with
    | [] => throw ⟨.endOfObject, 0⟩
    | c :: rest =>
      if c ≠ ':' then throw (faultPast .expectedColon (c :: rest))
      return rest

/-- What precedes a value in a frame. -/
def skipToValue [StrayBytes] (frame : Frame) (cs : List Char) : Except Fault (List Char) :=
  match frame with
  | .list => .ok cs
  | .object => skipKey cs

/-- What follows a value that has no parts. -/
def skipScalar [StrayBytes] (c : Char) (rest : List Char) : Except Fault (List Char) :=
  match c with
  | 'n' => readName ['u', 'l', 'l'] rest
  | 't' => readName ['r', 'u', 'e'] rest
  | 'f' => readName ['a', 'l', 's', 'e'] rest
  | '-' => skipNumber rest
  | '"' => skipTextBody rest
  | c =>
    if isDigit c then skipNumber (c :: rest)
    else .error (faultPast .expectedValue (c :: rest))

/-- What follows the value within the given open brackets, in at most `fuel` steps. -/
def skipWithin [StrayBytes] : Nat → SkipState → List Frame → List Char → Except Fault (List Char)
  | 0, _, _, _ => .error ⟨.endOfValue, 0⟩
  | fuel + 1, .before, frames, cs =>
    match skipSpace cs with
    | [] => .error ⟨.endOfValue, 0⟩
    | '[' :: rest => skipWithin fuel .opened (.list :: frames) rest
    | '\x7b' :: rest => skipWithin fuel .opened (.object :: frames) rest
    | c :: rest => do skipWithin fuel .behind frames (← skipScalar c rest)
  | _ + 1, .opened, [], cs => .ok cs
  | _ + 1, .behind, [], cs => .ok cs
  | fuel + 1, state, frame :: frames, cs =>
    match skipSpace cs with
    | [] => .error ⟨frame.endCause, 0⟩
    | c :: rest =>
      if c = frame.closing then skipWithin fuel .behind frames rest
      else if state = .opened then do
        skipWithin fuel .before (frame :: frames) (← skipToValue frame (c :: rest))
      else if c = ',' then do
        skipWithin fuel .before (frame :: frames) (← skipToValue frame rest)
      else .error (faultPast frame.separatorCause (c :: rest))

/-- What follows a value that is passed over. Every character is met by at most two steps,
one before a value and one behind it. -/
def skipValue [StrayBytes] (cs : List Char) : Except Fault (List Char) :=
  skipWithin (2 * cs.length + 2) .before [] cs

end HostAgent.Json
