set_option autoImplicit false

/-! # Places in a settings file

A cursor is the rest of a file together with the line and the column of its first character.
Only a line feed starts a new line, and it counts as column zero of that line. Behind the last
character the cursor keeps that character's place.
-/

namespace HostAgent.Ini

/-- The rest of a file and the place of its first character, from line zero. -/
structure Cursor where
  rest : List Char
  line : Nat
  column : Nat
deriving DecidableEq, Repr

namespace Cursor

/-- The cursor at `rest`, which follows the given place. -/
def enter (rest : List Char) (line column : Nat) : Cursor :=
  match rest with
  | [] => ⟨[], line, column⟩
  | c :: _ => if c = '\n' then ⟨rest, line + 1, 0⟩ else ⟨rest, line, column + 1⟩

/-- The start of a file. -/
def start (cs : List Char) : Cursor := enter cs 0 0

/-- The character at the cursor. -/
def head? (c : Cursor) : Option Char := c.rest.head?

/-- The cursor one character further. -/
def next (c : Cursor) : Cursor := enter c.rest.tail c.line c.column

/-- The cursor behind all characters from here that satisfy `p`. -/
def skipFrom (p : Char → Bool) (line column : Nat) : List Char → Cursor
  | [] => ⟨[], line, column⟩
  | c :: rest =>
    let here := enter (c :: rest) line column
    if p c then skipFrom p here.line here.column rest else here

/-- The cursor behind all characters from here that satisfy `p`. -/
def skipWhile (p : Char → Bool) (c : Cursor) : Cursor :=
  match c.rest with
  | [] => c
  | h :: rest => if p h then skipFrom p c.line c.column rest else c

end Cursor

/-- A space or a tab. -/
def isIndent (c : Char) : Bool := c = ' ' || c = '\t'

/-- A line feed or a carriage return. -/
def isLineEnd (c : Char) : Bool := c = '\n' || c = '\r'

end HostAgent.Ini
