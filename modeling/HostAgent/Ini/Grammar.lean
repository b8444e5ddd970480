import HostAgent.Ini.Cursor
import HostAgent.Number.Hexadecimal
import HostAgent.Text.Blank
import HostAgent.Text.Quoted

set_option autoImplicit false

/-! # The grammar of a settings file

A settings file is a sequence of group headers `[name]` and assignments `key = value` or
`key : value`. A line that starts with `;` or `#` is a comment. Names and values may hold
escapes after a backslash, and a backslash before a line feed joins two lines; a value may
have quoted parts.

A name ends only at its delimiter, so a key may run over several lines. An indented line whose
key cannot be read is no fault: reading goes on where the fault was found, behind the blanks
there.
-/

namespace HostAgent.Ini

/-- A part of a file: the header of a group, or an assignment in the group before it. -/
inductive Item
  | group (name : String)
  | setting (key value : String)
deriving DecidableEq, Repr

/-- What a piece of text runs up to. -/
inductive Stop
  | groupEnd
  | delimiter
  | doubleQuote
  | singleQuote
  | lineEnd
deriving DecidableEq, Repr

/-- Whether a piece of text ends at this character, or at the end of the file. -/
def Stop.endsAt : Stop → Option Char → Bool
  | .groupEnd, c => c == some ']'
  | .delimiter, c => c == some '=' || c == some ':'
  | .doubleQuote, c => c == some '"'
  | .singleQuote, c => c == some '\''
  | .lineEnd, c => c == some '\n' || c == some '\r' || c == none

/-- What was expected at the end of the file, in words. -/
def Stop.expectation : Stop → String
  | .groupEnd => "[Some(']')]"
  | .delimiter => "[Some('='), Some(':')]"
  | .doubleQuote => "[Some('\"')]"
  | .singleQuote => "[Some('\\'')]"
  | .lineEnd => "[Some('\\n'), Some('\\r'), None]"

/-- Why a file cannot be read. -/
inductive Cause
  | endOfFile (expected : Stop)
  | missingKey
  | inlineComment
  | badCode
  | badContinuation (found : Option Char)
deriving DecidableEq, Repr

/-- A cause, and the cursor at which it was found. -/
structure Fault where
  cause : Cause
  cursor : Cursor
deriving DecidableEq, Repr

/-- The wording of a cause. -/
def Cause.message : Cause → String
  | .endOfFile expected => "expecting \"" ++ expected.expectation ++ "\" but found EOF."
  | .missingKey => "missing key"
  | .inlineComment => "doesn't support inline comment"
  | .badCode => "unknown character in \\xHH form"
  | .badContinuation found =>
    let shown := match found with
      | none => "None"
      | some c => "Some(" ++ quotedSingle c ++ ")"
    "expecting \"\\\\n\" but found \"" ++ shown ++ "\"."

/-- The wording of a fault: line and column from one, then the cause. -/
def Fault.message (f : Fault) : String :=
  toString (f.cursor.line + 1) ++ ":" ++ toString (f.cursor.column + 1) ++ " " ++ f.cause.message

/-! ## Pieces of text -/

/-- The character that four characters of code denote; a plus sign may lead them. -/
def codeChar? (code : List Char) : Option Char := do
  let digits := if code.head? = some '+' then code.tail else code
  let n ← Hexadecimal.value? digits
  if h : n.isValidChar then some (Char.ofNatAux n h) else none

/-- Reads `count` characters of code behind the cursor; the cursor stays at the last one. -/
def readCode (stop : Stop) : Nat → Cursor → Except Fault (List Char × Cursor)
  | 0, c => .ok ([], c)
  | count + 1, c => do
    let c := c.next
    match c.head? with
    | none => throw ⟨.endOfFile stop, c⟩
    | some ch =>
      let c := if ch = '\\' then c.next else c
      if ch = '\\' ∧ c.head? ≠ some '\n' then throw ⟨.badContinuation c.head?, c⟩
      let (code, c) ← readCode stop count c
      return (ch :: code, c)

/-- What an escape stands for, read from the character behind its backslash; the cursor stays
at its last character. -/
def readEscape (stop : Stop) (c : Cursor) : Except Fault (List Char × Cursor) :=
  match c.head? with
  | none => .ok (['\\'], c)
  | some '0' => .ok (['\x00'], c)
  | some 'a' => .ok (['\x07'], c)
  | some 'b' => .ok (['\x08'], c)
  | some 't' => .ok (['\t'], c)
  | some 'r' => .ok (['\r'], c)
  | some 'n' => .ok (['\n'], c)
  | some '\n' => .ok ([], c)
  | some 'x' => do
    let (code, c) ← readCode stop 4 c
    match codeChar? code with
    | some ch => return ([ch], c)
    | none => throw ⟨.badCode, c⟩
  | some ch => .ok ([ch], c)

/-- The characters up to `stop`, in at most `fuel` steps; the cursor is left at the stop. -/
def readUntilWithin (stop : Stop) : Nat → Cursor → Except Fault (List Char × Cursor)
  | 0, c => .error ⟨.endOfFile stop, c⟩
  | fuel + 1, c => do
    if stop.endsAt c.head? then return ([], c)
    match c.head? with
    | none => throw ⟨.endOfFile stop, c⟩
    | some '\\' =>
      let (cs, c) ← readEscape stop c.next
      let (rest, c) ← readUntilWithin stop fuel c.next
      return (cs ++ rest, c)
    | some ch =>
      let (rest, c) ← readUntilWithin stop fuel c.next
      return (ch :: rest, c)

/-- The characters up to `stop`; the cursor is left at the stop. -/
def readUntil (stop : Stop) (c : Cursor) : Except Fault (List Char × Cursor) :=
  readUntilWithin stop (c.rest.length + 1) c

/-! ## Values -/

/-- The parts of a value, in at most `fuel` steps: quoted parts as they are, and a last part
that loses its blanks, at its start only if it is the first part. -/
def readParts : Nat → Bool → Cursor → Except Fault (List Char × Cursor)
  | 0, _, c => .ok ([], c)
  | fuel + 1, first, c => do
    let quotedPart (stop : Stop) : Except Fault (List Char × Cursor) := do
      let (part, c) ← readUntil stop c.next
      let (rest, c) ← readParts fuel false c.next
      return (part ++ rest, c)
    match c.head? with
    | none => return ([], c)
    | some '"' => quotedPart .doubleQuote
    | some '\'' => quotedPart .singleQuote
    | some _ =>
      let (part, c) ← readUntil .lineEnd c
      return (if first then trimChars part else trimEndChars part, c)

/-- A value, from its delimiter on; blanks before it on the same line do not count. -/
def readValue (c : Cursor) : Except Fault (List Char × Cursor) :=
  let c := c.next.skipWhile fun ch => isBlank ch && !isLineEnd ch
  readParts (c.rest.length + 1) true c

/-! ## Items -/

/-- The cursor behind a comment and the line feed that ends it. -/
def skipComment (c : Cursor) : Cursor :=
  let c := c.skipWhile (· != '\n')
  if c.head? = some '\n' then c.next else c

/-- What precedes an item: blanks up to the indentation of a line that is indented. -/
def skipGapWithin : Nat → Cursor → Cursor
  | 0, c => c
  | fuel + 1, c =>
    match c.head? with
    | none => c
    | some ch =>
      if isLineEnd ch then
        let c := c.next
        if (c.head?.map isIndent).getD false then c else skipGapWithin fuel c
      else if isBlank ch then skipGapWithin fuel c.next
      else c

/-- What precedes an item: blanks up to the indentation of a line that is indented. -/
def skipGap (c : Cursor) : Cursor := skipGapWithin (c.rest.length + 1) c

/-- The items of the rest of a file after the key `key`, in at most `fuel` steps. -/
def readItems : Nat → List Char → Cursor → Except Fault (List Item)
  | 0, _, _ => .ok []
  | fuel + 1, key, c =>
    let readKey (c : Cursor) : Except Fault (List Char × Cursor) := readUntil .delimiter c
    match c.head? with
    | none => .ok []
    | some ch =>
      if ch = ';' ∨ ch = '#' then
        if 1 < c.column then .error ⟨.inlineComment, c⟩
        else readItems fuel key (skipGap (skipComment c))
      else if ch = '[' then do
        let (name, c) ← readUntil .groupEnd c.next
        return .group (String.ofList (trimChars name)) :: (← readItems fuel key (skipGap c.next))
      else if ch = '=' ∨ ch = ':' then
        if key.isEmpty then .error ⟨.missingKey, c⟩
        else do
          let (value, c) ← readValue c
          return .setting (String.ofList key) (String.ofList value)
            :: (← readItems fuel [] (skipGap c))
      else if isIndent ch then
        let c := c.skipWhile isIndent
        match c.head? with
        | none => .ok []
        | some ch =>
          if ch = '[' ∨ isLineEnd ch then readItems fuel key (if ch = '[' then c else skipGap c)
          else
            match readKey c with
            | .ok (key, c) => readItems fuel (trimChars key) (skipGap c)
            | .error fault => readItems fuel key (fault.cursor.skipWhile isBlank)
      else do
        let (key, c) ← readKey c
        readItems fuel (trimChars key) (skipGap c)

/-- The place of the first item. Only a file that starts with a line end has blanks that do not
count before it. -/
def firstItem (cs : List Char) : Cursor :=
  let c := Cursor.start cs
  if (c.head?.map isLineEnd).getD false then c.skipWhile isBlank else c

/-- The items of a file. -/
def read (s : String) : Except Fault (List Item) :=
  let c := firstItem s.toList
  readItems (2 * c.rest.length + 2) [] c

end HostAgent.Ini
