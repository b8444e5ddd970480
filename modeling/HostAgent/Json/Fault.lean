import HostAgent.Number.Shortest
import HostAgent.Text.Quoted
import HostAgent.Text.Utf8

set_option autoImplicit false

/-! # Faults of JSON texts

A fault is a cause and the place at which reading stopped. A reader works on the rest of the
text, so it knows the place by the number of bytes left; `Fault.position` turns that number
into a line and a column of the whole text, both counted in bytes from one, the column being
the number of bytes before the place on its line.
-/

namespace HostAgent.Json

/-- What stood where something else was expected. -/
inductive Found
  | null
  | flag (b : Bool)
  | integer (n : Int)
  | float (x : Binary64)
  | text (s : String)
  | list
  | map
deriving DecidableEq, Repr

/-- Why a text cannot be read. -/
inductive Cause
  | endOfList
  | endOfObject
  | endOfText
  | endOfValue
  | expectedColon
  | expectedListCommaOrEnd
  | expectedObjectCommaOrEnd
  | expectedIdent
  | expectedValue
  | trailingComma
  | trailingCharacters
  | keyMustBeText
  | invalidNumber
  | numberOutOfRange
  | invalidEscape
  | loneSurrogate
  | endOfHexEscape
  | controlCharacter
  | invalidUnicode
  | invalidType (found : Found) (expected : String)
  | invalidValue (found : Found) (expected : String)
  | invalidLength (length : Nat) (expected : String)
  | missingField (name : String)
  | duplicateField (name : String)
deriving DecidableEq, Repr

/-- A cause, and the number of bytes that were left when it was found. -/
structure Fault where
  cause : Cause
  left : Nat
deriving DecidableEq, Repr

/-- A place in a text. -/
structure Position where
  line : Nat
  column : Nat
deriving DecidableEq, Repr

/-- The place before byte `index`, given the number of bytes, the line and the start of the
line up to the rest of the text. -/
def positionFrom (index offset line lineStart : Nat) : List Char → Position
  | [] => ⟨line, index - lineStart⟩
  | c :: rest =>
    if offset < index then
      let next := offset + c.utf8Size
      if c = '\n' then positionFrom index next (line + 1) next rest
      else positionFrom index next line lineStart rest
    else ⟨line, index - lineStart⟩

/-- The place of a fault of the text `cs`. -/
def Fault.position (f : Fault) (cs : List Char) : Position :=
  positionFrom (Utf8.size cs - f.left) 0 1 0 cs

/-- Floating point numbers are positional from `10^-5` to `10^16` and always show a point or
an exponent; an exponent has a sign and no padding. -/
def floatText (x : Binary64) : String :=
  let sign := if x.negative then "-" else ""
  if x.isZero then sign ++ "0.0"
  else
    let form := x.shortest
    let digits := (toString form.digits).toList
    let count : Int := digits.length
    let p := form.point
    let zeros (n : Int) := List.replicate n.toNat '0'
    let body : List Char :=
      if 0 < p ∧ p ≤ 16 then
        if count ≤ p then digits ++ zeros (p - count) ++ ['.', '0']
        else digits.take p.toNat ++ ['.'] ++ digits.drop p.toNat
      else if -5 < p ∧ p ≤ 0 then ['0', '.'] ++ zeros (-p) ++ digits
      else
        let mantissa := match digits with
          | [] => []
          | [d] => [d]
          | d :: rest => d :: '.' :: rest
        let e := p - 1
        mantissa ++ ['e', if e < 0 then '-' else '+'] ++ (toString e.natAbs).toList
    sign ++ String.ofList body

/-- What stood somewhere, in words. -/
def Found.message : Found → String
  | .null => "null"
  | .flag b => "boolean `" ++ (if b then "true" else "false") ++ "`"
  | .integer n => "integer `" ++ toString n ++ "`"
  | .float x => "floating point `" ++ floatText x ++ "`"
  | .text s => "string " ++ quoted s
  | .list => "sequence"
  | .map => "map"

/-- The wording of a cause. -/
def Cause.message : Cause → String
  | .endOfList => "EOF while parsing a list"
  | .endOfObject => "EOF while parsing an object"
  | .endOfText => "EOF while parsing a string"
  | .endOfValue => "EOF while parsing a value"
  | .expectedColon => "expected `:`"
  | .expectedListCommaOrEnd => "expected `,` or `]`"
  | .expectedObjectCommaOrEnd => "expected `,` or `\x7d`"
  | .expectedIdent => "expected ident"
  | .expectedValue => "expected value"
  | .trailingComma => "trailing comma"
  | .trailingCharacters => "trailing characters"
  | .keyMustBeText => "key must be a string"
  | .invalidNumber => "invalid number"
  | .numberOutOfRange => "number out of range"
  | .invalidEscape => "invalid escape"
  | .loneSurrogate => "lone leading surrogate in hex escape"
  | .endOfHexEscape => "unexpected end of hex escape"
  | .controlCharacter => "control character (\\u0000-\\u001F) found while parsing a string"
  | .invalidUnicode => "invalid unicode code point"
  | .invalidType found expected =>
    "invalid type: " ++ found.message ++ ", expected " ++ expected
  | .invalidValue found expected =>
    "invalid value: " ++ found.message ++ ", expected " ++ expected
  | .invalidLength length expected =>
    "invalid length " ++ toString length ++ ", expected " ++ expected
  | .missingField name => "missing field `" ++ name ++ "`"
  | .duplicateField name => "duplicate field `" ++ name ++ "`"

/-- The wording of a fault of the text `cs`. -/
def Fault.message (f : Fault) (cs : List Char) : String :=
  let p := f.position cs
  f.cause.message ++ " at line " ++ toString p.line ++ " column " ++ toString p.column

end HostAgent.Json
