import HostAgent.Json.Fault
import HostAgent.Number.Decimal
import HostAgent.Number.Hexadecimal

set_option autoImplicit false

/-! # Tokens of JSON texts

Readers for the tokens of a JSON text: blanks, names, texts and numbers. A reader takes the
rest of the text and returns a value and what is left after it.

A reader whose loop does not follow the characters one by one carries a bound on its steps.
Every step consumes a character, so the number of characters is always enough.

A text may come as bytes that are not all UTF-8. Then its stray bytes, which belong to no character,
are each represented by a mark (`StrayBytes`). They are of no account in a text that is passed over,
and a text that is read is refused for them, but only at its end.
-/

namespace HostAgent.Json

/-- Reads a value off the front of a text. -/
abbrev Reader (α : Type) := List Char → Except Fault (α × List Char)

/-- A fault at the place where `cs` begins. -/
def faultAt (cause : Cause) (cs : List Char) : Fault := ⟨cause, Utf8.size cs⟩

/-- A fault at the byte after that, or at the end of the text. -/
def faultPast (cause : Cause) (cs : List Char) : Fault := ⟨cause, Utf8.size cs - 1⟩

/-- The blanks between tokens. -/
def isSpace (c : Char) : Bool := c = ' ' || c = '\n' || c = '\t' || c = '\r'

/-- What follows the blanks. -/
def skipSpace (cs : List Char) : List Char := cs.dropWhile isSpace

/-- What follows the name `name`, of which the first character was read already. -/
def readName : List Char → List Char → Except Fault (List Char)
  | [], cs => .ok cs
  | _ :: _, [] => .error ⟨.endOfValue, 0⟩
  | n :: name, c :: rest =>
    if c = n then readName name rest else .error (faultPast .expectedIdent (c :: rest))

/-! ## Texts -/

/-- Which characters of a text are marks of stray bytes. -/
class StrayBytes where
  isStray : Char → Bool

/-- A text that is made of characters has no stray bytes. -/
instance : StrayBytes where
  isStray _ := false

namespace StrayBytes

/-- The mark of a stray byte. -/
def mark : Char := '\x01'

/-- The marks in a text that is made of bytes. -/
abbrev marked : StrayBytes where
  isStray c := c = mark

/-- A byte sequence as a text with marks. A character that looks like a mark is none, and is
replaced by another control character, for these are all the same to the readers. -/
def ofBytes (bytes : List UInt8) : List Char :=
  (Utf8.readBytes 0 bytes).map fun
    | some c => if c = mark then '\x00' else c
    | none => mark

end StrayBytes

/-- Whether a text is refused at once for a character. -/
def isControl [StrayBytes] (c : Char) : Bool := c < ' ' && !StrayBytes.isStray c

/-- Why no four hexadecimal digits can be read. -/
def hexFault (cs : List Char) : Fault :=
  if Utf8.size cs < 4 then ⟨.endOfText, 0⟩ else ⟨.invalidEscape, Utf8.size cs - 4⟩

/-- Reads the four digits of an escape. -/
def readHex : Reader Nat
  | a :: b :: c :: d :: rest =>
    match Hexadecimal.value? [a, b, c, d] with
    | some n => .ok (n, rest)
    | none => .error (hexFault (a :: b :: c :: d :: rest))
  | cs => .error (hexFault cs)

/-- The second half of a character beyond sixteen bits, after its first half `high`. -/
def readLowHalf (high : Nat) : Reader Char
  | [] => .error ⟨.endOfText, 0⟩
  | '\\' :: [] => .error ⟨.endOfText, 0⟩
  | '\\' :: 'u' :: rest => do
    let (low, rest) ← readHex rest
    if 0xDC00 ≤ low ∧ low ≤ 0xDFFF then
      return (Char.ofNat ((high - 0xD800) * 0x400 + (low - 0xDC00) + 0x10000), rest)
    else throw (faultAt .loneSurrogate rest)
  | '\\' :: c :: rest => .error (faultPast .endOfHexEscape (c :: rest))
  | c :: rest => .error (faultPast .endOfHexEscape (c :: rest))

/-- The character that a short escape stands for. -/
def shortEscape? (c : Char) : Option Char :=
  match c with
  | '"' => some '"'
  | '\\' => some '\\'
  | '/' => some '/'
  | 'b' => some '\x08'
  | 'f' => some '\x0c'
  | 'n' => some '\n'
  | 'r' => some '\r'
  | 't' => some '\t'
  | _ => none

/-- The character of an escape, after its backslash. -/
def readEscape : Reader Char
  | [] => .error ⟨.endOfText, 0⟩
  | 'u' :: rest => do
    let (n, rest) ← readHex rest
    if 0xDC00 ≤ n ∧ n ≤ 0xDFFF then throw (faultAt .loneSurrogate rest)
    else if 0xD800 ≤ n ∧ n ≤ 0xDBFF then readLowHalf n rest
    else return (Char.ofNat n, rest)
  | c :: rest =>
    match shortEscape? c with
    | some e => .ok (e, rest)
    | none => .error (faultPast .invalidEscape (c :: rest))

/-- The characters of a text up to its closing quote, in at most `fuel` steps. -/
def readTextWithin [StrayBytes] : Nat → Reader (List Char)
  | 0, _ => .error ⟨.endOfText, 0⟩
  | _ + 1, [] => .error ⟨.endOfText, 0⟩
  | _ + 1, '"' :: rest => .ok ([], rest)
  | fuel + 1, '\\' :: rest => do
    let (c, rest) ← readEscape rest
    let (cs, rest) ← readTextWithin fuel rest
    return (c :: cs, rest)
  | fuel + 1, c :: rest =>
    if isControl c then .error (faultAt .controlCharacter rest)
    else do
      let (cs, rest) ← readTextWithin fuel rest
      if StrayBytes.isStray c then throw (faultAt .invalidUnicode rest) else return (c :: cs, rest)

/-- The characters of a text, after its opening quote. -/
def readTextBody [StrayBytes] (cs : List Char) : Except Fault (List Char × List Char) :=
  readTextWithin cs.length cs

/-- What follows the escape of a text that is passed over, after its backslash. -/
def skipEscape : List Char → Except Fault (List Char)
  | [] => .error ⟨.endOfText, 0⟩
  | 'u' :: rest => return (← readHex rest).2
  | c :: rest =>
    match shortEscape? c with
    | some _ => .ok rest
    | none => .error (faultPast .invalidEscape (c :: rest))

/-- What follows a text that is passed over, in at most `fuel` steps. -/
def skipTextWithin [StrayBytes] : Nat → List Char → Except Fault (List Char)
  | 0, _ => .error ⟨.endOfText, 0⟩
  | _ + 1, [] => .error ⟨.endOfText, 0⟩
  | _ + 1, '"' :: rest => .ok rest
  | fuel + 1, '\\' :: rest => do skipTextWithin fuel (← skipEscape rest)
  | fuel + 1, c :: rest =>
    if isControl c then .error (faultAt .controlCharacter (c :: rest)) else skipTextWithin fuel rest

/-- What follows a text that is passed over, after its opening quote. -/
def skipTextBody [StrayBytes] (cs : List Char) : Except Fault (List Char) :=
  skipTextWithin cs.length cs

/-! ## Numbers -/

/-- A number: a whole one of at most 64 bits, with a sign if it is negative, or else a
floating point number. -/
inductive Numeral
  | natural (n : Nat)
  | negative (n : Nat)
  | float (x : Binary64)
deriving DecidableEq, Repr

def isDigit (c : Char) : Bool := '0' ≤ c && c ≤ '9'

/-- Whether `c` starts an exponent. -/
def isExponentMark (c : Char) : Bool := c = 'e' || c = 'E'

/-- The digits at the front of `cs`. -/
def digitRun (cs : List Char) : List Char := cs.takeWhile isDigit

/-- What follows the digits at the front of `cs`. -/
def afterDigits (cs : List Char) : List Char := cs.dropWhile isDigit

/-- Appends digits to `value` as long as it fits into 64 bits; the value and the number of
digits that were left out. -/
def absorb (value : Nat) : List Char → Nat × Nat
  | [] => (value, 0)
  | d :: rest =>
    let next := value * 10 + (d.toNat - '0'.toNat)
    if next ≤ Decimal.max64 then absorb next rest else (value, rest.length + 1)

/-- Divides by powers of ten that the number format holds until the exponent is small. -/
def lower : Nat → Binary64 → Nat → Binary64
  | 0, _, _ => Binary64.zero
  | fuel + 1, x, e =>
    if e ≤ 308 then x.dividedBy (Binary64.powerOfTen e)
    else if x.isZero then x
    else lower fuel (x.dividedBy (Binary64.powerOfTen 308)) (e - 308)

/-- The number `significand · 10^exponent`, with the given rest after it. -/
def fromParts (isNegative : Bool) (significand : Nat) (exponent : Int) (rest : List Char) :
    Except Fault (Binary64 × List Char) :=
  let x := (Binary64.ofNat significand).getD Binary64.zero
  let signed (y : Binary64) := if isNegative then y.neg else y
  if exponent < 0 then .ok (signed (lower 4 x exponent.natAbs), rest)
  else if x.isZero then .ok (signed x, rest)
  else if 308 < exponent then .error (faultAt .numberOutOfRange rest)
  else
    match x.times (Binary64.powerOfTen exponent.natAbs) with
    | some y => .ok (signed y, rest)
    | none => .error (faultAt .numberOutOfRange rest)

/-- The value of an exponent and what follows its digits; or, if it does not fit into
thirty-one bits, what follows the first digit too many. -/
def readExponentDigits (value : Nat) : List Char → Nat × List Char × Bool
  | [] => (value, [], true)
  | c :: rest =>
    if isDigit c then
      let next := value * 10 + (c.toNat - '0'.toNat)
      if next < Nat.pow 2 31 then readExponentDigits next rest else (value, rest, false)
    else (value, c :: rest, true)

/-- A sign that may stand before the digits of an exponent: whether it is a minus, and the
rest. -/
def readExponentSign : List Char → Bool × List Char
  | '+' :: rest => (false, rest)
  | '-' :: rest => (true, rest)
  | cs => (false, cs)

/-- A number with an exponent, after the mark of the exponent. -/
def readExponent (isNegative : Bool) (significand : Nat) (exponent : Int) (cs : List Char) :
    Except Fault (Binary64 × List Char) := do
  let (down, cs) := readExponentSign cs
  match cs with
  | [] => throw ⟨.endOfValue, 0⟩
  | c :: rest =>
    if !isDigit c then throw (faultPast .invalidNumber (c :: rest))
    let (e, rest, fits) := readExponentDigits 0 (c :: rest)
    if fits then
      fromParts isNegative significand (if down then exponent - e else exponent + e) rest
    else if significand ≠ 0 ∧ !down then throw (faultAt .numberOutOfRange rest)
    else
      let x := Binary64.zero
      return (if isNegative then x.neg else x, afterDigits rest)

/-- What may follow the digits of a floating point number: an exponent or nothing. -/
def readMaybeExponent (isNegative : Bool) (significand : Nat) (exponent : Int)
    (cs : List Char) : Except Fault (Binary64 × List Char) :=
  match cs with
  | [] => fromParts isNegative significand exponent []
  | c :: rest =>
    if isExponentMark c then readExponent isNegative significand exponent rest
    else fromParts isNegative significand exponent (c :: rest)

/-- A number with a fraction, after its point. -/
def readFraction (isNegative : Bool) (significand : Nat) (exponent : Int) (cs : List Char) :
    Except Fault (Binary64 × List Char) :=
  let digits := digitRun cs
  if digits.isEmpty then
    .error (faultPast (if cs.isEmpty then .endOfValue else .invalidNumber) cs)
  else
    let (value, unused) := absorb significand digits
    readMaybeExponent isNegative value (exponent - (digits.length - unused : Nat))
      (afterDigits cs)

/-- What follows the whole part of a number of which `unused` digits did not fit. -/
def readAfterWhole (isNegative : Bool) (significand unused : Nat) (cs : List Char) :
    Except Fault (Numeral × List Char) := do
  let whole : Except Fault (Numeral × List Char) :=
    if unused = 0 then
      if !isNegative then .ok (.natural significand, cs)
      else if 0 < significand ∧ significand ≤ Nat.pow 2 63 then .ok (.negative significand, cs)
      else .ok (.float ((Binary64.ofNat significand).getD Binary64.zero).neg, cs)
    else do
      let (x, rest) ← fromParts isNegative significand unused cs
      return (.float x, rest)
  match cs with
  | '.' :: rest =>
    let (x, rest) ← readFraction isNegative significand unused rest
    return (.float x, rest)
  | c :: rest =>
    if isExponentMark c then
      let (x, rest) ← readExponent isNegative significand unused rest
      return (.float x, rest)
    else whole
  | [] => whole

/-- A number, after its sign. -/
def readNumber (isNegative : Bool) (cs : List Char) : Except Fault (Numeral × List Char) :=
  match cs with
  | [] => .error ⟨.endOfValue, 0⟩
  | '0' :: rest =>
    match rest with
    | [] => readAfterWhole isNegative 0 0 []
    | c :: _ =>
      if isDigit c then .error (faultPast .invalidNumber rest)
      else readAfterWhole isNegative 0 0 rest
  | c :: rest =>
    if isDigit c then
      let (value, unused) := absorb 0 (digitRun (c :: rest))
      readAfterWhole isNegative value unused (afterDigits (c :: rest))
    else .error (faultPast .invalidNumber (c :: rest))

/-- What follows the exponent of a number that is passed over, after its mark. -/
def skipExponent (cs : List Char) : Except Fault (List Char) :=
  let cs := (readExponentSign cs).2
  match cs with
  | [] => .error ⟨.invalidNumber, 0⟩
  | c :: rest =>
    if isDigit c then .ok (afterDigits rest) else .error (faultPast .invalidNumber (c :: rest))

/-- What follows a number that is passed over, after its whole part. -/
def skipAfterWhole (cs : List Char) : Except Fault (List Char) :=
  match cs with
  | [] => .ok []
  | c :: rest =>
    if c = '.' then
      if (digitRun rest).isEmpty then .error (faultPast .invalidNumber rest)
      else
        match afterDigits rest with
        | [] => .ok []
        | e :: more => if isExponentMark e then skipExponent more else .ok (e :: more)
    else if isExponentMark c then skipExponent rest
    else .ok (c :: rest)

/-- What follows a number that is passed over, after its sign. -/
def skipNumber (cs : List Char) : Except Fault (List Char) :=
  match cs with
  | [] => .error ⟨.invalidNumber, 0⟩
  | c :: rest =>
    if c = '0' then
      if (digitRun rest).isEmpty then skipAfterWhole rest
      else .error (faultPast .invalidNumber rest)
    else if isDigit c then skipAfterWhole (afterDigits rest)
    else .error (faultPast .invalidNumber (c :: rest))

end HostAgent.Json
