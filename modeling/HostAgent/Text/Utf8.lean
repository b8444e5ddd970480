set_option autoImplicit false

/-! # UTF-8

Bytes read as text. `nextChar` takes the first character off a byte sequence: either a
scalar value in its shortest form, or the longest start of such a form that breaks off.
Strict reading refuses a sequence with a broken part; lossy reading puts the replacement
character U+FFFD in the place of each.
-/

namespace HostAgent.Utf8

/-- Whether a byte lies within the given bounds. -/
def continues (b : UInt8) (low high : Nat) : Bool := low ≤ b.toNat && b.toNat ≤ high

/-- The six bits that a continuation byte carries. -/
def payload (b : UInt8) : Nat := b.toNat % 64

/-- The number of bytes after the lead byte, the payload of the lead byte, and the bounds
of the byte that follows it; nothing for a byte that leads no character. -/
def leadByte (b : UInt8) : Option (Nat × Nat × Nat × Nat) :=
  let n := b.toNat
  if n < 0x80 then some (0, n, 0x80, 0xBF)
  else if n < 0xC2 then none
  else if n < 0xE0 then some (1, n - 0xC0, 0x80, 0xBF)
  else if n == 0xE0 then some (2, 0, 0xA0, 0xBF)
  else if n == 0xED then some (2, 0xD, 0x80, 0x9F)
  else if n < 0xF0 then some (2, n - 0xE0, 0x80, 0xBF)
  else if n == 0xF0 then some (3, 0, 0x90, 0xBF)
  else if n < 0xF4 then some (3, n - 0xF0, 0x80, 0xBF)
  else if n == 0xF4 then some (3, 4, 0x80, 0x8F)
  else none

/-- Reads up to `more` continuation bytes: the code point if all are there, and the number
of bytes read. -/
def continuation (more : Nat) (code low high : Nat) (bytes : List UInt8) :
    Option Nat × Nat :=
  match more, bytes with
  | 0, _ => (some code, 0)
  | _ + 1, [] => (none, 0)
  | more + 1, b :: rest =>
    if continues b low high then
      let (result, used) := continuation more (code * 64 + payload b) 0x80 0xBF rest
      (result, used + 1)
    else (none, 0)

/-- The first character of a byte sequence, or nothing for a broken part, and the bytes
after the first of those used for it. -/
def nextChar (lead : UInt8) (rest : List UInt8) : Option Char × Nat :=
  match leadByte lead with
  | none => (none, 0)
  | some (more, code, low, high) =>
    match continuation more code low high rest with
    | (some code, used) => (some (Char.ofNat code), used)
    | (none, used) => (none, used)

/-- The characters of a byte sequence, with nothing in the place of each broken part; the
first argument counts bytes that belong to a character already read. -/
def readChars (skip : Nat) (bytes : List UInt8) : List (Option Char) :=
  match skip, bytes with
  | _, [] => []
  | skip + 1, _ :: rest => readChars skip rest
  | 0, b :: rest =>
    let (c, used) := nextChar b rest
    c :: readChars used rest

/-- The characters of a byte sequence, with nothing in the place of each byte of a broken part; the
first argument counts bytes that belong to a character already read. -/
def readBytes (skip : Nat) (bytes : List UInt8) : List (Option Char) :=
  match skip, bytes with
  | _, [] => []
  | skip + 1, _ :: rest => readBytes skip rest
  | 0, b :: rest =>
    match nextChar b rest with
    | (some c, used) => some c :: readBytes used rest
    | (none, used) => List.replicate (used + 1) none ++ readBytes used rest

/-- The text of a byte sequence that is UTF-8 throughout. -/
def decode? (bytes : List UInt8) : Option String :=
  ((readChars 0 bytes).mapM id).map String.ofList

/-- The text of a byte sequence, U+FFFD standing for each broken part. -/
def decodeLossy (bytes : List UInt8) : String :=
  String.ofList ((readChars 0 bytes).map (·.getD '\uFFFD'))

/-- The number of bytes of a run of characters. -/
def size : List Char → Nat
  | [] => 0
  | c :: rest => c.utf8Size + size rest

/-- The bytes of characters. -/
def encodeChars (cs : List Char) : List UInt8 := cs.flatMap String.utf8EncodeChar

/-- The bytes of a text. -/
def encode (s : String) : List UInt8 := encodeChars s.toList

end HostAgent.Utf8
