import HostAgent.Number.Hexadecimal
import HostAgent.Text.Utf8

set_option autoImplicit false

/-! # Percent encoding

In an address a byte that must not stand for itself is written as a percent sign and two
hexadecimal digits. Which bytes these are depends on the part of the address; bytes beyond
ASCII are never left as they are.
-/

namespace HostAgent.Percent

open Hexadecimal (digit?)

/-- The digit of a number below sixteen, in upper case. -/
def digit (n : Nat) : Char := (Nat.digitChar n).toUpper

/-- A byte in percent form. -/
def byte (b : UInt8) : List Char := ['%', digit (b.toNat / 16), digit (b.toNat % 16)]

/-- The ASCII character of a byte. -/
def charOf (b : UInt8) : Char := Char.ofNat b.toNat

/-- A byte that stands for itself if `keeps` allows it. -/
def encodeByte (keeps : Char → Bool) (b : UInt8) : List Char :=
  if b.toNat < 0x80 ∧ keeps (charOf b) then [charOf b] else byte b

/-- A text with the bytes that `keeps` does not allow in percent form. -/
def encode (keeps : Char → Bool) (cs : List Char) : List Char :=
  (Utf8.encodeChars cs).flatMap (encodeByte keeps)

/-- Reads percent forms; a percent sign without two digits stands for itself. -/
def decodeBytes : List UInt8 → List UInt8
  | b :: high :: low :: rest =>
    match b == 0x25, digit? (charOf high), digit? (charOf low) with
    | true, some h, some l => UInt8.ofNat (h * 16 + l) :: decodeBytes rest
    | _, _, _ => b :: decodeBytes (high :: low :: rest)
  | bytes => bytes

/-- The bytes of a text with percent forms. -/
def decode (cs : List Char) : List UInt8 := decodeBytes (Utf8.encodeChars cs)

/-! ## What stands for itself in the parts of an address -/

/-- The ASCII characters that are no controls. -/
def keepsVisible (c : Char) : Bool := 0x20 ≤ c.toNat && c.toNat ≤ 0x7E

/-- What stands for itself in a fragment. -/
def keepsFragment (c : Char) : Bool :=
  keepsVisible c && !(['\x20', '"', '<', '>', '\x60'].contains c)

/-- What stands for itself in a step of a path. -/
def keepsPath (c : Char) : Bool := keepsFragment c && !(['#', '?', '\x7b', '\x7d'].contains c)

/-- What stands for itself in credentials. -/
def keepsCredentials (c : Char) : Bool :=
  keepsPath c && !("/:;=@[\\]^|".toList.contains c)

/-- What stands for itself in a query. -/
def keepsQuery (c : Char) : Bool :=
  keepsVisible c && !(['\x20', '"', '#', '<', '>'].contains c)

/-- What stands for itself in the query of an address with a well-known scheme. -/
def keepsSpecialQuery (c : Char) : Bool := keepsQuery c && c != '\x27'

end HostAgent.Percent
