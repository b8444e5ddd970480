import HostAgent.Text.Repertoire

set_option autoImplicit false

/-! # Quoted text

Log lines quote texts so that every character can be told apart: double quotes around the
text, a backslash before quotes and backslashes, short escapes for the usual controls, and
the hexadecimal code point of every other character that does not show by itself. A single
character is quoted alike, between single quotes.
-/

namespace HostAgent

/-- The digits of `n` in base sixteen, in lower case. -/
def hexDigits (n : Nat) : List Char := Nat.toDigits 16 n

/-- One character between two marks `quote`, which need a backslash inside. -/
def quotedChar (quote c : Char) : List Char :=
  match c with
  | '\x00' => ['\\', '0']
  | '\t' => ['\\', 't']
  | '\r' => ['\\', 'r']
  | '\n' => ['\\', 'n']
  | '\\' => ['\\', '\\']
  | c =>
    if c = quote then ['\\', c]
    else if showsItself c then [c]
    else ['\\', 'u', '\x7b'] ++ hexDigits c.val.toNat ++ ['\x7d']

/-- A text between double quotes. -/
def quoted (s : String) : String :=
  String.ofList ('"' :: s.toList.flatMap (quotedChar '"') ++ ['"'])

/-- A character between single quotes. -/
def quotedSingle (c : Char) : String :=
  String.ofList ('\'' :: quotedChar '\'' c ++ ['\''])

/-- A list of quoted texts between square brackets. -/
def quotedList (texts : List String) : String :=
  "[" ++ ", ".intercalate (texts.map quoted) ++ "]"

end HostAgent
