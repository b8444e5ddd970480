set_option autoImplicit false

/-! # Blank characters and trimming

A character is *blank* when it has the Unicode property White_Space: the ASCII controls
from tab to carriage return, the space, and the separators beyond ASCII. A zero-width
space, a byte order mark and the ASCII information separators are not blank.

`trim` removes the blanks at both ends of a text and nothing else.
-/

namespace HostAgent

/-- The Unicode property White_Space. -/
def isBlank (c : Char) : Bool :=
  let n := c.val.toNat
  (9 ≤ n && n ≤ 13) || n == 0x20 || n == 0x85 || n == 0xA0 || n == 0x1680
    || (0x2000 ≤ n && n ≤ 0x200A) || n == 0x2028 || n == 0x2029 || n == 0x202F
    || n == 0x205F || n == 0x3000

/-- `cs` without the blanks it ends with. -/
def trimEndChars (cs : List Char) : List Char := (cs.reverse.dropWhile isBlank).reverse

/-- `cs` without the blanks at its ends. -/
def trimChars (cs : List Char) : List Char := trimEndChars (cs.dropWhile isBlank)

/-- `s` without the blanks at its ends. -/
def trim (s : String) : String := String.ofList (trimChars s.toList)

/-- A text is blank when it holds blanks only. -/
def isBlankText (s : String) : Bool := s.toList.all isBlank

/-- A text is trimmed when trimming changes nothing. -/
def IsTrimmed (s : String) : Prop := trim s = s

theorem toList_trim (s : String) : (trim s).toList = trimChars s.toList := by
  simp [trim]

end HostAgent
