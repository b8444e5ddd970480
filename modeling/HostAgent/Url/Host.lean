import HostAgent.Number.Decimal
import HostAgent.Text.Quoted
import HostAgent.Text.Split
import HostAgent.Url.HostName
import HostAgent.Url.Percent

set_option autoImplicit false

/-! # Hosts of addresses

The host of an address is a name or a number: four bytes written with dots, or eight words of
sixteen bits written in brackets with colons. Numbers have many spellings, of which `Host.text`
gives the canonical one. Names are kept in the form of `HostName.ascii?`, and a name whose last
label is numeric has to be a number.
-/

namespace HostAgent.Url

/-- Why a text is not an address. -/
inductive Fault
  | noScheme
  | emptyHost
  | malformedName
  | malformedPort
  | malformedIpv4
  | malformedIpv6
  | malformedCharacter
deriving DecidableEq, Repr

/-- The wording of a fault. -/
def Fault.message : Fault → String
  | .noScheme => "relative URL without a base"
  | .emptyHost => "empty host"
  | .malformedName => "invalid international domain name"
  | .malformedPort => "invalid port number"
  | .malformedIpv4 => "invalid IPv4 address"
  | .malformedIpv6 => "invalid IPv6 address"
  | .malformedCharacter => "invalid domain character"

/-- The host of an address. -/
inductive Host
  | name (text : String)
  | ipv4 (number : Nat)
  | ipv6 (words : List Nat)
deriving DecidableEq, Repr

namespace Host

/-! ## Four bytes -/

/-- The number that digits in base `base` stand for. -/
def digitsIn? (base : Nat) (cs : List Char) : Option Nat :=
  cs.foldlM (fun n c =>
    match Hexadecimal.digit? c with
    | some d => if d < base then some (n * base + d) else none
    | none => none) 0

/-- A part of a number: hexadecimal after `0x`, octal after another zero, decimal otherwise. -/
def part? (cs : List Char) : Option Nat :=
  match cs with
  | [] => none
  | '0' :: 'x' :: digits | '0' :: 'X' :: digits => digitsIn? 16 digits
  | '0' :: d :: digits => digitsIn? 8 (d :: digits)
  | digits => digitsIn? 10 digits

/-- The number of parts of which the last fills all bytes that the others leave. -/
def ofParts? : List Nat → Option Nat
  | [] => none
  | parts =>
    let last := parts.getLast?.getD 0
    let leading := parts.dropLast
    if 4 < parts.length ∨ leading.any (· > 255)
      ∨ Nat.pow 256 (4 - leading.length) ≤ last then none
    else
      let high := leading.foldl (fun n p => n * 256 + p) 0
      some (high * Nat.pow 256 (4 - leading.length) + last)

/-- The labels of a name, without the empty one after a final dot. -/
def labels (cs : List Char) : List (List Char) :=
  let all := splitChars '.' cs
  if 1 < all.length ∧ all.getLast? = some [] then all.dropLast else all

/-- Whether the last label of a name is numeric. -/
def endsInNumber (cs : List Char) : Bool :=
  match (labels cs).getLast? with
  | none => false
  | some [] => false
  | some last => last.all Char.isDigit || (part? last).isSome

/-- The four bytes that a text stands for. -/
def readIpv4 (cs : List Char) : Except Fault Host :=
  match ((labels cs).mapM part?).bind ofParts? with
  | some n => .ok (.ipv4 n)
  | none => .error .malformedIpv4

/-- Four bytes with dots. -/
def ipv4Text (n : Nat) : String :=
  ".".intercalate ([24, 16, 8, 0].map fun shift => toString (n / Nat.pow 2 shift % 256))

/-! ## Eight words -/

/-- A word: one to four hexadecimal digits. -/
def word? (cs : List Char) : Option Nat :=
  if cs.isEmpty ∨ 4 < cs.length then none else digitsIn? 16 cs

/-- A byte in decimal digits without leading zeros. -/
def byte? (cs : List Char) : Option Nat :=
  if cs.isEmpty ∨ (cs.head? = some '0' ∧ 1 < cs.length) then none
  else (digitsIn? 10 cs).filter (· ≤ 255)

/-- The two words of four bytes with dots. -/
def dotted? (cs : List Char) : Option (List Nat) :=
  match (splitChars '.' cs).mapM byte? with
  | some [a, b, c, d] => some [a * 256 + b, c * 256 + d]
  | _ => none

/-- The words between colons; the last two may be written as four bytes. -/
def words? : List (List Char) → Option (List Nat)
  | [] => some []
  | [last] => if last.contains '.' then dotted? last else (word? last).map ([·])
  | piece :: rest => do
    let w ← word? piece
    let ws ← words? rest
    return w :: ws

/-- A text cut at its first pair of colons. -/
def cutAtGap : List Char → Option (List Char × List Char)
  | ':' :: ':' :: rest => some ([], rest)
  | c :: rest => (cutAtGap rest).map fun (before, after) => (c :: before, after)
  | [] => none

/-- The words of a side of the gap; an empty side has none. -/
def side? (cs : List Char) : Option (List Nat) :=
  if cs.isEmpty then some [] else words? (splitChars ':' cs)

/-- The eight words that a text between brackets stands for. -/
def readIpv6 (cs : List Char) : Except Fault Host :=
  let words : Option (List Nat) :=
    match cutAtGap cs with
    | none => (side? cs).filter (·.length = 8)
    | some (before, after) => do
      let high ← if before.contains '.' then none else side? before
      let low ← side? after
      if 7 < high.length + low.length then none
      else some (high ++ List.replicate (8 - high.length - low.length) 0 ++ low)
  match words with
  | some ws => .ok (.ipv6 ws)
  | none => .error .malformedIpv6

/-- The length of the run of zeros at the front of words. -/
def zeros (words : List Nat) : Nat := (words.takeWhile (· = 0)).length

/-- The start and the length of the first longest run of zeros. -/
def longestGap (words : List Nat) : Nat × Nat :=
  (List.range words.length).foldl (fun best start =>
    let length := zeros (words.drop start)
    if best.2 < length then (start, length) else best) (0, 0)

/-- Words with colons; the first longest run of two or more zeros is left out. -/
def ipv6Text (words : List Nat) : String :=
  let write (ws : List Nat) := ":".intercalate (ws.map fun w => String.ofList (hexDigits w))
  let (start, length) := longestGap words
  if length < 2 then write words
  else write (words.take start) ++ "::" ++ write (words.drop (start + length))

/-! ## Names -/

/-- The host between brackets, if a text starts with one. -/
def bracketed (cs : List Char) : Except Fault Host :=
  if cs.getLast? = some ']' then readIpv6 (cs.drop 1).dropLast else .error .malformedIpv6

/-- The host that a text stands for in an address with a well-known scheme. -/
def read (cs : List Char) : Except Fault Host :=
  if cs.head? = some '[' then bracketed cs
  else
    match (Utf8.decode? (Percent.decode cs)).bind fun s => HostName.ascii? s.toList with
    | none => .error .malformedName
    | some ascii =>
      if ascii.isEmpty then .error .emptyHost
      else if endsInNumber ascii then readIpv4 ascii
      else .ok (.name (String.ofList ascii))

/-- The characters that no name holds under a scheme that is not well known. -/
def forbiddenOpaque (c : Char) : Bool :=
  "\x00\t\n\r #/:<>?@[\\]^|".toList.contains c

/-- The host that a text stands for under a scheme that is not well known. -/
def readOpaque (cs : List Char) : Except Fault Host :=
  if cs.head? = some '[' then bracketed cs
  else if cs.any forbiddenOpaque then .error .malformedCharacter
  else .ok (.name (String.ofList (Percent.encode Percent.keepsVisible cs)))

/-- The canonical spelling of a host. -/
def text : Host → String
  | .name spelling => spelling
  | .ipv4 number => ipv4Text number
  | .ipv6 words => "[" ++ ipv6Text words ++ "]"

/-- A host without a name is none at all. -/
def isEmpty (h : Host) : Bool := h == .name ""

end Host

end HostAgent.Url
