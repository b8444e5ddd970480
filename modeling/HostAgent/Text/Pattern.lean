import HostAgent.Number.Hexadecimal
import HostAgent.Text.Word

set_option autoImplicit false

/-! # Patterns

A pattern describes texts. Most characters stand for themselves; others repeat what precedes
them, choose between alternatives, group, stand for classes of characters or for places, and a
backslash takes a character out of its role. `Pattern.check` finds what keeps a text from being
a pattern that can be searched for in one pass: it may be malformed, and it may ask for places
between words, which one pass over the bytes of a text cannot tell.
-/

namespace HostAgent.Pattern

/-- What keeps a text from being a pattern. -/
inductive Fault
  | malformed
  | wordBoundary
deriving DecidableEq, Repr

/-- What a character after a backslash stands for. -/
inductive Escaped
  | char (c : Char)
  | oneOf
  | place (betweenWords : Bool)
deriving DecidableEq, Repr

/-- The character whose code the digits in base sixteen are. -/
def coded? (digits : List Char) : Option Char := do
  let n ← Hexadecimal.value? digits
  if h : n.isValidChar then some (Char.ofNatAux n h) else none

/-- A character by its code: `count` digits, or any digits in braces. -/
def readCoded? (count : Nat) (cs : List Char) : Option (Escaped × List Char) :=
  match cs with
  | '\x7b' :: rest => do
    let digits := rest.takeWhile (· != '\x7d')
    if rest.length = digits.length then none
    let c ← coded? digits
    return (.char c, rest.drop (digits.length + 1))
  | _ => do
    if cs.length < count then none
    let c ← coded? (cs.take count)
    return (.char c, cs.drop count)

/-- A class of characters by the name of a property. -/
def readProperty? (cs : List Char) : Option (Escaped × List Char) :=
  match cs with
  | '\x7b' :: rest =>
    let name := rest.takeWhile (· != '\x7d')
    if name.isEmpty ∨ rest.length = name.length then none
    else some (.oneOf, rest.drop (name.length + 1))
  | c :: rest => if "CLMNPSZ".toList.contains c then some (.oneOf, rest) else none
  | [] => none

/-- What follows a backslash, and the rest behind that. -/
def readEscape? : List Char → Option (Escaped × List Char)
  | [] => none
  | c :: rest =>
    if c = 'x' then readCoded? 2 rest
    else if c = 'u' then readCoded? 4 rest
    else if c = 'U' then readCoded? 8 rest
    else if c = 'p' ∨ c = 'P' then readProperty? rest
    else if "dDsSwW".toList.contains c then some (.oneOf, rest)
    else if "bB<>".toList.contains c then some (.place true, rest)
    else if "Az".toList.contains c then some (.place false, rest)
    else if "aftnrv".toList.contains c then some (.char c, rest)
    else if c.toNat < 0x80 ∧ !c.isAlphanum then some (.char c, rest)
    else none

/-! ## Classes between brackets -/

/-- The classes that are known by name. -/
def classNames : List String :=
  ["alnum", "alpha", "ascii", "blank", "cntrl", "digit", "graph", "lower", "print", "punct",
    "space", "upper", "word", "xdigit"]

/-- What follows a class that is named between colons, if one starts here. -/
def afterNamedClass? (cs : List Char) : Option (List Char) :=
  let cs := if cs.head? = some '^' then cs.tail else cs
  let name := cs.takeWhile (· != ':')
  match cs.drop name.length with
  | ':' :: ']' :: rest => if classNames.contains (String.ofList name) then some rest else none
  | _ => none

/-- What follows the opening of a class: a caret, and hyphens or else a bracket that stand for
themselves. -/
def afterClassOpening (cs : List Char) : List Char :=
  let cs := if cs.head? = some '^' then cs.tail else cs
  match cs with
  | ']' :: rest => rest
  | cs => cs.dropWhile (· == '-')

/-- A member of a class. -/
def readMember? : List Char → Option (Escaped × List Char)
  | [] => none
  | '\\' :: rest => do
    let (escaped, rest) ← readEscape? rest
    match escaped with
    | .place _ => none
    | _ => return (escaped, rest)
  | c :: rest => some (.char c, rest)

/-- What follows a member of a class, or a range of characters in it. -/
def afterMember? (cs : List Char) : Option (List Char) := do
  let (low, rest) ← readMember? cs
  match rest with
  | '-' :: ']' :: _ | '-' :: '-' :: _ => return rest
  | '-' :: rest =>
    let (high, rest) ← readMember? rest
    match low, high with
    | .char low, .char high => if low ≤ high then return rest else none
    | _, _ => none
  | _ => return rest

/-- What follows a class that is open at `depth` levels, read in at most `fuel` steps. -/
def afterClass? : Nat → Nat → List Char → Option (List Char)
  | 0, _, _ => none
  | fuel + 1, depth, cs =>
    match cs with
    | [] => none
    | ']' :: rest => if depth ≤ 1 then some rest else afterClass? fuel (depth - 1) rest
    | '[' :: ':' :: rest =>
      match afterNamedClass? rest with
      | some rest => afterClass? fuel depth rest
      | none => afterClass? fuel (depth + 1) (afterClassOpening (':' :: rest))
    | '[' :: rest => afterClass? fuel (depth + 1) (afterClassOpening rest)
    | '&' :: '&' :: rest | '-' :: '-' :: rest | '~' :: '~' :: rest => afterClass? fuel depth rest
    | cs => (afterMember? cs).bind (afterClass? fuel depth)

/-! ## Groups -/

/-- Whether a text can be the name of a group. -/
def isGroupName : List Char → Bool
  | [] => false
  | c :: rest =>
    (c == '_' || (isWordChar c && !c.isDigit))
      && rest.all fun c => ['_', '.', '[', ']'].contains c || isWordChar c

/-- Whether a text switches modes on, or off after a hyphen, each of them once. -/
def areModes (cs : List Char) : Bool :=
  cs.Nodup && cs.all (fun c => "imsUuRx-".toList.contains c) && cs.getLast? != some '-'

/-- What follows the opening of a group: the rest, and the name of the group if it has one, or
nothing at all for modes that open no group. -/
inductive Opening
  | group (name? : Option (List Char)) (rest : List Char)
  | modes (rest : List Char)

/-- The opening of a group, behind its parenthesis. -/
def readOpening? (cs : List Char) : Option Opening :=
  let named (rest : List Char) : Option Opening :=
    let name := rest.takeWhile (· != '>')
    if rest.length = name.length ∨ !isGroupName name then none
    else some (.group (some name) (rest.drop (name.length + 1)))
  match cs with
  | '?' :: 'P' :: '<' :: rest => named rest
  | '?' :: '<' :: '=' :: _ | '?' :: '<' :: '!' :: _ => none
  | '?' :: '<' :: rest => named rest
  | '?' :: rest =>
    let modes := rest.takeWhile fun c => c != ':' && c != ')'
    match rest.drop modes.length with
    | ':' :: rest => if areModes modes then some (.group none rest) else none
    | ')' :: rest => if !modes.isEmpty ∧ areModes modes then some (.modes rest) else none
    | _ => none
  | cs => some (.group none cs)

/-! ## The whole pattern -/

/-- What follows a number of repetitions, behind its opening brace. -/
def afterCount? (cs : List Char) : Option (List Char) :=
  let count := cs.takeWhile (· != '\x7d')
  let low := count.takeWhile Char.isDigit
  let value (digits : List Char) : Nat := (String.ofList digits).toNat?.getD 0
  if cs.length = count.length ∨ low.isEmpty then none
  else
    let rest := cs.drop (count.length + 1)
    match count.drop low.length with
    | [] => some rest
    | ',' :: high =>
      if high.all Char.isDigit ∧ (high.isEmpty ∨ value low ≤ value high) then some rest else none
    | _ => none

/-- How far a pattern has been read: how many groups are open, whether there is something to
repeat, the names of groups, and whether places between words occur. -/
structure State where
  depth : Nat := 0
  operand : Bool := false
  names : List (List Char) := []
  boundary : Bool := false

/-- The state behind something that can be repeated. -/
def State.ready (s : State) : State := { s with operand := true }

/-- The state at the end of a pattern, read in at most `fuel` steps; none if the text is
malformed. -/
def scan : Nat → State → List Char → Option State
  | _, s, [] => if s.depth = 0 then some s else none
  | 0, _, _ => none
  | fuel + 1, s, c :: rest =>
    if c = '(' then
      match readOpening? rest with
      | none => none
      | some (.modes rest) => scan fuel { s with operand := false } rest
      | some (.group none rest) => scan fuel { s with depth := s.depth + 1, operand := false } rest
      | some (.group (some name) rest) =>
        if s.names.contains name then none
        else scan fuel { s with
          depth := s.depth + 1, operand := false, names := name :: s.names } rest
    else if c = ')' then
      if s.depth = 0 then none
      else scan fuel { s with depth := s.depth - 1, operand := true } rest
    else if c = '|' then scan fuel { s with operand := false } rest
    else if c = '*' ∨ c = '+' ∨ c = '?' then
      if !s.operand then none
      else scan fuel s (if rest.head? = some '?' then rest.tail else rest)
    else if c = '\x7b' then
      if !s.operand then none
      else (afterCount? rest).bind fun rest =>
        scan fuel s (if rest.head? = some '?' then rest.tail else rest)
    else if c = '[' then (afterClass? fuel 1 (afterClassOpening rest)).bind (scan fuel s.ready)
    else if c = '\\' then
      match readEscape? rest with
      | none => none
      | some (.place true, rest) => scan fuel { s.ready with boundary := true } rest
      | some (_, rest) => scan fuel s.ready rest
    else scan fuel s.ready rest

/-- What keeps a text from being a pattern, if anything does. -/
def check (s : String) : Option Fault :=
  match scan (s.length + 1) {} s.toList with
  | none => some .malformed
  | some state => if state.boundary then some .wordBoundary else none

/-- The wording of a fault. -/
def Fault.message : Fault → String
  | .malformed => "error building NFA"
  | .wordBoundary => "unsupported regex feature for DFAs: cannot build DFAs for regexes with "
      ++ "Unicode word boundaries; switch to ASCII word boundaries, or heuristically enable "
      ++ "Unicode word boundaries or use a different regex engine"

end HostAgent.Pattern
