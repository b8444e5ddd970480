import HostAgent.Dict
import HostAgent.Json.Skip

set_option autoImplicit false

/-! # Decoding JSON texts

Readers for the values that a JSON text is expected to hold, up to records with named fields.
A record reads from an object, whose members may come in any order and may hold more than the
fields, or from a list of its fields in their order. Reading goes from left to right and stops
at the first fault.

A fault of a whole record, such as a missing field, is placed behind the record's closing
bracket if that comes next.
-/

namespace HostAgent.Json

/-- The fault of a value of the wrong type that begins with `cs`. -/
def wrongType [StrayBytes] (expected : String) (cs : List Char) : Fault :=
  let as (found : Found) (rest : List Char) : Fault := faultAt (.invalidType found expected) rest
  let named (name : List Char) (found : Found) (rest : List Char) : Fault :=
    match readName name rest with
    | .error f => f
    | .ok rest => as found rest
  let numbered (isNegative : Bool) (rest : List Char) : Fault :=
    match readNumber isNegative rest with
    | .error f => f
    | .ok (.natural n, rest) => as (.integer n) rest
    | .ok (.negative n, rest) => as (.integer (-n)) rest
    | .ok (.float x, rest) => as (.float x) rest
  match cs with
  | 'n' :: rest => named ['u', 'l', 'l'] .null rest
  | 't' :: rest => named ['r', 'u', 'e'] (.flag true) rest
  | 'f' :: rest => named ['a', 'l', 's', 'e'] (.flag false) rest
  | '-' :: rest => numbered true rest
  | '"' :: rest =>
    match readTextBody rest with
    | .error f => f
    | .ok (s, rest) => as (.text (String.ofList s)) rest
  | '[' :: _ => as .list cs
  | '\x7b' :: _ => as .map cs
  | c :: _ => if isDigit c then numbered false cs else faultPast .expectedValue cs
  | [] => ⟨.expectedValue, 0⟩

/-- A text. -/
def text [StrayBytes] : Reader String := fun cs =>
  match skipSpace cs with
  | [] => .error ⟨.endOfValue, 0⟩
  | '"' :: rest => do
    let (s, rest) ← readTextBody rest
    return (String.ofList s, rest)
  | cs => .error (wrongType "a string" cs)

/-- A text, or null for none. -/
def optionalText [StrayBytes] : Reader (Option String) := fun cs =>
  match skipSpace cs with
  | 'n' :: rest => do return (none, ← readName ['u', 'l', 'l'] rest)
  | cs => do
    let (s, rest) ← text cs
    return (some s, rest)

/-- A truth value. -/
def flag [StrayBytes] : Reader Bool := fun cs =>
  match skipSpace cs with
  | [] => .error ⟨.endOfValue, 0⟩
  | 't' :: rest => do return (true, ← readName ['r', 'u', 'e'] rest)
  | 'f' :: rest => do return (false, ← readName ['a', 'l', 's', 'e'] rest)
  | cs => .error (wrongType "a boolean" cs)

/-- A whole number of 64 bits without a sign. -/
def word64 [StrayBytes] : Reader Nat := fun cs =>
  let checked (isNegative : Bool) (cs : List Char) : Except Fault (Nat × List Char) := do
    match ← readNumber isNegative cs with
    | (.natural n, rest) => return (n, rest)
    | (.negative n, rest) => throw (faultAt (.invalidValue (.integer (-n)) "u64") rest)
    | (.float x, rest) => throw (faultAt (.invalidType (.float x) "u64") rest)
  match skipSpace cs with
  | [] => .error ⟨.endOfValue, 0⟩
  | '-' :: rest => checked true rest
  | c :: rest =>
    if isDigit c then checked false (c :: rest) else .error (wrongType "u64" (c :: rest))

/-- What follows the colon of a member. -/
def colon (cs : List Char) : Except Fault (List Char) :=
  match skipSpace cs with
  | [] => .error ⟨.endOfObject, 0⟩
  | ':' :: rest => .ok rest
  | cs => .error (faultPast .expectedColon cs)

/-- The place of the next element of a list, or nothing and what follows the list; `first`
tells whether none was read yet. -/
def nextElement (first : Bool) (cs : List Char) : Except Fault (Bool × List Char) :=
  match skipSpace cs with
  | [] => .error ⟨.endOfList, 0⟩
  | ']' :: rest => .ok (false, rest)
  | ',' :: rest =>
    if first then .ok (true, ',' :: rest)
    else
      match skipSpace rest with
      | [] => .error ⟨.endOfValue, 0⟩
      | ']' :: rest => .error (faultPast .trailingComma (']' :: rest))
      | cs => .ok (true, cs)
  | cs => if first then .ok (true, cs) else .error (faultPast .expectedListCommaOrEnd cs)

/-- The key of the next member of an object, or nothing and what follows the object; `first`
tells whether none was read yet. -/
def nextKey [StrayBytes] (first : Bool) (cs : List Char) :
    Except Fault (Option String × List Char) :=
  let key (rest : List Char) : Except Fault (Option String × List Char) := do
    let (s, rest) ← readTextBody rest
    return (some (String.ofList s), rest)
  match skipSpace cs with
  | [] => .error ⟨.endOfObject, 0⟩
  | '\x7d' :: rest => .ok (none, rest)
  | c :: rest =>
    if first then
      if c = '"' then key rest else .error (faultPast .keyMustBeText (c :: rest))
    else if c = ',' then
      match skipSpace rest with
      | [] => .error ⟨.endOfValue, 0⟩
      | '"' :: rest => key rest
      | '\x7d' :: rest => .error (faultPast .trailingComma ('\x7d' :: rest))
      | cs => .error (faultPast .keyMustBeText cs)
    else .error (faultPast .expectedObjectCommaOrEnd (c :: rest))

/-- The elements of a list after its opening bracket, in at most `fuel` steps. -/
def elements {α : Type} (item : Reader α) : Nat → Bool → Reader (List α)
  | 0, _, _ => .error ⟨.endOfList, 0⟩
  | fuel + 1, first, cs => do
    let (more, cs) ← nextElement first cs
    if !more then return ([], cs)
    let (a, cs) ← item cs
    let (rest, cs) ← elements item fuel false cs
    return (a :: rest, cs)

/-- A list. -/
def list [StrayBytes] {α : Type} (item : Reader α) : Reader (List α) := fun cs =>
  match skipSpace cs with
  | [] => .error ⟨.endOfValue, 0⟩
  | '[' :: rest => elements item (rest.length + 1) true rest
  | cs => .error (wrongType "a sequence" cs)

/-- The members of an object after its opening bracket, all of one kind, in at most `fuel`
steps; of two members with one key the later one holds. -/
def dictMembers [StrayBytes] {α : Type} (item : Reader α) : Nat → Bool → Dict α → Reader (Dict α)
  | 0, _, _, _ => .error ⟨.endOfObject, 0⟩
  | fuel + 1, first, d, cs => do
    match ← nextKey first cs with
    | (none, cs) => return (d, cs)
    | (some key, cs) =>
      let (a, cs) ← item (← colon cs)
      dictMembers item fuel false (d.insert key a) cs

/-- An object whose members are all of one kind. -/
def dict [StrayBytes] {α : Type} (item : Reader α) : Reader (Dict α) := fun cs =>
  match skipSpace cs with
  | [] => .error ⟨.endOfValue, 0⟩
  | '\x7b' :: rest => dictMembers item (rest.length + 1) true ∅ rest
  | cs => .error (wrongType "a map" cs)

/-! ## Records -/

/-- A named field: how its value is read and stored, and whether a record without it is
faulty. -/
structure Field (σ : Type) where
  name : String
  required : Bool
  read : σ → Reader σ

/-- A field that is stored by `set`. -/
def Field.stored {σ α : Type} (name : String) (required : Bool) (item : Reader α)
    (set : σ → α → σ) : Field σ :=
  ⟨name, required, fun r cs => do
    let (a, cs) ← item cs
    return (set r a, cs)⟩

/-- A kind of record: its name in faults, its fields, and the record before any field is
read. -/
structure Record (σ : Type) where
  name : String
  fields : List (Field σ)
  blank : σ

namespace Record

variable {σ : Type}

/-- What follows the closing bracket, if it comes next. -/
def afterClosing (bracket : Char) (cs : List Char) : List Char :=
  match skipSpace cs with
  | [] => []
  | c :: rest => if c = bracket then rest else c :: rest

/-- The members of an object after its opening bracket, in at most `fuel` steps; `seen` are
the fields read so far. -/
def members [StrayBytes] (r : Record σ) : Nat → Bool → List String → σ → Reader σ
  | 0, _, _, _, _ => .error ⟨.endOfObject, 0⟩
  | fuel + 1, first, seen, v, cs => do
    match ← nextKey first cs with
    | (none, cs) =>
      match r.fields.find? fun f => f.required && !seen.contains f.name with
      | some f => throw (faultAt (.missingField f.name) cs)
      | none => return (v, cs)
    | (some key, cs) =>
      match r.fields.find? fun f => f.name == key with
      | none => members r fuel false seen v (← skipValue (← colon cs))
      | some f =>
        if seen.contains key then
          throw (faultAt (.duplicateField key) (afterClosing '\x7d' cs))
        let (v, cs) ← f.read v (← colon cs)
        members r fuel false (key :: seen) v cs

/-- The fields in their order from a list after its opening bracket, `index` of them read. -/
def items (r : Record σ) : List (Field σ) → Nat → σ → Reader σ
  | [], _, v, cs => do
    -- behind the last field only the closing bracket may come
    match skipSpace cs with
    | [] => throw ⟨.endOfList, 0⟩
    | ']' :: rest => return (v, rest)
    | ',' :: rest =>
      match skipSpace rest with
      | ']' :: rest => throw (faultPast .trailingComma (']' :: rest))
      | rest => throw (faultPast .trailingCharacters rest)
    | cs => throw (faultPast .trailingCharacters cs)
  | f :: fields, index, v, cs => do
    let (more, rest) ← nextElement (index = 0) cs
    if more then
      let (v, rest) ← f.read v rest
      items r fields (index + 1) v rest
    else
      match (f :: fields).find? (·.required) with
      | none => return (v, rest)
      | some missing =>
        let expected := r.name ++ " with " ++ toString r.fields.length ++ " elements"
        let length := index + (f :: fields).findIdx (·.name == missing.name)
        throw (faultAt (.invalidLength length expected) rest)

/-- A record of this kind. -/
def read [StrayBytes] (r : Record σ) : Reader σ := fun cs =>
  match skipSpace cs with
  | [] => .error ⟨.endOfValue, 0⟩
  | '[' :: rest => r.items r.fields 0 r.blank rest
  | '\x7b' :: rest => r.members (rest.length + 1) true [] r.blank rest
  | cs => .error (wrongType r.name cs)

end Record

/-- Reads a text that holds one value and nothing else. -/
def decode {α : Type} (item : Reader α) (cs : List Char) : Except Fault α := do
  let (a, rest) ← item cs
  match skipSpace rest with
  | [] => return a
  | rest => throw (faultPast .trailingCharacters rest)

end HostAgent.Json
