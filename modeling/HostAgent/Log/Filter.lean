import HostAgent.Event
import HostAgent.Number.Decimal
import HostAgent.Text.Blank
import HostAgent.Text.Case
import HostAgent.Text.Pattern
import HostAgent.Text.Split

set_option autoImplicit false

/-! # Log filters

A log filter says which events are logged. It is written as directives between commas. A
directive names a target, a level, or a target and after an equals sign a level; a target is
named by how it starts, and without a level all its events are logged. Brackets may follow the
target: they hold the name of a span, the names of fields in braces, which an event has to
have, or both. Of the directives that apply to an event the most specific one decides.

There are no spans. So a directive that names one, or asks for the value of a field, which only
spans are searched for, applies to no event.
-/

namespace HostAgent

/-- How talkative one must be to report events of a level. -/
def Level.verbosity : Level → Nat
  | .error => 1
  | .warn => 2
  | .info => 3

/-- A field that a directive asks for. -/
structure FieldFilter where
  name : String
  value? : Option String := none
deriving DecidableEq, Repr

/-- A directive of a log filter. Its verbosity goes from 0 (silent) to 5. -/
structure LogDirective where
  target? : Option String := none
  span? : Option String := none
  fields : List FieldFilter := []
  verbosity : Nat := 5
deriving DecidableEq, Repr

namespace LogDirective

/-- Why a text is not a directive. -/
inductive Fault
  | malformed
  | unknownLevel
  | pattern (fault : Pattern.Fault)
deriving DecidableEq, Repr

/-- The wording of a fault. -/
def Fault.message : Fault → String
  | .malformed => "invalid filter directive"
  | .unknownLevel => "error parsing level filter: expected one of \"off\", \"error\", "
      ++ "\"warn\", \"info\", \"debug\", \"trace\", or a number 0-5"
  | .pattern fault => "invalid field filter: " ++ fault.message

/-! ## Which events a directive is about -/

/-- Whether a directive is about events, rather than about spans. -/
def isPlain (d : LogDirective) : Bool := d.span?.isNone && d.fields.all (·.value?.isNone)

/-- Whether a directive applies to the events of a target with fields of the given names. -/
def appliesTo (d : LogDirective) (target : String) (names : List String) : Bool :=
  d.isPlain
    && (match d.target? with
      | none => true
      | some start => start.toList.isPrefixOf target.toList)
    && d.fields.all fun f => names.contains f.name

/-- How specific a target is: the longer it is the more so, and the least if there is none. -/
def targetRank (d : LogDirective) : Nat := (d.target?.map (·.length + 1)).getD 0

/-- Which of two directives that apply to the same event is the more specific one: the one with
the longer target, then with more fields; in the end the names of the fields decide. -/
def compareRank (d e : LogDirective) : Ordering :=
  let names (d : LogDirective) := d.fields.map (·.name)
  (compare d.targetRank e.targetRank).then <|
    (compare d.fields.length e.fields.length).then <|
      if names d < names e then .lt else if names d = names e then .eq else .gt

/-! ## Reading -/

/-- The names of the levels from 0 on. -/
def levelNames : List String := ["off", "error", "warn", "info", "debug", "trace"]

/-- The most talkative level. -/
def maxVerbosity : Nat := 5

/-- The level that a text names. -/
def readLevel? (s : String) : Option Nat :=
  match Decimal.read Decimal.max64 s with
  | .ok n => if n ≤ maxVerbosity then some n else none
  | .error _ => levelNames.idxOf? (foldCase s)

/-- The level after an equals sign; none at all means everything. -/
def readAssigned (cs : List Char) : Except Fault Nat :=
  if cs.isEmpty then .ok maxVerbosity
  else
    match readLevel? (String.ofList cs) with
    | some n => .ok n
    | none => .error .unknownLevel

/-- Whether a text is a decimal number, possibly with a fraction and an exponent, or one of the
words for numbers that are none. -/
def isNumeric (cs : List Char) : Bool :=
  let cs := match cs with
    | '+' :: rest | '-' :: rest => rest
    | cs => cs
  let whole := cs.takeWhile Char.isDigit
  let rest := cs.drop whole.length
  let fraction := if rest.head? = some '.' then rest.tail.takeWhile Char.isDigit else []
  let rest := if rest.head? = some '.' then rest.drop (fraction.length + 1) else rest
  let exponent : List Char → Bool
    | [] => true
    | e :: '+' :: digits | e :: '-' :: digits =>
      e.toLower == 'e' && !digits.isEmpty && digits.all Char.isDigit
    | e :: digits => e.toLower == 'e' && !digits.isEmpty && digits.all Char.isDigit
  ["inf", "infinity", "nan"].contains (foldCase (String.ofList cs))
    || (!(whole ++ fraction).isEmpty && exponent rest)

/-- The field that a text between braces asks for. A value is a number or a pattern. -/
def readField (cs : List Char) : Except Fault FieldFilter :=
  match splitChars '=' cs with
  | name :: value :: _ =>
    let field : FieldFilter := ⟨String.ofList name, some (String.ofList value)⟩
    if isNumeric value then .ok field
    else
      match Pattern.check (String.ofList value) with
      | some fault => .error (.pattern fault)
      | none => .ok field
  | _ => .ok ⟨String.ofList cs, none⟩

/-- Where in a directive a reader is; the numbers tell where the part that it reads starts. -/
inductive Stage
  | start
  | target (start : Nat)
  | span (start : Nat)
  | field (start : Nat)
  | fieldsEnd
  | bracketsEnd
  | level (start : Nat)
deriving DecidableEq, Repr

/-- Whether a directive can start with a character. -/
def canStart (c : Char) : Bool := ['-', ':', '_'].contains c || isWordChar c

/-- The part of a text from one place to another. -/
def slice (text : List Char) (first last : Nat) : List Char := (text.drop first).take (last - first)

/-- A directive so far and where its reader is, after the character `c` at place `i`; the parts
are cut out of `text`. -/
def step (text : List Char) (read : LogDirective × Stage) (i : Nat) (c : Char) :
    Except Fault (LogDirective × Stage) :=
  let (d, stage) := read
  let part (first : Nat) : String := String.ofList (slice text first i)
  match stage with
  | .start =>
    if c = '[' then .ok (d, .span (i + 1))
    else if canStart c then .ok (d, .target i)
    else .error .malformed
  | .target first =>
    if c = '=' then .ok ({ d with target? := some (part first) }, .level (i + 1))
    else if c = '[' then .ok ({ d with target? := some (part first) }, .span (i + 1))
    else .ok read
  | .span first =>
    if c = ']' then .ok ({ d with span? := some (part first) }, .bracketsEnd)
    else if c = '\x7b' then
      .ok ({ d with span? := if part first = "" then none else some (part first) }, .field (i + 1))
    else .ok read
  | .field first =>
    if c = '\x7d' then
      if part first = "" then .error .malformed
      else (readField (slice text first i)).map fun f =>
        ({ d with fields := d.fields ++ [f] }, .fieldsEnd)
    else .ok read
  | .fieldsEnd => if c = ']' then .ok (d, .bracketsEnd) else .error .malformed
  | .bracketsEnd => if c = '=' then .ok (d, .level (i + 1)) else .error .malformed
  | .level _ => .ok read

/-- The directive when its end is reached. -/
def finish (text : List Char) (read : LogDirective × Stage) : Except Fault LogDirective :=
  let (d, stage) := read
  match stage with
  | .target first =>
    let word := String.ofList (text.drop first)
    match readLevel? word with
    | some n => .ok { d with verbosity := n }
    | none => .ok { d with target? := some word }
  | .level first => (readAssigned (text.drop first)).map fun n => { d with verbosity := n }
  | .bracketsEnd => .ok d
  | _ => .error .malformed

/-- The directive that a text stands for. Blanks around it do not count when places are
counted, but the parts are cut out of the text that has them. -/
def read (s : String) : Except Fault LogDirective := do
  let text := s.toList
  let last ← (trimChars text).zipIdx.foldlM (fun at_ (c, i) => step text at_ i c) ({}, .start)
  finish text last

end LogDirective

/-- A log filter. -/
structure LogFilter where
  directives : List LogDirective
deriving DecidableEq, Repr

namespace LogFilter

/-- The texts between commas that are not empty. -/
def pieces (s : String) : List String := (splitText ',' s).filter fun p => !p.isEmpty

/-- The filter that a text stands for; one wrong directive spoils all. Without directives
nothing is logged. -/
def read (s : String) : Except LogDirective.Fault LogFilter :=
  ((pieces s).mapM LogDirective.read).map LogFilter.mk

/-- The complaint about a wrong directive. -/
def complaint? (piece : String) : Option String :=
  match LogDirective.read piece with
  | .ok _ => none
  | .error fault => some ("ignoring `" ++ piece ++ "`: " ++ fault.message)

/-- The filter that lets errors through. -/
def errorsOnly : LogFilter := ⟨[{ verbosity := Level.error.verbosity }]⟩

/-- The filter that the right ones of the directives of a text make up, and the complaints
about the wrong ones. Without any that are right, errors are let through. -/
def readRight (s : String) : LogFilter × List String :=
  let directives := (pieces s).filterMap fun p => (LogDirective.read p).toOption
  (if directives.isEmpty then errorsOnly else ⟨directives⟩, (pieces s).filterMap complaint?)

/-- The directive that decides about the events of a target with fields of the given names: the
most specific one that applies to them, and of several alike the last. -/
def decisive? (f : LogFilter) (target : String) (names : List String) : Option LogDirective :=
  (f.directives.filter (·.appliesTo target names)).foldl (fun best d =>
    match best with
    | some b => if d.compareRank b = .lt then best else some d
    | none => some d) none

/-- Whether events of a level are logged that have the given target and names of fields. -/
def admits (f : LogFilter) (target : String) (names : List String) (level : Level) : Bool :=
  match f.decisive? target names with
  | none => false
  | some d => level.verbosity ≤ d.verbosity

end LogFilter

end HostAgent
