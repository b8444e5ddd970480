import HostAgent.Event
import HostAgent.Instant
import HostAgent.Json.Decode
import HostAgent.Text.Split

set_option autoImplicit false

/-! # Account keys

The accounts of a machine are published as lines of text, one JSON object a line. A line is
*usable* if it holds an account key that names a user and has not expired. Of several usable
lines for one user the last one counts. Every line that is neither blank nor usable is
reported, in the order of the lines.
-/

namespace HostAgent

/-- A user, and the public key with which credentials are handed over. -/
structure AccountKey where
  userName : String := ""
  email : String := ""
  expireOn : Option String := none
  modulus : String := ""
  exponent : String := ""
deriving DecidableEq, Repr

namespace AccountKey

/-- The record of an account key. -/
def record : Json.Record AccountKey where
  name := "struct AccountKey"
  blank := {}
  fields := [
    .stored "userName" true Json.text fun r v => { r with userName := v },
    .stored "email" false Json.text fun r v => { r with email := v },
    .stored "expireOn" false Json.optionalText fun r v => { r with expireOn := v },
    .stored "modulus" true Json.text fun r v => { r with modulus := v },
    .stored "exponent" true Json.text fun r v => { r with exponent := v }]

/-- What a line that is not blank turns out to be. -/
inductive Line
  | usable (key : AccountKey)
  | malformed (fault : String)
  | nameless
  | expired (user : String)
deriving DecidableEq, Repr

/-- What a trimmed line is at `now`. -/
def Line.read (now : Instant) (line : List Char) : Line :=
  match Json.decode record.read line with
  | .error fault => .malformed (fault.message line)
  | .ok key =>
    if key.userName.isEmpty then .nameless
    else if hasExpired key.expireOn now then .expired key.userName
    else .usable key

/-- The report on a line that is not usable. -/
def Line.report : Line → Log
  | .usable _ => []
  | .malformed fault =>
    [⟨.warn, .domain "accounts", "Skipping malformed account key", [("error", .shown fault)]⟩]
  | .nameless =>
    [⟨.warn, .domain "accounts", "Skipping account key without a user name", []⟩]
  | .expired user =>
    [⟨.info, .domain "accounts", "Skipping expired account key", [("user", .shown user)]⟩]

/-- The key of a usable line. -/
def Line.key? : Line → Option AccountKey
  | .usable key => some key
  | _ => none

/-- The lines of a text that are not blank, trimmed. -/
def contentLines (raw : String) : List (List Char) :=
  ((splitChars '\n' raw.toList).map trimChars).filter fun line => !line.isEmpty

/-- What the lines of a text are at `now`. -/
def readLines (raw : String) (now : Instant) : List Line :=
  (contentLines raw).map (Line.read now)

/-- The usable keys by user; of several for one user the last. -/
def byUser (lines : List Line) : Dict AccountKey :=
  Dict.ofList ((lines.filterMap Line.key?).map fun key => (key.userName, key))

/-- The keys that a text publishes at `now`, in the order of their users, and the report on
its other lines. -/
def readAll (raw : String) (now : Instant) : List AccountKey × Log :=
  let lines := readLines raw now
  ((byUser lines).values, lines.flatMap Line.report)

end AccountKey

end HostAgent
