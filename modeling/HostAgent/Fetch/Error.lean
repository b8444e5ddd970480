import HostAgent.Text.Case

set_option autoImplicit false

/-! # Failed fetches

A fetch of published metadata fails in one of five ways. The agent retries all of them alike;
what differs is the advice to the operator, which depends on the broad kind of the failure.

A transport reports a failure as a chain of causes, outermost first. `classify` gives the
kind of a chain: a name that could not be resolved anywhere in the chain outweighs a network
that is down, and that outweighs everything else.
-/

namespace HostAgent

/-- The broad kinds of failed fetches, in the order of their weight. -/
inductive FetchError.Kind
  | other
  | network
  | dns
deriving DecidableEq, Repr

/-- A failed fetch. -/
inductive FetchError
  | dns (text : String)
  | network (text : String)
  | status (code : Nat) (body : String)
  | decode (text : String)
  | request (text : String)
deriving DecidableEq, Repr

namespace FetchError

/-- The name of a kind. -/
def Kind.name : Kind → String
  | .other => "Other"
  | .network => "Network"
  | .dns => "Dns"

/-- The wording of a failure. -/
def message : FetchError → String
  | .dns text => "dns error requesting metadata: " ++ text
  | .network text => "network error requesting metadata: " ++ text
  | .status code body => "metadata server returned " ++ toString code ++ ": " ++ body
  | .decode text => "invalid metadata response: " ++ text
  | .request text => "metadata request failed: " ++ text

/-- The kind of a failure. -/
def kind : FetchError → Kind
  | .dns _ => .dns
  | .network _ => .network
  | .status _ _ | .decode _ | .request _ => .other

/-- What the operator can do about failures of a kind. -/
def Kind.hint : Kind → Option String
  | .dns => some ("DNS error when requesting metadata, check DNS settings and ensure "
      ++ "metadata.google.internal is setup in your hosts file.")
  | .network => some ("Network error when requesting metadata, make sure your instance has an "
      ++ "active network and can reach the metadata server.")
  | .other => none

/-- What the operator can do about a failure. -/
def hint (e : FetchError) : Option String := e.kind.hint

end FetchError

/-- The kinds of failed input and output that mean that the network is down, and all others. -/
inductive IoKind
  | connectionRefused
  | connectionReset
  | connectionAborted
  | notConnected
  | addressNotAvailable
  | networkUnreachable
  | hostUnreachable
  | networkDown
  | unrelated
deriving DecidableEq, Repr

/-- One cause in a chain: its text, and its kind if it is a failed input or output. -/
structure Cause where
  text : String
  io : Option IoKind := none
deriving DecidableEq, Repr

namespace Cause

/-- The phrases, in lower case, by which a cause tells that a name was not resolved. -/
def dnsPhrases : List String :=
  ["dns error", "failed to lookup address", "name or service not known", "no such host"]

/-- Whether `part` occurs in `whole` without a gap. -/
def occursIn (part : List Char) : List Char → Bool
  | [] => part.isEmpty
  | c :: rest => part.isPrefixOf (c :: rest) || occursIn part rest

/-- Whether the text of a cause holds one of the phrases, in any case. -/
def namesDns (c : Cause) : Bool :=
  let text := (foldCase c.text).toList
  dnsPhrases.any fun phrase => occursIn phrase.toList text

/-- Whether a cause is a network failure by its kind. -/
def isNetwork (c : Cause) : Bool :=
  match c.io with
  | none => false
  | some kind => kind != .unrelated

end Cause

namespace FetchError

/-- The kind of a chain of causes, given whether a network failure was seen before it. -/
def classifyAfter (network : Bool) : List Cause → Kind
  | [] => if network then .network else .other
  | c :: rest => if c.namesDns then .dns else classifyAfter (network || c.isNetwork) rest

/-- The kind of a chain of causes. -/
def classify (chain : List Cause) : Kind := classifyAfter false chain

/-- The texts of a chain of causes joined by colons; a text that repeats the one before it
is left out. -/
def chainText (chain : List Cause) : String :=
  ": ".intercalate (dropRepeats none (chain.map Cause.text))
where
  /-- `texts` without those that repeat the text before them. -/
  dropRepeats (last : Option String) : List String → List String
    | [] => []
    | t :: rest => if last = some t then dropRepeats last rest else t :: dropRepeats (some t) rest

end FetchError

end HostAgent
