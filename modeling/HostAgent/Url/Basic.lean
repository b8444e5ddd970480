import HostAgent.Url.Form
import HostAgent.Url.Host

set_option autoImplicit false

/-! # Addresses

An address names a scheme, in most cases a host with a port, a path, and possibly a query and
a fragment. Credentials may precede the host. `Url.text` is its canonical spelling. The parts
are kept as they are spelled, so what may not stand for itself in a part is in percent form
already.
-/

namespace HostAgent

/-- An address. An address may do without a host; one that has an empty host shows that by its
slashes. -/
structure Url where
  scheme : String
  /-- The name of the user, empty if there is none. -/
  user : String := ""
  password? : Option String := none
  host? : Option Url.Host := none
  /-- The port, unless it is the usual one of the scheme. -/
  port? : Option Nat := none
  path : String := ""
  query? : Option String := none
  fragment? : Option String := none
deriving DecidableEq, Repr

namespace Url

/-- Whether an address has a host that is not empty. -/
def hasHost (u : Url) : Bool :=
  match u.host? with
  | none => false
  | some host => !host.isEmpty

/-- A part with the mark that goes before it. -/
def marked (mark : String) : Option String → String
  | none => ""
  | some part => mark ++ part

/-- The spelling of the credentials. -/
def credentialsText (u : Url) : String :=
  if u.user = "" ∧ u.password?.isNone then "" else u.user ++ marked ":" u.password? ++ "@"

/-- The spelling of the credentials, the host and the port. -/
def authorityText (u : Url) : String :=
  match u.host? with
  | none => if u.path.startsWith "//" then "/." else ""
  | some host =>
    "//" ++ u.credentialsText ++ host.text ++ marked ":" (u.port?.map toString)

/-- The spelling of an address. -/
def text (u : Url) : String :=
  u.scheme ++ ":" ++ u.authorityText ++ u.path ++ marked "?" u.query? ++ marked "#" u.fragment?

/-- The text that a part of the credentials stands for, if it is one. -/
def credential? (part : String) : Option String := Utf8.decode? (Percent.decode part.toList)

/-- An address without its credentials. They stay if the name of the user is no text, or if all
there is is a password that is no text. -/
def withoutCredentials (u : Url) : Url :=
  match credential? u.user, u.password?.bind credential? with
  | none, _ | some "", none => u
  | _, _ => { u with user := "", password? := none }

/-- An address with parameters added to its query. -/
def withParameters (u : Url) (pairs : List (String × String)) : Url :=
  { u with
    query? := some (String.ofList (pairs.foldl Form.append (u.query?.getD "").toList)) }

/-- The parameters in the query of an address. -/
def parameters (u : Url) : List (String × String) :=
  Form.parameters (u.query?.getD "").toList

end Url

end HostAgent
