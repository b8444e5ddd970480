import HostAgent.Text.Split
import HostAgent.Url.Percent

set_option autoImplicit false

/-! # Parameters of a query

A query carries parameters: pairs of a name and a value, joined by ampersands. In a name or a
value, letters, digits and four marks stand for themselves, a space becomes a plus sign, and
every other byte takes percent form. `parameters` reads such a query back.
-/

namespace HostAgent.Form

/-- What stands for itself in a parameter. -/
def keeps (c : Char) : Bool := c.isAlphanum || ['*', '-', '.', '_'].contains c

/-- One byte of a parameter. -/
def encodeByte (b : UInt8) : List Char :=
  if b = 0x20 then ['+'] else Percent.encodeByte keeps b

/-- The name or the value of a parameter in a query. -/
def encode (s : String) : List Char := (Utf8.encode s).flatMap encodeByte

/-- A parameter in a query. -/
def encodePair (pair : String × String) : List Char := encode pair.1 ++ '=' :: encode pair.2

/-- A query with a parameter added to it. -/
def append (query : List Char) (pair : String × String) : List Char :=
  if query.isEmpty then encodePair pair else query ++ '&' :: encodePair pair

/-- The text that a name or a value stands for. -/
def decode (cs : List Char) : String :=
  Utf8.decodeLossy (Percent.decode (cs.map fun c => if c = '+' then ' ' else c))

/-- The parameter that stands between two ampersands. -/
def decodePair (cs : List Char) : String × String :=
  (decode (cs.takeWhile (· != '=')), decode ((cs.dropWhile (· != '=')).drop 1))

/-- The parameters of a query. -/
def parameters (query : List Char) : List (String × String) :=
  ((splitChars '&' query).filter (!·.isEmpty)).map decodePair

end HostAgent.Form
