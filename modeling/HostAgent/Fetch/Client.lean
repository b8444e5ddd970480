import HostAgent.Fetch.Error
import HostAgent.Settings
import HostAgent.Snapshot.Decode
import HostAgent.Url.Read

set_option autoImplicit false

/-! # Fetches from the metadata service

The client asks the metadata service for the published snapshot. The service holds its answer
back until there is something new or the poll has lasted long enough; what is new it tells by
the tag of the snapshot that the client received last, which the client sends along.

How a request travels is left open: an `Exchange` answers a request with a response, redirects
being followed already, or with the chain of causes for which there is none.
-/

namespace HostAgent

/-- A request to read what an address shows. -/
structure Request where
  url : Url
  headers : List (String × String) := [("Metadata-Flavor", "Google")]
  /-- How many seconds the client waits for the response. -/
  patience : Nat
deriving DecidableEq, Repr

/-- A response: its status, its headers with names in lower case, and its body. -/
structure Response where
  status : Nat
  headers : List (String × List UInt8)
  body : List UInt8
deriving DecidableEq, Repr

/-- Why there is no response. -/
structure NoResponse where
  /-- The causes, outermost first. -/
  causes : List Cause
  /-- Whether the service was not even reached. -/
  unreached : Bool := false
deriving DecidableEq, Repr

/-- How requests are answered. -/
abbrev Exchange := Request → Except NoResponse Response

namespace NoResponse

/-- The failure of a fetch without a response. -/
def toFetchError (n : NoResponse) : FetchError :=
  let text := FetchError.chainText n.causes
  match FetchError.classify n.causes with
  | .dns => .dns text
  | .network => .network text
  | .other => if n.unreached then .network text else .request text

/-- A request that cannot even be made, with the address it was made for as far as there is
one. -/
def unmade (url? : Option Url) (reason : String) : NoResponse where
  causes :=
    let place := match url? with
      | none => ""
      | some url => " for url (" ++ url.text ++ ")"
    [⟨"builder error" ++ place, none⟩, ⟨reason, none⟩]

/-- A request for which the network knows no way. -/
def networkUnreachable (url : Url) : NoResponse where
  causes := [⟨"error sending request for url (" ++ url.text ++ ")", none⟩,
    ⟨"client error (Connect)", none⟩,
    ⟨"tcp connect error", none⟩,
    ⟨"Network is unreachable (os error 101)", some .networkUnreachable⟩]
  unreached := true

end NoResponse

namespace Response

/-- Whether a response brings what was asked for. -/
def succeeded (r : Response) : Bool := 200 ≤ r.status && r.status < 300

/-- The value of the first header of the given name. -/
def header? (r : Response) (name : String) : Option (List UInt8) :=
  (r.headers.find? fun h => h.1 == name).map (·.2)

/-- Whether a byte of a header can be read as a character. -/
def isReadable (b : UInt8) : Bool := b == 0x09 || (0x20 ≤ b.toNat && b.toNat ≤ 0x7E)

/-- The tag of what a response brings, if it can be read. -/
def tag? (r : Response) : Option String :=
  match r.header? "etag" with
  | none => none
  | some value =>
    if value.all isReadable then some (String.ofList (value.map Percent.charOf)) else none

/-- The snapshot that a response brings. -/
def read (r : Response) : Except FetchError Snapshot :=
  if r.succeeded then
    match Snapshot.parseBytes r.body with
    | .ok s => .ok s
    | .error fault => .error (.decode ("error decoding response body: " ++ fault))
  else .error (.status r.status (Utf8.decodeLossy r.body))

end Response

/-- A client of the metadata service. -/
structure Client where
  url : String
  /-- How many seconds the service may hold its answer back. -/
  pollSecs : Nat
  /-- The tag of the snapshot received last. -/
  tag : String := "NONE"
deriving DecidableEq, Repr

namespace Client

/-- A client that follows settings. -/
def ofSettings (s : Settings) : Client where
  url := s.metadataUrl
  pollSecs := s.longPollTimeoutSecs

/-- How many seconds the client waits beyond the poll. -/
def margin : Nat := 10

/-- The parameters of the next request. -/
def parameters (c : Client) : List (String × String) :=
  [("recursive", "true"), ("alt", "json"), ("wait_for_change", "true"),
    ("timeout_sec", toString c.pollSecs), ("last_etag", c.tag)]

/-- The longest address that a request can carry. -/
def maxUrlSize : Nat := 65534

/-- The characters that a host may hold but a request cannot carry. -/
def uncarried (c : Char) : Bool := ['"', '\x60', '\x7b', '\x7d'].contains c

/-- The next request. Only a host can be asked, and only under the schemes of the web. -/
def request (c : Client) : Except NoResponse Request :=
  match Url.read c.url with
  | .error fault => .error (.unmade none fault.message)
  | .ok base =>
    let base := base.withoutCredentials
    let url := base.withParameters c.parameters
    if !base.hasHost then .error (.unmade (some base) "URL scheme is not allowed")
    else if !(["http", "https"].contains url.scheme) then
      .error (.unmade (some url) "URL scheme is not allowed")
    else if maxUrlSize < url.text.utf8ByteSize ∨ url.authorityText.toList.any uncarried then
      .error (.unmade (some url) "Parsed Url is not a valid Uri")
    else .ok { url, patience := c.pollSecs + margin }

/-- The answer to the next request. -/
def answer (c : Client) (exchange : Exchange) : Except NoResponse Response := do
  exchange (← c.request)

/-- The client after an answer, and the snapshot that the answer brings. The tag changes with a
snapshot only, and only if the response has a readable one. -/
def receive (c : Client) : Except NoResponse Response → Client × Except FetchError Snapshot
  | .error n => (c, .error n.toFetchError)
  | .ok r =>
    match r.read with
    | .error e => (c, .error e)
    | .ok s => ({ c with tag := r.tag?.getD c.tag }, .ok s)

/-- A fetch: the client after it, and its result. -/
def fetch (c : Client) (exchange : Exchange) : Client × Except FetchError Snapshot :=
  c.receive (c.answer exchange)

end Client

end HostAgent
