import HostAgent.Url.Basic

set_option autoImplicit false

/-! # Reading addresses

An address is read part by part from the left, after blanks and controls around it and tabs
and line ends within it are gone. Under the well-known schemes a backslash is as good as a
slash and the number of slashes before the host does not matter.

A step of a path can be the letter of a drive: a letter with a colon or a bar. No path leads up
from there, and where a file lies on a drive its host does not matter.
-/

namespace HostAgent.Url

/-- The schemes whose addresses always have a host. -/
def hostedSchemes : List (String × Nat) :=
  [("http", 80), ("https", 443), ("ws", 80), ("wss", 443), ("ftp", 21)]

/-- The usual port of a scheme. -/
def usualPort? (scheme : String) : Option Nat :=
  (hostedSchemes.find? (·.1 == scheme)).map (·.2)

/-- Whether a scheme is one of the well-known ones. -/
def isSpecial (scheme : String) : Bool := scheme == "file" || (usualPort? scheme).isSome

/-- A text without the blanks and controls at its ends, and without tabs and line ends. -/
def clean (s : String) : List Char :=
  let outer (c : Char) : Bool := c.toNat ≤ 0x20
  let rest := ((s.toList.dropWhile outer).reverse.dropWhile outer).reverse
  rest.filter fun c => !(['\t', '\n', '\r'].contains c)

/-- The scheme before the first colon, and what follows that. -/
def readScheme (cs : List Char) : Option (String × List Char) :=
  let inScheme (c : Char) : Bool := c.isAlphanum || ['+', '-', '.'].contains c
  match cs.takeWhile inScheme, cs.dropWhile inScheme with
  | first :: more, ':' :: rest =>
    if first.isAlpha then some (String.ofList ((first :: more).map Char.toLower), rest) else none
  | _, _ => none

/-- Whether a character is a slash. -/
def isSlash (special : Bool) (c : Char) : Bool := c == '/' || (special && c == '\\')

/-- Whether a character ends the part that holds host and port. -/
def endsAuthority (special : Bool) (c : Char) : Bool :=
  isSlash special c || c == '?' || c == '#'

/-! ## Host and port -/

/-- What precedes the last `@`, if there is one, and what follows it. -/
def splitCredentials (cs : List Char) : Option (List Char) × List Char :=
  let host := (cs.reverse.takeWhile (· != '@')).reverse
  if host.length = cs.length then (none, cs)
  else (some (cs.take (cs.length - host.length - 1)), host)

/-- The text of a host and what follows it; a colon between brackets does not end a host. -/
def splitHost (bracket : Bool) : List Char → List Char × List Char
  | [] => ([], [])
  | c :: rest =>
    if c = ':' ∧ !bracket then ([], c :: rest)
    else
      let bracket := if c = '[' then true else if c = ']' then false else bracket
      let (host, after) := splitHost bracket rest
      (c :: host, after)

/-- The port after a host; the usual one is not kept. -/
def readPort (usual : Option Nat) : List Char → Except Fault (Option Nat)
  | ':' :: [] => .ok none
  | ':' :: digits =>
    match Decimal.readDigits Decimal.max16 0 digits with
    | .ok port => .ok (if some port = usual then none else some port)
    | .error _ => .error .malformedPort
  | _ => .ok none

/-- The name of the user and the password in credentials. Only the first colon divides them, and
an empty password is none. -/
def readCredentials (cs : List Char) : String × Option String :=
  let spell (cs : List Char) := String.ofList (Percent.encode Percent.keepsCredentials cs)
  let user := cs.takeWhile (· != ':')
  let password := cs.drop (user.length + 1)
  (spell user, if password.isEmpty then none else some (spell password))

/-- The address up to its port, from the part that holds credentials, host and port; `atEnd`
tells whether nothing follows that part. -/
def readAuthority (scheme : String) (cs : List Char) (atEnd : Bool) : Except Fault Url := do
  let special := isSpecial scheme
  let (credentials?, cs) := splitCredentials cs
  if credentials? = some [] ∧ cs.isEmpty ∧ !atEnd then throw .emptyHost
  let (user, password?) := readCredentials (credentials?.getD [])
  let (hostText, after) := splitHost false cs
  if special ∧ hostText.isEmpty then throw .emptyHost
  let host ← if special then Host.read hostText else Host.readOpaque hostText
  if host.isEmpty ∧ after.head? = some ':' then throw .emptyHost
  let port? ← readPort (usualPort? scheme) after
  if host.isEmpty ∧ (user ≠ "" ∨ password?.isSome) then throw .emptyHost
  return { scheme, user, password?, host? := some host, port? }

/-! ## Path, query and fragment -/

/-- Whether a step stays where it is. -/
def isHere (step : List Char) : Bool :=
  [".", "%2e"].contains (String.ofList (step.map Char.toLower))

/-- Whether a step leads one level up. -/
def isUp (step : List Char) : Bool :=
  ["..", ".%2e", "%2e.", "%2e%2e"].contains (String.ofList (step.map Char.toLower))

/-- Whether a step is the letter of a drive. -/
def isDrive : List Char → Bool
  | [letter, mark] => letter.isAlpha && (mark == ':' || mark == '|')
  | _ => false

/-- One level up from a place in a path, which is given by the steps to it, the last one
first. -/
def levelUp : List (List Char) → List (List Char)
  | [] => []
  | step :: before => if isDrive step then step :: before else before

/-- The steps that a text makes behind `done` in the path of a file. At the start of the path a
letter of a drive takes a colon, and what follows that is a step of its own. -/
def fileSteps (done : List (List Char)) (step : List Char) : List (List Char) :=
  match done, Percent.encode Percent.keepsPath step with
  | [], [letter, mark] => if isDrive [letter, mark] then [[letter, ':']] else [[letter, mark]]
  | [], letter :: ':' :: rest =>
    if isDrive [letter, ':'] then [rest, [letter, ':']] else [letter :: ':' :: rest]
  | _, spelled => [spelled]

/-- Follows the steps of a path from `done`, the steps so far with the last one first. A path
that ends by staying or going up ends in a slash. -/
def follow (ofFile : Bool) (done : List (List Char)) : List (List Char) → List (List Char)
  | [] => done
  | step :: rest =>
    let next :=
      if isUp step then levelUp done
      else if isHere step then done
      else if ofFile then fileSteps done step ++ done
      else Percent.encode Percent.keepsPath step :: done
    if rest.isEmpty ∧ (isUp step ∨ isHere step) then [] :: next else follow ofFile next rest

/-- The pieces of a text between slashes. -/
def steps (special : Bool) (cs : List Char) : List (List Char) :=
  splitChars '/' (cs.map fun c => if isSlash special c then '/' else c)

/-- A text without the slash that it may start with. -/
def behindSlash (special : Bool) : List Char → List Char
  | c :: rest => if isSlash special c then rest else c :: rest
  | [] => []

/-- The spelling of a path. -/
def pathText (steps : List (List Char)) : String :=
  String.ofList (steps.flatMap fun step => '/' :: step)

/-- The path of a scheme other than that of files, without the slash that it starts with. -/
def readPath (special : Bool) (cs : List Char) : String :=
  pathText (follow false [] (steps special cs)).reverse

/-- The path of a file. Slashes at its start count once. -/
def readFilePath (cs : List Char) : String :=
  let inner := (follow true [] (steps true cs)).reverse.dropWhile (·.isEmpty)
  pathText (if inner.isEmpty then [[]] else inner)

/-- Whether the path of a file meets the letter of a drive at its start, when it is followed from
`done`. -/
def meetsDrive (done : List (List Char)) : List (List Char) → Bool
  | [] => false
  | step :: rest =>
    if done.isEmpty ∧ isDrive step then true
    else if isUp step then meetsDrive (levelUp done) rest
    else if isHere step then meetsDrive done rest
    else meetsDrive (fileSteps done step ++ done) rest

/-- What follows a mark, up to the end. -/
def after (mark : Char) : List Char → Option (List Char)
  | [] => none
  | c :: rest => if c = mark then some rest else none

/-- An address with the query and the fragment that follow its path. -/
def withRest (u : Url) (cs : List Char) : Url :=
  let special := isSpecial u.scheme
  let keeps := if special then Percent.keepsSpecialQuery else Percent.keepsQuery
  let spell (keeps : Char → Bool) (cs : List Char) := String.ofList (Percent.encode keeps cs)
  { u with
    query? := (after '?' (cs.takeWhile (· != '#'))).map (spell keeps)
    fragment? := (after '#' (cs.dropWhile (· != '#'))).map (spell Percent.keepsFragment) }

/-- Whether a character stands before the query and the fragment. -/
def beforeQuery (c : Char) : Bool := c != '?' && c != '#'

/-- The address whose host starts here. -/
def readHosted (scheme : String) (cs : List Char) : Except Fault Url := do
  let special := isSpecial scheme
  let inAuthority (c : Char) : Bool := !endsAuthority special c
  let rest := cs.dropWhile inAuthority
  let u ← readAuthority scheme (cs.takeWhile inAuthority) rest.isEmpty
  let path := rest.takeWhile beforeQuery
  let path :=
    if path.isEmpty ∧ !special then "" else readPath special (behindSlash special path)
  return withRest { u with path } (rest.dropWhile beforeQuery)

/-- The address of a file without a host, from its path on. -/
def readLocalFile (cs : List Char) : Url :=
  let path := readFilePath (cs.takeWhile beforeQuery)
  withRest { scheme := "file", host? := some (.name ""), path } (cs.dropWhile beforeQuery)

/-- The address of a file, from its host on if two slashes precede that. What would be the host
may be the letter of a drive, with which the path begins. -/
def readFile (cs : List Char) : Except Fault Url := do
  match cs with
  | a :: b :: rest =>
    if isSlash true a ∧ isSlash true b then
      let hostText := rest.takeWhile fun c => !endsAuthority true c
      let after := rest.drop hostText.length
      if isDrive hostText then return readLocalFile rest
      let host ← if hostText.isEmpty then pure (Host.name "") else Host.read hostText
      if host = .name "" ∨ host = .name "localhost" then return readLocalFile after
      let path := behindSlash true (after.takeWhile beforeQuery)
      let host? := if meetsDrive [] (steps true path) then some (.name "") else some host
      let u : Url := { scheme := "file", host?, path := readFilePath path }
      return withRest u (after.dropWhile beforeQuery)
    else return readLocalFile (behindSlash true cs)
  | _ => return readLocalFile (behindSlash true cs)

/-- The address without a host, whose path may not even start with a slash. -/
def readBare (scheme : String) (cs : List Char) : Url :=
  let path := match cs.takeWhile beforeQuery with
    | '/' :: path => readPath false path
    | path => String.ofList (Percent.encode Percent.keepsVisible path)
  withRest { scheme, path } (cs.dropWhile beforeQuery)

/-- The address that a text stands for. -/
def read (s : String) : Except Fault Url :=
  match readScheme (clean s) with
  | none => .error .noScheme
  | some (scheme, rest) =>
    if scheme = "file" then readFile rest
    else if isSpecial scheme then readHosted scheme (rest.dropWhile (isSlash true))
    else
      match rest with
      | '/' :: '/' :: rest => readHosted scheme rest
      | rest => .ok (readBare scheme rest)

end HostAgent.Url
