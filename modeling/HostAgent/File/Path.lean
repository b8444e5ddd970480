import HostAgent.Text.Split

set_option autoImplicit false

/-! # Paths

Paths are texts, their parts separated by slashes. `Path.split` divides a path at its last
slash into the way to the file and the name of the file; `Path.parts` are all the steps that a
path takes.
-/

namespace HostAgent.Path

/-- The characters of a path up to its last slash, the slash included, and those after it. -/
def splitChars (path : List Char) : List Char × List Char :=
  let name := path.reverse.takeWhile (· != '/')
  ((path.reverse.drop name.length).reverse, name.reverse)

/-- The way to a file, with the slash that ends it, and the name of the file. -/
def split (path : String) : String × String :=
  let (way, name) := splitChars path.toList
  (String.ofList way, String.ofList name)

/-- The name of the file. -/
def fileName (path : String) : String := (split path).2

/-- Whether a path starts at the root. -/
def isAbsolute (path : String) : Bool := path.toList.head? = some '/'

/-- The steps of a path. Empty parts are none, except after a slash at the end. -/
def parts (path : String) : List String :=
  let all := splitText '/' path
  all.dropLast.filter (· ≠ "") ++ all.getLast?.toList

/-- The path of `name` seen from a directory. A name that starts with a slash is a path of its
own. -/
def join (directory name : String) : String :=
  if isAbsolute name then name
  else if directory.toList = [] ∨ directory.toList.getLast? = some '/' then directory ++ name
  else directory ++ "/" ++ name

/-- A name without its extension: what follows its last dot, unless the name starts with
that. -/
def stem (name : List Char) : List Char :=
  let extension := name.reverse.takeWhile (· != '.')
  let rest := (name.reverse.drop (extension.length + 1)).reverse
  if rest.isEmpty then name else rest

/-- A path with another extension in the place of its own. -/
def withExtension (path extension : String) : String :=
  let (way, name) := splitChars path.toList
  String.ofList (way ++ stem name ++ '.' :: extension.toList)

end HostAgent.Path
