import HostAgent.Dict
import HostAgent.File.Fault
import HostAgent.File.Path
import HostAgent.Text.Utf8

set_option autoImplicit false

/-! # Folders

A folder is a directory with what lies around it, or the place of one to which there is no way. Its
entries are files, symbolic links and further directories. Each has a place: the names on the way to
it from the folder, of which two dots lead one level up. The levels above a folder are directories;
what else they hold counts among the entries as well. A name without a slash is the place of an
entry of the folder itself.

Files and links are items, and a directory holds them by number. Entries with one number are names
of the same item, so what is written to a file is seen under each of its names.

A path is followed step by step. Every step but the last has to lead to a directory, also one
that the next step leaves again. A link on the way is replaced by the path in it, which starts in
the directory of the link. A link at the end is followed by `write`; `rename` and `remove` are
about the link itself.

An operation gives the folder after it or the reason why it is refused; a refused operation
changes nothing. `writeAtomic` is made of two operations, and if the second one is refused
the effect of the first remains.

Devices, limits of space and refusals of access are left out.
-/

namespace HostAgent

/-- What is seen of an entry from outside, the text of a file as far as it is one. -/
inductive Node
  | file (text : String)
  | directory
deriving DecidableEq, Repr

/-- What can stand under a name, apart from a directory. -/
inductive Item
  | file (contents : List UInt8)
  | link (target : String)
deriving DecidableEq, Repr

/-- An entry of a directory. -/
inductive Entry
  | item (number : Nat)
  | directory
deriving DecidableEq, Repr

/-- The names on the way to an entry. -/
abbrev Place := List String

/-- The spelling of a place. -/
def Place.text (place : Place) : String := "/".intercalate place

/-- A directory with what lies around it. -/
structure FileTree where
  /-- The entries by place. -/
  entries : Dict Entry
  /-- The items by number. -/
  items : Nat → Item
  /-- The name of the directory in the one above it, the name of that one, and so on up to the
  root. -/
  lineage : List String
  /-- The number of links on the way to the directory. -/
  passed : Nat := 0

namespace FileTree

/-- The longest name of a file, in bytes. -/
def maxNameSize : Nat := 255

/-- The longest path, in bytes. -/
def maxPathSize : Nat := 4095

/-- The number of links that are followed on the way of a path. -/
def maxLinks : Nat := 40

/-! ## Places -/

/-- Whether a place is the directory itself or a level above it. -/
def isAbove (place : Place) : Bool := place.all (· == "..")

/-- The place of the root. -/
def root (t : FileTree) : Place := List.replicate t.lineage.length ".."

/-- The place one level up; there is none above the root. -/
def up (t : FileTree) (place : Place) : Place :=
  if !isAbove place then place.dropLast
  else if place.length < t.lineage.length then place ++ [".."]
  else place

/-- The place of the entry of the given name in the directory at a place. A level above is left
again by the name of the level below it. -/
def enter (t : FileTree) (place : Place) (name : String) : Place :=
  if isAbove place ∧ place ≠ [] ∧ t.lineage[place.length - 1]? = some name then place.dropLast
  else place ++ [name]

/-- The entry at a place. -/
def entryAt (t : FileTree) (place : Place) : Option Entry :=
  if isAbove place then some .directory else t.entries.get? place.text

/-- The path in the link at a place, if there is one. -/
def targetAt? (t : FileTree) (place : Place) : Option String :=
  match t.entryAt place with
  | some (.item number) =>
    match t.items number with
    | .link target => some target
    | .file _ => none
  | _ => none

/-! ## Ways -/

/-- The place to which steps lead. At a link, `expand` takes over, with the directory in which
the link stands, the path in it and the steps that are left. A link at the end counts only if the
way goes through it. -/
def pass (t : FileTree) (through : Bool)
    (expand : Place → String → List String → Except FileFault Place) (place : Place) :
    List String → Except FileFault Place
  | [] => .ok place
  | name :: rest =>
    if name = "" ∨ name = "." then pass t through expand place rest
    else if name = ".." then pass t through expand (t.up place) rest
    -- a slash at the end asks for a directory
    else if rest = [""] then .error .isDirectory
    else if maxNameSize < name.utf8ByteSize then .error .nameTooLong
    else if rest = [] ∧ !through then .ok (t.enter place name)
    else
      match t.targetAt? (t.enter place name) with
      | some target => expand place target rest
      | none =>
        if rest = [] then .ok (t.enter place name)
        else
          match t.entryAt (t.enter place name) with
          | none => .error .notFound
          | some (.item _) => .error .notDirectory
          | some .directory => pass t through expand (t.enter place name) rest

/-- Where a path begins that is followed from a place. -/
def start (t : FileTree) (place : Place) (path : String) : Place :=
  if Path.isAbsolute path then t.root else place

/-- The place to which steps lead, with no more than the given number of links on the way. -/
def walk (t : FileTree) (through : Bool) :
    Nat → Place → List String → Except FileFault Place
  | 0, place, steps => t.pass through (fun _ _ _ => .error .tooManyLinks) place steps
  | links + 1, place, steps =>
    t.pass through (fun place target rest =>
      walk t through links (t.start place target) (Path.parts target ++ rest)) place steps

/-- The place to which a path leads from the directory. -/
def follow (t : FileTree) (through : Bool) (path : String) : Except FileFault Place :=
  let links := if Path.isAbsolute path then maxLinks else maxLinks - t.passed
  t.walk through links (t.start [] path) (Path.parts path)

/-- The places on a path if all its directories are there, one for each step. -/
def placesOn (t : FileTree) (path : String) : List Place :=
  ((Path.parts path).foldl (fun (place, before) name =>
    let next :=
      if name = "" ∨ name = "." then place
      else if name = ".." then t.up place
      else t.enter place name
    (next, before ++ [next])) (t.start [] path, [])).2

/-! ## Changes -/

/-- A number that no entry has. -/
def fresh (t : FileTree) : Nat :=
  t.entries.values.foldr (fun
    | .item number, bound => max (number + 1) bound
    | .directory, bound => bound) 0

/-- The number of the item at a place, or else that of a new one. -/
def numberAt (t : FileTree) (place : Place) : Nat :=
  match t.entryAt place with
  | some (.item number) => number
  | _ => t.fresh

/-- The tree with a file of the given contents at a place. A file that is there stays the same
item. -/
def put (t : FileTree) (place : Place) (contents : List UInt8) : FileTree :=
  { t with
    entries := t.entries.insert place.text (.item (t.numberAt place))
    items := fun number =>
      if number = t.numberAt place then .file contents else t.items number }

/-- The tree with the entry at `source` moved to `target`. -/
def move (t : FileTree) (source target : Place) (entry : Entry) : FileTree :=
  { t with entries := (t.entries.erase source.text).insert target.text entry }

/-- The tree without the entry at a place. -/
def drop (t : FileTree) (place : Place) : FileTree :=
  { t with entries := t.entries.erase place.text }

end FileTree

/-- A directory with what lies around it, or what is in the way to it. -/
inductive Folder
  | barred (fault : FileFault)
  | reached (tree : FileTree)

namespace Folder

/-! ## What a folder holds -/

/-- The place of a directory that does not exist. -/
def missing : Folder := .barred .notFound

/-- A directory with files that have one name each, and directories. Its own name and those of the
levels above it are given from the inside out. -/
def holding (nodes : Dict Node) (name : String) (above : List String := []) : Folder :=
  .reached {
    entries := Dict.ofList (nodes.entries.zipIdx.map fun
      | ((path, .file _), number) => (path, .item number)
      | ((path, .directory), _) => (path, .directory))
    items := fun number =>
      match nodes.entries[number]? with
      | some (_, .file text) => .file (Utf8.encode text)
      | _ => .file []
    lineage := name :: above }

/-- The entry at a place that is spelled out. -/
def get? : Folder → String → Option Entry
  | barred _, _ => none
  | reached t, path => t.entries.get? path

/-- The item of a number. -/
def item : Folder → Nat → Item
  | barred _, _ => .file []
  | reached t, number => t.items number

/-- The entry at a place. -/
def entryAt : Folder → Place → Option Entry
  | barred _, _ => none
  | reached t, place => t.entryAt place

/-- What is seen of the entry at a place. -/
def node? (f : Folder) : Entry → Option Node
  | .directory => some .directory
  | .item number =>
    match f.item number with
    | .file contents => some (.file (Utf8.decodeLossy contents))
    | .link _ => none

/-- What is seen of the entries. -/
def entries : Folder → Dict Node
  | barred _ => ∅
  | reached t =>
    Dict.ofList (t.entries.entries.filterMap fun (path, entry) =>
      ((reached t).node? entry).map fun node => (path, node))

/-- The folder with a change to the tree. -/
def alter (f : Folder) (change : FileTree → FileTree) : Folder :=
  match f with
  | barred fault => barred fault
  | reached t => reached (change t)

/-! ## Operations -/

/-- The place to which a path leads that starts in the folder. The operating system is given the
whole path, `directory` being the way to the folder. -/
@[irreducible] def reach (f : Folder) (through : Bool) (directory path : String) :
    Except FileFault Place :=
  let whole := Path.join directory path
  if whole.toList.contains '\x00' then .error .nulInPath
  else if FileTree.maxPathSize < whole.utf8ByteSize then .error .nameTooLong
  else
    match f with
    | barred fault => .error fault
    | reached t => t.follow through path

/-- The folder with a file of the given contents at the end of the path. -/
def write (f : Folder) (directory path : String) (contents : List UInt8) :
    Except FileFault Folder :=
  match f.reach true directory path with
  | .error fault => .error fault
  | .ok place =>
    if f.entryAt place = some .directory then .error .isDirectory
    else .ok (f.alter (·.put place contents))

/-- The folder with the entry at `source` moved to `target`, in the place of an item that may be
there. If both are names of one item, both stay. -/
def rename (f : Folder) (directory source target : String) : Except FileFault Folder :=
  match f.reach false directory source, f.reach false directory target with
  | .error fault, _ | _, .error fault => .error fault
  | .ok source, .ok target =>
    match f.entryAt source, f.entryAt target with
    | none, _ => .error .notFound
    | _, some .directory => .error .isDirectory
    | some entry, other =>
      .ok (if other = some entry then f else f.alter (·.move source target entry))

/-- The folder without the item under the path. -/
def remove (f : Folder) (directory path : String) : Except FileFault Folder :=
  match f.reach false directory path with
  | .error fault => .error fault
  | .ok place =>
    match f.entryAt place with
    | none => .error .notFound
    | some .directory => .error .isDirectory
    | some (.item _) => .ok (f.alter (·.drop place))

/-- Where a text is written before it is moved to `path`. -/
def temporaryPath (path : String) : String := Path.withExtension path "service.tmp"

/-- The folder after a text was written to a temporary file and that was moved to `path`, and
what came of it. -/
def writeAtomic (f : Folder) (directory path text : String) :
    Folder × Except FileFault Unit :=
  match f.write directory (temporaryPath path) (Utf8.encode text) with
  | .error fault => (f, .error fault)
  | .ok written =>
    match written.rename directory (temporaryPath path) path with
    | .error fault => (written, .error fault)
    | .ok moved => (moved, .ok ())

end Folder

end HostAgent
