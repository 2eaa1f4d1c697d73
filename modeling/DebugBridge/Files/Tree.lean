import DebugBridge.Bytes
import DebugBridge.Failure
import DebugBridge.Files.Path
import DebugBridge.Text.Utf8

/-!
# Local files

The local file system as a value: what stands at each place. A place is the list of names that
leads to it from the root. Symbolic links are followed on the way to a place, and at most forty of
them.

All files belong to the user, who is not the superuser: the owner's permission bits of a file
decide about reading and writing it, and the root itself takes no new names. Relative paths start
at the root.
-/

namespace DebugBridge

/-- What stands at a place. -/
inductive Node where
  /-- A file with its mode and the second of its last change, counted from 1970. The mode has the
  permission bits, and those of the type if the file is a pipe, a socket or a device. -/
  | file (data : Bytes) (mode : Nat) (modified : Int)
  | directory
  /-- A symbolic link to a path. -/
  | link (target : String)
  deriving DecidableEq, Repr, Inhabited

/-- A place, by the names that lead to it. -/
abbrev Place := List String

/-- A file system. The root is a directory even if it is not listed. -/
structure FileTree where
  nodes : List (Place × Node) := []
  deriving DecidableEq, Repr, Inhabited

namespace FileTree

/-! ## Failures -/

def notFound : IoFailure := .ofSystem .notFound "No such file or directory" 2
def denied : IoFailure := .ofSystem .permissionDenied "Permission denied" 13
def alreadyThere : IoFailure := .ofSystem .alreadyExists "File exists" 17
def notDirectory : IoFailure := .ofSystem .notADirectory "Not a directory" 20
def aDirectory : IoFailure := .ofSystem .isADirectory "Is a directory" 21
def nameTooLong : IoFailure := .ofSystem .invalidFilename "File name too long" 36
def tooManyLinks : IoFailure := .ofSystem .filesystemLoop "Too many levels of symbolic links" 40
def noDevice : IoFailure := .ofSystem .uncategorized "No such device or address" 6

/-- A path must not hold the character with the number zero. -/
def zeroInName : IoFailure := ⟨.invalidInput, "file name contained an unexpected NUL byte"⟩

/-! ## Looking up -/

/-- What stands at a place. -/
def get? (tree : FileTree) (place : Place) : Option Node :=
  if place.isEmpty then some .directory
  else (tree.nodes.find? fun entry => entry.1 = place).map (·.2)

/-- The tree with a node at a place, which replaces the one that stood there. -/
def put (tree : FileTree) (place : Place) (node : Node) : FileTree :=
  { nodes := tree.nodes.filter (fun entry => entry.1 ≠ place) ++ [(place, node)] }

/-- The most bytes in one name. -/
def maxName : Nat := 255

/-- The most bytes in a path. -/
def maxPath : Nat := 4095

/-- What a place is looked up for. -/
inductive Purpose where
  /-- For what the path names, be it a link. -/
  | name
  /-- For what the path leads to. -/
  | target
  /-- For a file that may have to be made. -/
  | creation
  deriving DecidableEq, Repr, Inhabited

/-- Walks from a directory along names to a place, which need not be taken; `follow` goes on from
where a link leads. An empty name after the others asks for a directory, which is refused where a
file is to be made. -/
def walkNames (tree : FileTree) (purpose : Purpose)
    (follow : Place → List String → Except IoFailure Place) :
    Place → List String → Except IoFailure Place
  | dir, [] => .ok dir
  | dir, name :: rest =>
    if name = "." || name.isEmpty then walkNames tree purpose follow dir rest
    else if name = ".." then walkNames tree purpose follow dir.dropLast rest
    else if purpose = .creation && rest = [""] then .error aDirectory
    else if Utf8.size name > maxName then .error nameTooLong
    else
      let place := dir ++ [name]
      match tree.get? place with
      | none => if rest.isEmpty then .ok place else .error notFound
      | some (.file ..) => if rest.isEmpty then .ok place else .error notDirectory
      | some .directory => walkNames tree purpose follow place rest
      | some (.link target) =>
        if rest.isEmpty && purpose = .name then .ok place
        else follow (if Path.isAbsolute target then [] else dir) (Path.segments target ++ rest)

/-- Walks along names to a place. At most `links` links are followed. -/
def walk (tree : FileTree) (purpose : Purpose) :
    (links : Nat) → Place → List String → Except IoFailure Place
  | 0 => tree.walkNames purpose fun _ _ => .error tooManyLinks
  | links + 1 => tree.walkNames purpose (walk tree purpose links)

/-- The most links that are followed. -/
def maxLinks : Nat := 40

/-- The path itself, or why no place can be looked up by it. -/
def checked (path : String) : Except IoFailure String :=
  if path.toList.contains '\x00' then .error zeroInName
  else if path.isEmpty then .error notFound
  else if Utf8.size path > maxPath then .error nameTooLong
  else .ok path

/-- The place of a path. -/
def locate (tree : FileTree) (purpose : Purpose) (path : String) : Except IoFailure Place := do
  tree.walk purpose maxLinks [] (Path.segments (← checked path))

/-- What a path leads to, links followed. -/
def find (tree : FileTree) (path : String) : Except IoFailure Node := do
  let place ← tree.locate .target path
  match tree.get? place with
  | some node => .ok node
  | none => .error notFound

/-- What a path names: a link itself, not what it leads to. -/
def findName (tree : FileTree) (path : String) : Except IoFailure Node := do
  let place ← tree.locate .name path
  match tree.get? place with
  | some node => .ok node
  | none => .error notFound

/-- Whether a path leads to a directory. -/
def isDirectory (tree : FileTree) (path : String) : Bool :=
  match tree.find path with
  | .ok .directory => true
  | _ => false

/-- Whether a file of a mode is a regular one: its type bits say so, or it has none. -/
def isRegular (mode : Nat) : Bool := [0, 0o100000].contains (mode &&& 0o170000)

/-- Whether a path leads to a regular file. -/
def isFile (tree : FileTree) (path : String) : Bool :=
  match tree.find path with
  | .ok (.file _ mode _) => isRegular mode
  | _ => false

/-- Whether the owner may read a file of a mode. -/
def ownerReads (mode : Nat) : Bool := mode &&& 0o400 != 0

/-- Whether the owner may run a file of a mode. -/
def ownerRuns (mode : Nat) : Bool := mode &&& 0o100 != 0

/-- Whether the owner may write a file of a mode. -/
def ownerWrites (mode : Nat) : Bool := mode &&& 0o200 != 0

/-! ## Directories -/

/-- The names in a directory, in ascending order. -/
def namesIn (tree : FileTree) (dir : Place) : List String :=
  let below := tree.nodes.filterMap fun entry =>
    if entry.1.dropLast = dir && !entry.1.isEmpty then entry.1.getLast? else none
  below.mergeSort (fun a b => a ≤ b)

/-- Makes a directory at a path that is not taken. -/
def makeDirectory (tree : FileTree) (path : String) : Except IoFailure FileTree := do
  let place ← tree.walk .name maxLinks [] (Path.parts (← checked path))
  match tree.get? place with
  | some _ => .error alreadyThere
  | none => if place.dropLast.isEmpty then .error denied else .ok (tree.put place .directory)

/-- The path of names from the root or from the start of relative paths, the last name first. -/
def pathOf (absolute : Bool) (reversed : List String) : String :=
  (if absolute then "/" else "") ++ "/".intercalate reversed.reverse

/-- Makes a directory at a path. One that is there counts as made. -/
def makePresent (tree : FileTree) (path : String) : Except IoFailure Unit × FileTree :=
  match tree.makeDirectory path with
  | .ok tree => (.ok (), tree)
  | .error e => (if tree.isDirectory path then .ok () else .error e, tree)

/-- Whether a directory cannot be made at a path since something above it is missing. -/
def lacksAbove (tree : FileTree) (path : String) : Bool :=
  match tree.makeDirectory path with
  | .ok _ => false
  | .error e => e.kind = .notFound

/-- Makes a directory at a path, and if something above it is missing, first the directories along
the names above it, of which the last comes first. Those that were made before one failed stay. -/
def makeBelow (tree : FileTree) (absolute : Bool) (path : String) :
    List String → Except IoFailure Unit × FileTree
  | [] => tree.makePresent path
  | above :: names =>
    if tree.lacksAbove path then
      match makeBelow tree absolute (pathOf absolute (above :: names)) names with
      | (.ok (), tree) => tree.makePresent path
      | (.error e, tree) => (.error e, tree)
    else tree.makePresent path

/-- Makes a directory and those above it, as far as they are missing. -/
def makeAll (tree : FileTree) (path : String) : Except IoFailure Unit × FileTree :=
  if path.isEmpty then (.ok (), tree)
  else
    let names := (Path.parts path).filter (· ≠ ".")
    tree.makeBelow (Path.isAbsolute path) path names.dropLast.reverse

/-- The tree with a directory and those above it, if all of them could be made. -/
def makeDirectories (tree : FileTree) (path : String) : Except IoFailure FileTree :=
  let (result, tree) := tree.makeAll path
  result.map fun _ => tree

/-! ## Files -/

/-- The permission bits of a new file. -/
def newMode : Nat := 0o644

/-- Opens a file for writing, empty: it is made if its place is free. Behind a pipe, a socket or a
device there is nobody. -/
def create (tree : FileTree) (path : String) : Except IoFailure (Place × FileTree) := do
  let place ← tree.locate .creation path
  match tree.get? place with
  | some (.file _ mode modified) =>
    if !ownerWrites mode then .error denied
    else if !isRegular mode then .error noDevice
    else .ok (place, tree.put place (.file [] mode modified))
  | some _ => .error aDirectory
  | none =>
    if place.dropLast.isEmpty then .error denied
    else .ok (place, tree.put place (.file [] newMode 0))

/-- Puts data into the file at a place. -/
def store (tree : FileTree) (place : Place) (data : Bytes) : FileTree :=
  match tree.get? place with
  | some (.file _ mode modified) => tree.put place (.file data mode modified)
  | _ => tree

/-! ## Walking a directory -/

/-- The regular files below a directory, each by its names from there: names in ascending order, a
directory's files where its name stands. Links are no files. `depth` bounds the levels. -/
def filesBelow (tree : FileTree) (dir : Place) : (depth : Nat) → List (List String)
  | 0 => []
  | depth + 1 =>
    (tree.namesIn dir).flatMap fun name =>
      match tree.get? (dir ++ [name]) with
      | some (.file _ mode _) => if isRegular mode then [[name]] else []
      | some .directory => (filesBelow tree (dir ++ [name]) depth).map (name :: ·)
      | _ => []

/-- The number of levels that a tree has at most. -/
def levels (tree : FileTree) : Nat := (tree.nodes.map (·.1.length)).foldl max 0

/-- How a walk reports that its start cannot be entered. -/
def walkFailure (path : String) (e : IoFailure) : IoFailure :=
  ⟨e.kind, "IO error for operation on " ++ path ++ ": " ++ e.message⟩

/-- The files below a path, each by its names from there; none if the path is no directory. -/
def files (tree : FileTree) (path : String) : Except IoFailure (List (List String)) :=
  let start : Except IoFailure (Option Place) := do
    match ← tree.findName path with
    | .file .. => .ok none
    | _ =>
      match ← tree.find path with
      | .directory => .ok (some (← tree.locate .target path))
      | _ => .ok none
  match start with
  | .error e => .error (walkFailure path e)
  | .ok none => .ok []
  | .ok (some dir) => .ok (tree.filesBelow dir tree.levels)

end FileTree

end DebugBridge
