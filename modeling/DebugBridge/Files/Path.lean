import DebugBridge.Text.Blank

/-!
# Paths

Paths are texts whose names are divided by slashes. `join` puts a name below a directory the way
local paths do it, where a name that starts at the root replaces what stands before it;
`joinRemote` is the plain rule for paths on a device.
-/

namespace DebugBridge.Path

/-- The names between the slashes, empty ones left out. -/
def parts (path : String) : List String :=
  ((Text.fields '/' path.toList).filter (!·.isEmpty)).map String.ofList

/-- Whether the path ends with a slash. -/
def endsInSlash (path : String) : Bool := path.toList.getLast? = some '/'

/-- The names between the slashes, and an empty one at the end if the path ends with a slash. -/
def segments (path : String) : List String :=
  if endsInSlash path then parts path ++ [""] else parts path

/-- Whether the path starts at the root. -/
def isAbsolute (path : String) : Bool := path.toList.head? = some '/'

/-- A name below a local directory. -/
def join (dir name : String) : String :=
  if isAbsolute name then name
  else if dir.isEmpty || endsInSlash dir then dir ++ name
  else dir ++ "/" ++ name

/-- A name below a directory of a device. -/
def joinRemote (dir name : String) : String :=
  if endsInSlash dir then dir ++ name else dir ++ "/" ++ name

/-- The last name of a local path; none if the path ends at its own root, at the directory it
starts from or at the parent of a directory. -/
def lastName? (path : String) : Option String :=
  match ((parts path).filter (· ≠ ".")).getLast? with
  | some ".." => none
  | name => name

/-- The last name of a path on a device, slashes at its end left out. -/
def remoteName (path : String) : String :=
  let kept := (path.toList.reverse.dropWhile (· = '/')).takeWhile (· ≠ '/')
  String.ofList kept.reverse

end DebugBridge.Path
