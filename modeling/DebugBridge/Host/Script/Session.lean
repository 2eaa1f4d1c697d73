import DebugBridge.Files.Tree
import DebugBridge.Host.Script.Syntax
import DebugBridge.Text.Number

/-!
# Scripts at work

What a script knows and has done so far: its arguments and variables, where its channels lead, and
what came of the commands up to here. Of what a script does only two things are kept in the end:
what it writes to its channel for failures, and how it ends.
-/

namespace DebugBridge.Script

/-- How a script or a program ended. -/
inductive Ending where
  | exited (status : Nat)
  | killed
  deriving DecidableEq, Repr, Inhabited

/-- Why the commands that follow are passed over. -/
inductive Leaving where
  | script (ending : Ending)
  /-- The function that is called. -/
  | function
  /-- A number of loops. -/
  | loops (number : Nat)
  /-- The body of a loop, and all but one of a number of loops. -/
  | bodies (number : Nat)
  deriving DecidableEq, Repr, Inhabited

/-- Where a channel leads. -/
inductive Place where
  | output | failures
  /-- To the script that asked for the output. -/
  | captured
  | file (place : List String)
  | nowhere
  deriving DecidableEq, Repr, Inhabited

/-- How shells differ. -/
inductive Dialect where
  | plain | bash
  deriving DecidableEq, Repr, Inhabited

/-- A script at work. -/
structure Session where
  dialect : Dialect := .plain
  /-- The path of the script. -/
  path : List Char
  arguments : List (List Char)
  tree : FileTree := {}
  assigned : List (List Char × List Char) := []
  functions : List (List Char × Command) := []
  /-- The status of the last command. -/
  status : Nat := 0
  /-- The status of the last script whose output was asked for. -/
  outputStatus : Nat := 0
  /-- The line of the last plain command. -/
  line : Nat := 1
  channels : List (Nat × Place) := [(1, .output), (2, .failures)]
  /-- What is left to read. -/
  input : List Char := []
  /-- What was written to the channel for failures, the last character first. -/
  failures : List Char := []
  /-- What was captured, the last character first. -/
  captured : List Char := []
  /-- Whether the script ends when a command fails. -/
  isStrict : Bool := false
  /-- Whether the script ends when a variable is asked for that is not set. -/
  isWary : Bool := false
  /-- Whether commands are shown before they are carried out. -/
  isTraced : Bool := false
  /-- How many loops are under way. -/
  loops : Nat := 0
  /-- What the commands belong to that are carried out, if it is not the script itself. -/
  part : List Char := []
  /-- The directory that the script went to. -/
  directory : String := ""
  /-- What is carried out when the script ends or gets a signal, by the name of that. -/
  traps : List (String × List Char) := []
  /-- The variables of the function that is called, if one is. -/
  locals : Option (List (List Char)) := none
  leaving : Option Leaving := none
  deriving Repr, Inhabited

namespace Session

/-! ## Variables -/

/-- The digits of a number. -/
def digits (n : Nat) : List Char := Nat.toDigits 10 n

/-- The value of a variable that is set. -/
def value? (s : Session) (name : List Char) : Option (List Char) :=
  match name with
  | ['#'] => some (digits s.arguments.length)
  | ['?'] => some (digits s.status)
  | ['$'] => some ['1']
  | ['-'] | ['!'] => some []
  | ['@'] | ['*'] =>
    let divider := if name = ['@'] then [' '] else
      (((s.assigned.find? (·.1 = "IFS".toList)).map (·.2)).getD [' ']).take 1
    if s.arguments.isEmpty then none else some (divider.intercalate s.arguments)
  | _ =>
    match Text.digits? 10 name with
    | some 0 => some s.path
    | some (n + 1) => s.arguments[n]?
    | none => (s.assigned.find? (·.1 = name)).map (·.2)

/-- The session with a variable set. -/
def assign (s : Session) (name value : List Char) : Session :=
  { s with assigned := (name, value) :: s.assigned.filter (·.1 ≠ name) }

/-- The session with a variable as it is in another one. -/
def restore (s before : Session) (name : List Char) : Session :=
  let others := s.assigned.filter (·.1 ≠ name)
  match before.assigned.find? (·.1 = name) with
  | some entry => { s with assigned := entry :: others }
  | none => { s with assigned := others }

/-- The characters that divide what is filled in into words. -/
def dividers (s : Session) : List Char :=
  ((s.assigned.find? (·.1 = "IFS".toList)).map (·.2)).getD [' ', '\t', '\n']

/-! ## Files -/

/-- The bytes of text with one character per byte. -/
def unbytewise (cs : List Char) : Bytes := cs.map fun c => UInt8.ofNat c.toNat

/-- The path that a script means. One whose first name is not there is taken from the directory
that the script went to. -/
def meant (s : Session) (path : List Char) : String :=
  let path := Utf8.lenientString (unbytewise path)
  if s.directory.isEmpty || Path.isAbsolute path ||
      (s.tree.get? ((Path.parts path).take 1)).isSome then path
  else Path.join s.directory path

/-- The file that a path leads to, with one character per byte. -/
def file? (s : Session) (path : List Char) : Except IoFailure (List Char) :=
  let path := s.meant path
  if path = "/dev/null" then .ok []
  else
    match s.tree.find path with
    | .ok (.file data _ _) => .ok (Bytes.latin1 data)
    | .ok _ => .error FileTree.aDirectory
    | .error e => .error e

/-- The cause of a failure without the number that the system gives it. -/
def causeOf (e : IoFailure) : String := (e.message.splitOn " (os error").headD ""

/-- Directories of the host whose files do not matter. -/
def hostDirectories : List String := ["/tmp", "/var/tmp", "/dev", "/dev/shm", "/dev/fd"]

/-- Whether a path leads to a directory. -/
def isDirectory (s : Session) (path : List Char) : Bool :=
  let path := s.meant path
  path = "/" || hostDirectories.contains path || s.tree.isDirectory path

/-- Opens a file for writing; a file of the host is written to without a trace. -/
def openFile (s : Session) (path : List Char) (appends : Bool) :
    Except IoFailure (Place × Session) :=
  let path := s.meant path
  if hostDirectories.contains path then .error FileTree.aDirectory
  else if Path.isAbsolute path &&
      hostDirectories.any fun dir => (Path.parts path).dropLast = Path.parts dir then
    .ok (.nowhere, s)
  else openIn path
where
  /-- Opens a file among the local ones. -/
  openIn (path : String) : Except IoFailure (Place × Session) := do
    let data := match s.tree.find path with
      | .ok (.file data _ _) => if appends then data else []
      | _ => []
    let (place, tree) ← s.tree.create path
    return (.file place, { s with tree := tree.store place data })

/-! ## Channels -/

/-- Where a channel leads. -/
def place (s : Session) (channel : Nat) : Option Place :=
  (s.channels.find? (·.1 = channel)).map (·.2)

/-- The session with a channel leading somewhere. -/
def lead (s : Session) (channel : Nat) (place : Place) : Session :=
  { s with channels := (channel, place) :: s.channels.filter (·.1 ≠ channel) }

/-- Writes to a place. -/
def writeTo (s : Session) (place : Option Place) (cs : List Char) : Session :=
  match place with
  | some .failures => { s with failures := cs.reverse ++ s.failures }
  | some .captured => { s with captured := cs.reverse ++ s.captured }
  | some (.file place) =>
    match s.tree.get? place with
    | some (.file data _ _) => { s with tree := s.tree.store place (data ++ unbytewise cs) }
    | _ => s
  | _ => s

/-- Writes to a channel. -/
def write (s : Session) (channel : Nat) (cs : List Char) : Session :=
  s.writeTo (s.place channel) cs

/-! ## Outcomes -/

/-- The session after a command ended with a status. -/
def ends (s : Session) (status : Nat) : Session := { s with status }

/-- The session after a condition. -/
def decides (s : Session) (b : Bool) : Session := s.ends (if b then 0 else 1)

/-- The session after the script ended with a status. -/
def exits (s : Session) (status : Nat) : Session :=
  { s with status, leaving := some (.script (.exited status)) }

/-- What the shell says about a line of the script. -/
def remark (s : Session) (line : Nat) (text : String) : List Char :=
  let position := match s.dialect with
    | .plain => digits line
    | .bash => "line ".toList ++ digits line
  let part := if s.part.isEmpty then [] else s.part ++ ": ".toList
  s.path ++ ": ".toList ++ position ++ ": ".toList ++ part ++ text.toList ++ ['\n']

/-- The session after the shell said something about the last command. -/
def reports (s : Session) (text : String) : Session := s.write 2 (s.remark s.line text)

end Session

end DebugBridge.Script
