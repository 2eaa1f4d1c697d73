import DebugBridge.Files.Tree
import DebugBridge.Host.Script.Run

/-!
# Programs of the host

What comes of running a program of the host: it cannot be started, or it ends in some way after it
has written something about failures. Programs are scripts among the local files, and a few of the
host's own.
-/

namespace DebugBridge.Program

/-- What came of a program that was started. -/
structure Outcome where
  ending : Script.Ending
  /-- What it wrote to its channel for failures. -/
  failures : Bytes := []
  deriving DecidableEq, Repr, Inhabited

/-- Whether the program reports that all went well. -/
def Outcome.succeeded (o : Outcome) : Bool := o.ending = .exited 0

/-- The shells of the host, which run scripts. -/
def shells : List String :=
  ["/bin/sh", "/bin/bash", "/bin/dash", "/usr/bin/sh", "/usr/bin/bash", "/usr/bin/dash"]

/-- The program of the host that runs another one by its name. -/
def byName : String := "/usr/bin/env"

/-- The programs of the host that only end, each with its status. -/
def idle : List (String × Nat) := [("true", 0), ("false", 1), ("echo", 0)]

/-- The programs of the host that refuse the option `-P`, each with its status then. -/
def refusing : List (String × Nat) :=
  [("cat", 1), ("date", 1), ("env", 125), ("head", 1), ("id", 1), ("ls", 2), ("mkdir", 1),
    ("nohup", 125), ("rm", 1), ("sleep", 1), ("sort", 2), ("tail", 1), ("timeout", 125),
    ("touch", 1), ("tr", 1), ("uname", 1), ("wc", 1), ("yes", 1)]

/-- Files and directories of the host that cannot be run. -/
def fixtures : List String :=
  [".", "..", "/", "/bin", "/dev", "/dev/null", "/etc", "/etc/hosts", "/etc/passwd", "/home",
    "/tmp", "/usr", "/usr/bin", "/var"]

/-- The name of a program of the host that is called by its name or its path. -/
def hostName? (called : String) : Option String :=
  if !called.contains '/' then some called
  else
    (["/bin/", "/usr/bin/"].find? (called.startsWith ·)).map fun directory =>
      String.ofList (called.toList.drop directory.length)

/-- What comes of a program of the host that does not look at local files. -/
def ofHost? (called : String) (arguments : List String) : Option Outcome := do
  let name ← hostName? called
  match idle.find? (·.1 = name) with
  | some (_, status) => return ⟨.exited status, []⟩
  | none =>
    let (_, status) ← refusing.find? (·.1 = name)
    if arguments.any (·.startsWith "-P") then
      let message := called ++ ": invalid option -- 'P'\nTry '" ++ called ++
        " --help' for more information.\n"
      return ⟨.exited status, Utf8.ofString message⟩
    else return ⟨.exited 0, []⟩

/-- What comes of a shell of the host that is called with a port. One of them takes the port for the
name of a script, the other one refuses the option. -/
def ofShell? (called : String) (arguments : List String) : Option Outcome := do
  let name ← hostName? called
  let port ← arguments[1]?
  if name = "bash" then
    let message := called ++ ": " ++ port ++ ": No such file or directory\n"
    return ⟨.exited 127, Utf8.ofString message⟩
  else if name = "sh" || name = "dash" then
    return ⟨.exited 2, Utf8.ofString (called ++ ": 0: Illegal option -P\n")⟩
  else none

/-- A file that is no program. -/
def noProgram : IoFailure := .ofSystem .uncategorized "Exec format error" 8

/-- A path or an argument that holds the character with the number zero. -/
def zeroInData : IoFailure := ⟨.invalidInput, "nul byte found in provided data"⟩

/-- How many bytes at the front of a file say which program runs it. -/
def headSize : Nat := 256

/-- Whether a character divides the first line of a script. -/
def isDivider (c : Char) : Bool := c = ' ' || c = '\t'

/-- The program that the first line of a script names to run it, and the argument after that. -/
def interpreter? (data : List Char) : Option (String × String) :=
  match data with
  | '#' :: '!' :: rest =>
    let line := ((rest.take (headSize - 2)).takeWhile (· ≠ '\n')).dropWhile isDivider
    let line := (line.reverse.dropWhile isDivider).reverse
    let program := line.takeWhile (!isDivider ·)
    let argument := (line.drop program.length).dropWhile isDivider
    if program.isEmpty then none else some (String.ofList program, String.ofList argument)
  | _ => none

/-- Text with one character per byte of its written form. -/
def bytewise (text : String) : List Char := (Utf8.ofString text).latin1

/-- Runs a script by a shell, which may have an option. -/
def runScript (tree : FileTree) (shell option path : String) (arguments : List String) (mode : Nat)
    (script : List Char) : Outcome :=
  if FileTree.ownerReads mode then
    let session : Script.Session := {
      dialect := if shell.endsWith "bash" then .bash else .plain
      path := bytewise path
      arguments := arguments.map bytewise
      tree
      isStrict := option.startsWith "-" && option.contains 'e' }
    let (ending, failures) := Script.run session script
    ⟨ending, Script.Session.unbytewise failures⟩
  else
    ⟨.exited 2, Utf8.ofString (shell ++ ": 0: cannot open " ++ path ++ ": Permission denied\n")⟩

/-- What a script comes to that the named program of the host runs, with what follows the name in
its first line. -/
def runBy (tree : FileTree) (program rest path : String) (arguments : List String) (mode : Nat)
    (script : List Char) : Except IoFailure Outcome :=
  if shells.contains program then .ok (runScript tree program rest path arguments mode script)
  else if program = byName then
    let shell := "/bin/" ++ rest
    if shells.contains shell then .ok (runScript tree shell "" path arguments mode script)
    else
      let missing := byName ++ ": '" ++ rest ++ "': No such file or directory\n"
      .ok ((ofHost? rest (path :: arguments)).getD ⟨.exited 127, Utf8.ofString missing⟩)
  else if program.contains '/' then
    match ofHost? program (path :: arguments) with
    | some outcome => .ok outcome
    | none => .error (if fixtures.contains program then FileTree.denied else FileTree.notFound)
  else .error FileTree.notFound

/-- Runs a local file that a path leads to. -/
def runAt (tree : FileTree) (path : String) (arguments : List String) :
    Except IoFailure Outcome := do
  match ← tree.find path with
  | .file data mode _ =>
    if !FileTree.ownerRuns mode then .error FileTree.denied
    else
      let script := Bytes.latin1 data
      match interpreter? script with
      | none => .error noProgram
      | some (program, rest) => runBy tree program rest path arguments mode script
  | _ => .error FileTree.denied

/-- Runs a program by its path, or by its name if that has no slash. -/
def run (tree : FileTree) (path : String) (arguments : List String) : Except IoFailure Outcome :=
  if path.contains '\x00' || arguments.any (·.contains '\x00') then .error zeroInData
  else if fixtures.contains path then .error FileTree.denied
  else
    match ofHost? path arguments <|> ofShell? path arguments with
    | some outcome => .ok outcome
    | none => if path.contains '/' then runAt tree path arguments else .error FileTree.notFound

end DebugBridge.Program
