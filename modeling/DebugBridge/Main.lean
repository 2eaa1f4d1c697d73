import DebugBridge.CommandLine.Parse
import DebugBridge.CommandLine.Run

/-!
# The program

Reads the settings and the arguments, carries out the command, and prints what it printed. The
program has no sockets and no disk of its own: commands meet a network on which nothing can be
reached, and no local files.
-/

open DebugBridge

/-- The variables that matter to the settings. -/
def settingNames : List String :=
  ["ADB_SERVER_HOST", "ADB_SERVER_PORT", "ANDROID_ADB_SERVER_PORT", "ADB_PATH"]

/-- The variables that are set. -/
def environmentOf (names : List String) : IO Config.Environment := do
  let pairs ← names.mapM fun name => do
    let value ← IO.getEnv name
    pure (value.map fun value => (name, value))
  pure (pairs.filterMap id)

/-- The bytes of a file, if it can be read. -/
def contentsOf? (path : String) : IO (Option Bytes) := do
  try
    let bytes ← IO.FS.readBinFile path
    pure (some bytes.toList)
  catch _ => pure none

/-- What is printed when no command is carried out, and the status then. -/
def refusalText : CommandLine.Refusal → String × UInt32
  | .help =>
    ("Usage: adbhost [OPTIONS] [COMMAND]\n\nCommands: " ++
      ", ".intercalate (CommandLine.names CommandLine.leaves ++ ["forward", "help"]) ++ "\n", 0)
  | .version => ("adbhost " ++ Command.programVersion ++ "\n", 0)
  | .usage =>
    ("error: the arguments are not understood\n\nFor more information, try '--help'.\n", 2)

/-- Carries out a command at a workplace: what is printed, and the status. -/
def carryOut (i : Invocation) (palette : Palette) (config : Config) (w : Workplace) :
    Workplace × UInt32 :=
  let (result, w) := i.command.run (i.context palette config) w
  match result with
  | .ok () => (w, 0)
  | .error e =>
    let f : Formatter := { palette }
    ((Workplace.print (f.error e.message) w).2, 1)

/-- Runs the program: prints what the command printed, and ends with its status. -/
def main (arguments : List String) : IO UInt32 := do
  let out ← IO.getStdout
  let err ← IO.getStderr
  match CommandLine.parse arguments with
  | .error refusal =>
    let (text, status) := refusalText refusal
    (if status = 0 then out else err).putStr text
    pure status
  | .ok invocation =>
    let home := (← IO.getEnv "HOME").getD ""
    let file ← contentsOf? (home ++ "/.adbhostconfig")
    let config := Config.load file (← environmentOf settingNames)
    let palette := if ← out.isTty then Palette.ansi else Palette.plain
    let w : Workplace := { network := { beyond := Network.unreachable }, home }
    let (w, status) := carryOut invocation palette config w
    out.write (ByteArray.mk w.out)
    err.write (ByteArray.mk w.err)
    pure status
