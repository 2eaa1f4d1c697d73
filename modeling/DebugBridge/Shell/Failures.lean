import DebugBridge.Failure
import DebugBridge.Text.Blank

/-!
# Failures in shell output

The shell of a device reports no exit status here, so a failed command is recognised by what it
wrote. Some phrases count wherever they stand; the word `Aborting.` counts only at the end of the
last line that is not blank.
-/

namespace DebugBridge.ShellOutput

/-- The first word of a command, or the command itself if it has none. -/
def programOf (command : List Char) : List Char := (Text.words command).headD command

/-- The first line with a phrase, without blanks around it; the phrase itself if there is none. -/
def lineWith (phrase output : List Char) : String :=
  String.ofList (Text.trim (((Text.lines output).find? (Text.occursIn phrase)).getD phrase))

/-- The first line that says, in letters of either case, that access was denied. -/
def denial? (phrase output : List Char) : Option (List Char) :=
  (Text.lines output).find? fun line => Text.occursIn phrase (Text.asciiLower line)

/-- The first failure that a phrase in the output shows. -/
def phraseFailure? (command output : List Char) : Option Failure :=
  let program := programOf command
  if !program.isEmpty && Text.occursIn (program ++ ": not found".toList) output then
    some (.commandNotFound (String.ofList program))
  else if Text.occursIn "applet not found".toList output then
    some (.commandNotFound (String.ofList program))
  else if Text.occursIn "No such file or directory".toList output then
    some (.fileNotFound (lineWith "No such file or directory".toList output))
  else if Text.occursIn "Unknown option".toList output then
    some (.unknownOption (lineWith "Unknown option".toList output))
  else
    let denied := (denial? "permission denied".toList output).orElse fun _ =>
      denial? "access denied".toList output
    denied.map fun line => .permissionDenied (String.ofList (Text.trim line))

/-- The last line that is not blank, without blanks around it. -/
def lastLine? (output : List Char) : Option (List Char) :=
  ((Text.lines output).reverse.map Text.trim).find? (!·.isEmpty)

/-- The failure that the last line shows. -/
def lastLineFailure? (last : Option (List Char)) : Option Failure :=
  (last.filter (Text.endsWith "Aborting.".toList)).map fun line =>
    .commandAborting (String.ofList line)

/-- The failure that the whole output of a command shows. -/
def failure? (command output : List Char) : Option Failure :=
  (phraseFailure? command output).orElse fun _ => lastLineFailure? (lastLine? output)

/-- Fails if the whole output of a command shows a failure. -/
def check (command output : String) : Except Failure Unit :=
  match failure? command.toList output.toList with
  | some e => .error e
  | none => .ok ()

end DebugBridge.ShellOutput
