import DebugBridge.Shell.Failures
import DebugBridge.Text.Utf8

/-!
# Failures in output that still arrives

A `FailureScan` looks for failures while the output arrives in pieces. It looks at whole lines, as
many as have ended, and keeps what follows the last line end for later. A line that grows too long
is looked at before it ends, and only its last bytes are kept, so that a phrase that is cut there
is still found.
-/

namespace DebugBridge

/-- A search in progress. -/
structure FailureScan where
  command : List Char
  /-- The bytes after the last line end. -/
  unfinished : Bytes := []
  /-- The last line so far that is not blank. -/
  lastLine : Option (List Char) := none
  deriving DecidableEq, Repr, Inhabited

namespace FailureScan

/-- The longest unfinished line that waits for its end. -/
def maxUnfinished : Nat := 65536

/-- How many bytes of a longer line are kept. -/
def overlap : Nat := 256

/-- The bytes up to the last line feed, which belongs to them, and those after it. -/
def splitLines (bytes : Bytes) : Bytes × Bytes :=
  let reversed := bytes.reverse
  ((reversed.dropWhile (· != 10)).reverse, (reversed.takeWhile (· != 10)).reverse)

/-- Fails if there is a failure. -/
def orFail (failure : Option Failure) : Except Failure Unit :=
  match failure with
  | some e => .error e
  | none => .ok ()

/-- Looks at lines that have ended. -/
def look (scan : FailureScan) (bytes : Bytes) : Except Failure FailureScan := do
  let text := Utf8.lenient bytes
  orFail (ShellOutput.phraseFailure? scan.command text)
  pure { scan with lastLine := (ShellOutput.lastLine? text).orElse fun _ => scan.lastLine }

/-- Looks at an unfinished line that is too long, and keeps its end. -/
def shorten (scan : FailureScan) : Except Failure FailureScan := do
  let size := scan.unfinished.length
  if size > maxUnfinished then
    orFail (ShellOutput.phraseFailure? scan.command (Utf8.lenient scan.unfinished))
    pure { scan with unfinished := scan.unfinished.drop (size - overlap) }
  else pure scan

/-- Takes a piece of output. -/
def feed (scan : FailureScan) (piece : Bytes) : Except Failure FailureScan := do
  let (ended, unfinished) := splitLines (scan.unfinished ++ piece)
  let scan := { scan with unfinished }
  let scan ← if ended.isEmpty then pure scan else scan.look ended
  scan.shorten

/-- Takes note of the end of the output. -/
def finish (scan : FailureScan) : Except Failure Unit := do
  let scan ← scan.look scan.unfinished
  orFail (ShellOutput.lastLineFailure? scan.lastLine)

end FailureScan

end DebugBridge
