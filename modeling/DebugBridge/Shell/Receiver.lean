import DebugBridge.Text.Utf8

/-!
# Receivers of shell output

A receiver says what becomes of the output of a command while it runs: how a state changes with
each piece of output and at the end. It may stop the command, and it may ask that the output is
not searched for failures.
-/

namespace DebugBridge

/-- What becomes of the output of a command, on states of a type. -/
structure Receiver (σ : Type) where
  /-- Takes a piece of output. -/
  add : σ → Bytes → σ
  /-- Takes note of the end of the output. -/
  finish : σ → σ := id
  /-- Whether the command is to be stopped. -/
  stops : σ → Bool := fun _ => false
  /-- Whether the receiver looks for failures in the output itself. -/
  readsFailures : Bool := false

/-! ## Keeping or dropping the output -/

namespace Receiver

/-- Keeps all output. -/
def keeping : Receiver (Array UInt8) where
  add output piece := output.appendList piece

/-- Drops all output. -/
def dropping : Receiver Unit where
  add _ _ := ()

end Receiver

/-! ## Lines -/

/-- Output that is cut into lines as it arrives. -/
structure LineBuffer where
  /-- The lines so far. -/
  lines : Array String := #[]
  /-- The bytes after the last line end. -/
  unfinished : Array UInt8 := #[]
  deriving DecidableEq, Repr, Inhabited

namespace LineBuffer

/-- Nothing yet. -/
def empty : LineBuffer := {}

/-- The text of a line: a carriage return at its end does not belong to it. -/
def lineText (line : Bytes) : String :=
  Utf8.lenientString (if line.getLast? = some 13 then line.dropLast else line)

/-- Ends a line. -/
def endLine (buffer : LineBuffer) : LineBuffer :=
  { lines := buffer.lines.push (lineText buffer.unfinished.toList), unfinished := #[] }

/-- Ends a line at the first line feed of the bytes that are held, and goes on behind it as long as
there is another one. -/
def drain (lines : Array String) (held : Bytes) : LineBuffer :=
  match hfeed : held.idxOf? 10 with
  | none => { lines, unfinished := held.toArray }
  | some pos => drain (lines.push (lineText (held.take pos))) (held.drop (pos + 1))
termination_by held.length
decreasing_by
  obtain ⟨hpos, -⟩ := List.idxOf?_eq_some_iff.mp hfeed
  rw [List.length_drop]
  omega

/-- Takes a piece of output behind the bytes that are held. -/
def add (buffer : LineBuffer) (piece : Bytes) : LineBuffer :=
  drain buffer.lines (buffer.unfinished.toList ++ piece)

/-- Ends the last line unless it is empty. -/
def finish (buffer : LineBuffer) : LineBuffer :=
  if buffer.unfinished.isEmpty then buffer else buffer.endLine

/-- Cuts the output into lines. -/
def receiver (readsFailures : Bool) : Receiver LineBuffer where
  add := add
  finish := finish
  readsFailures := readsFailures

end LineBuffer

end DebugBridge
