import DebugBridge.Reply
import DebugBridge.Shell.FailureScan
import DebugBridge.Shell.NewlineStream
import DebugBridge.Shell.Receiver

/-!
# Running a command

Runs a command in the shell of a device and hands its output, line ends restored, to a receiver
piece by piece. The output is searched for failures on the way, unless the receiver does that
itself; a piece that shows one is not handed over.

The caller may cancel the command between two reads. Whether it did is asked before each read; a
`Cancelled` answers by the number of times it was asked before.
-/

namespace DebugBridge.Shell

/-- The most bytes of output that are read at once. -/
def readSize : Nat := 16384

/-- Whether the caller has cancelled, by the number of times it was asked before. -/
abbrev Cancelled := Nat → Bool

/-- How a run of a command stands. -/
structure Progress (σ : Type) where
  stream : NewlineStream
  /-- The search for failures, if there is one. -/
  scan : Option FailureScan
  state : σ
  /-- How often the caller was asked whether it has cancelled. -/
  asked : Nat := 0
  closed : Bool := false

/-- Reads the output to its end, or until something stops it. -/
def Progress.run {σ : Type} (receiver : Receiver σ) (cancelled : Cancelled) (p : Progress σ) :
    Except Failure Unit × Progress σ :=
  if cancelled p.asked || receiver.stops p.state then
    (.error .cancelled, { p with closed := true })
  else
    match h : p.stream.read readSize with
    | (.error e, stream) => (.error (.ofConnection e), { p with stream, asked := p.asked + 1 })
    | (.ok [], stream) =>
      let p := { p with stream, asked := p.asked + 1 }
      match p.scan.elim (.ok ()) FailureScan.finish with
      | .error e => (.error e, p)
      | .ok () => (.ok (), { p with state := receiver.finish p.state })
    | (.ok (b :: bytes), stream) =>
      have := NewlineStream.remaining_lt_of_read h (by simp)
      match p.scan.mapM (·.feed (b :: bytes)) with
      | .error e => (.error e, { p with stream, asked := p.asked + 1 })
      | .ok scan =>
        Progress.run receiver cancelled
          { p with stream, scan, state := receiver.add p.state (b :: bytes), asked := p.asked + 1 }
termination_by p.stream.remaining

/-- Runs a command on a connection that was turned over to a device. `idle` bounds the wait for
each read, in milliseconds. -/
def run {σ : Type} (receiver : Receiver σ) (cancelled : Cancelled) (command : String)
    (idle : Option Nat) (state : σ) (link : Link) : (Except Failure Unit × σ) × Link :=
  let start : Exchange Unit := do
    Exchange.openStream (.shell command)
    Exchange.setDeadline .reading idle
  match start.run link with
  | (.error e, link) => ((.error e, state), link)
  | (.ok (), link) =>
    let scan := if receiver.readsFailures then none else some { command := command.toList }
    let (result, p) :=
      Progress.run receiver cancelled { stream := { inner := link.inflow }, scan, state }
    ((result, p.state),
      { link with inflow := p.stream.inner, closed := link.closed || p.closed })

end DebugBridge.Shell
