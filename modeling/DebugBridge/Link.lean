import DebugBridge.Inflow
import DebugBridge.Run

/-!
# Links

A link is one connection to the server: what it still delivers, what was written to it, and how it
behaves. It may accept only some bytes at a time, refuse a write, stop accepting bytes, or refuse
to set a deadline. Once it is closed, reads find the end of the stream and writes fail.

An `Exchange` is a run on a link. No exchange makes what is left to read larger, and one that reads
makes it smaller.
-/

namespace DebugBridge

/-- The two sides of a link that can have a deadline. -/
inductive Side where
  | reading | writing
  deriving DecidableEq, Repr, Inhabited

/-- What becomes of one write. -/
inductive WriteTurn where
  /-- It accepts at most so many bytes. -/
  | takes (most : Nat)
  | fails (cause : IoFailure)
  deriving DecidableEq, Repr, Inhabited

/-- A connection. -/
structure Link where
  inflow : Inflow := .nothing
  /-- The bytes that were accepted, in order. -/
  written : Array UInt8 := #[]
  /-- What becomes of the next writes; those after them are bounded by the next two fields only. -/
  turns : List WriteTurn := []
  /-- The most bytes that one write accepts. -/
  writeMax : Option Nat := none
  /-- The number of bytes after which writes fail, and how. -/
  writeLimit : Option (Nat × IoFailure) := none
  flushFailure : Option IoFailure := none
  /-- How setting a deadline fails. -/
  deadlineFailure : Option IoFailure := none
  /-- Whether a handle can be had that closes the link from elsewhere. -/
  interruptible : Bool := true
  closed : Bool := false
  /-- The deadlines that were asked for, in milliseconds; none waits for ever. -/
  deadlines : Array (Side × Option Nat) := #[]
  deriving Repr, Inhabited

/-- A run on a link. -/
abbrev Exchange := Run Link

namespace Link

/-- How writes on a closed link fail. -/
def closedFailure : IoFailure := ⟨.brokenPipe, "closed"⟩

/-- How a write that accepts no byte fails. -/
def writeZero : IoFailure := ⟨.writeZero, "failed to write whole buffer"⟩

/-- How a handle is refused. -/
def noHandle : IoFailure := ⟨.notConnected, "transport is closed"⟩

/-! ## Reading -/

/-- One read of at most `size` bytes. -/
def read (size : Nat) (link : Link) : Except IoFailure Bytes × Link :=
  if link.closed then (.ok [], link)
  else
    let (result, inflow) := link.inflow.read size
    (result, { link with inflow })

/-- Reads exactly `size` bytes. -/
def readExact (size : Nat) (link : Link) : Except IoFailure Bytes × Link :=
  if link.closed then (if size = 0 then .ok [] else .error Inflow.shortRead, link)
  else
    let (result, inflow) := link.inflow.readExact size
    (result, { link with inflow })

/-- Reads on to the end of the stream or the first failure: the bytes and the failure. -/
def readToEnd (link : Link) : (Bytes × Option IoFailure) × Link :=
  if link.closed then (([], none), link)
  else
    let (result, inflow) := link.inflow.readToEnd
    (result, { link with inflow })

/-! ## Writing -/

/-- How many of the next `size` bytes are accepted at once when no turn decides. -/
def steadyRoom (link : Link) (size : Nat) : Except IoFailure Nat :=
  let size := min size (link.writeMax.getD size)
  match link.writeLimit with
  | some (limit, e) =>
    if limit ≤ link.written.size then .error e else .ok (min size (limit - link.written.size))
  | none => .ok size

/-- How many of the next `size` bytes one write accepts. -/
def room (link : Link) (size : Nat) : Except IoFailure Nat :=
  if link.closed then .error closedFailure
  else
    match link.turns with
    | [] => link.steadyRoom size
    | .takes most :: _ => link.steadyRoom (min size most)
    | .fails e :: _ => .error e

/-- Takes bytes as written by one write. -/
def accept (bytes : Bytes) (link : Link) : Link :=
  { link with written := link.written.appendList bytes, turns := link.turns.tail }

/-- Writes all the bytes, in as many writes as that takes. A write that was interrupted is
repeated; one that is interrupted at its limit would be repeated for ever, and fails here. -/
def writeAll (bytes : Bytes) (link : Link) : Except IoFailure Unit × Link :=
  match bytes with
  | [] => (.ok (), link)
  | b :: rest =>
    match link.room (rest.length + 1) with
    | .error e =>
      if e.isInterrupted ∧ link.turns ≠ [] then writeAll (b :: rest) (link.accept [])
      else (.error e, link.accept [])
    | .ok 0 => (.error writeZero, link.accept [])
    | .ok (n + 1) => writeAll (rest.drop n) (link.accept (b :: rest.take n))
termination_by bytes.length + link.turns.length
decreasing_by
  · next h =>
    have := List.length_pos_iff.mpr h.2
    simp only [accept, List.length_tail, List.length_cons]
    omega
  · simp only [accept, List.length_drop, List.length_tail, List.length_cons]
    omega

/-- Hands everything written so far to the peer. -/
def flush (link : Link) : Except IoFailure Unit :=
  match link.flushFailure with
  | some e => .error e
  | none => .ok ()

/-! ## Deadlines and closing -/

/-- Asks for a deadline on one side. -/
def setDeadline (side : Side) (deadline : Option Nat) (link : Link) :
    Except IoFailure Unit × Link :=
  (match link.deadlineFailure with
    | some e => .error e
    | none => .ok (),
    { link with deadlines := link.deadlines.push (side, deadline) })

/-- Closes the link. -/
def close (link : Link) : Link := { link with closed := true }

end Link

/-! ## Exchanges -/

namespace Exchange

/-- A call on the link whose failure ends the exchange. -/
def call {α : Type} (f : Link → Except IoFailure α × Link) : Exchange α := fun link =>
  let (result, link) := f link
  (result.mapError Failure.ofConnection, link)

/-- Writes all the bytes. -/
def writeAll (bytes : Bytes) : Exchange Unit := call (Link.writeAll bytes)

/-- Hands everything written so far to the peer. -/
def flush : Exchange Unit := call fun link => (link.flush, link)

/-- Asks for a deadline on one side. -/
def setDeadline (side : Side) (deadline : Option Nat) : Exchange Unit :=
  call (Link.setDeadline side deadline)

/-- Closes the link. -/
def close : Exchange Unit := fun link => (.ok (), link.close)

/-- Asks for a handle that closes the link from elsewhere. -/
def needHandle : Exchange Unit := fun link =>
  (if link.interruptible then .ok () else .error (.connection Link.noHandle), link)

/-- Asks for deadlines on both sides, for the second one only if the first could be set. -/
def setDeadlines (reading writing : Option Nat) : Exchange Unit := do
  setDeadline .reading reading
  setDeadline .writing writing

/-- Closes the link through a handle. -/
def interrupt : Exchange Unit := do
  needHandle
  close

/-- Reads exactly `size` bytes, or none if the stream ends or breaks before that. Running into the
deadline is a failure. -/
def fill? (size : Nat) : Exchange (Option Bytes) := fun link =>
  match link.readExact size with
  | (.ok bytes, link) => (.ok (some bytes), link)
  | (.error e, link) => (if e.isDeadline then .error .deadline else .ok none, link)

/-- Reads exactly `size` bytes; `during` says what for. -/
def fill (size : Nat) (during : String) : Exchange Bytes := fun link =>
  match link.readExact size with
  | (.ok bytes, link) => (.ok bytes, link)
  | (.error e, link) =>
    (.error (if e.isDeadline then .deadline else .connectionClosed during), link)

end Exchange

/-! ## What is left to read -/

namespace Link

/-- How many bytes are left to read. -/
def remaining (link : Link) : Nat := link.inflow.bytes.length

theorem remaining_readExact (size : Nat) (link : Link) :
    (link.readExact size).2.remaining +
        ((link.readExact size).1.toOption.elim 0 fun _ => size) ≤ link.remaining := by
  unfold Link.readExact
  split
  · split <;> simp_all [Except.toOption]
  · exact Inflow.length_readExactly rfl

theorem inflow_writeAll (bytes : Bytes) (link : Link) :
    (link.writeAll bytes).2.inflow = link.inflow := by
  fun_induction Link.writeAll bytes link with
  | case1 => rfl
  | case2 link b rest e he hi ih => rw [ih]; rfl
  | case3 => rfl
  | case4 => rfl
  | case5 link b rest n hn ih => rw [ih]; rfl

end Link

namespace Exchange

open Run

theorem shrinks_fill (size : Nat) (during : String) :
    Shrinks Link.remaining (fill size during) := by
  intro link
  have := Link.remaining_readExact size link
  unfold fill
  split <;> next h => simp_all; omega

theorem consumes_fill {size : Nat} (h : 0 < size) (during : String) :
    Consumes Link.remaining (fill size during) := by
  intro link bytes link' hl
  have := Link.remaining_readExact size link
  unfold fill at hl
  split at hl
  · next hr =>
    cases hl
    simp [hr, Except.toOption] at this
    omega
  · cases hl

end Exchange

end DebugBridge
