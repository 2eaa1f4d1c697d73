import DebugBridge.Reply
import DebugBridge.Sync.Command
import DebugBridge.Sync.FileStat

/-!
# Sync sessions

A sync session is a connection on which a device answers questions about its files and takes and
gives their contents. Each request is a block, and so is each answer.

When a read or a write fails, or an answer makes no sense, the session no longer knows where the
next answer starts. It is then *aborted*: a last block tells the device to quit, the connection is
closed, and the session stays closed.

## What is left to read

`SyncSession.remaining` counts the bytes that the device still sends. No step makes it larger, and
reading a block makes it smaller; so the loops over the blocks of an answer stop.
-/

namespace DebugBridge

/-- A sync session. -/
structure SyncSession where
  link : Link
  isOpen : Bool := true
  deriving Inhabited

/-- A run on a session that may end in a failure. -/
abbrev SessionRun := Run SyncSession

namespace SyncSession

/-- The most bytes of content in one block. -/
def maxChunk : Nat := 65536

/-- The most bytes in a path on the device. -/
def maxPath : Nat := 1024

/-- Turns a connection to a device into a session. -/
def start : Exchange Unit := Exchange.openStream .sync

/-- Tells the device to quit and closes the connection; that the telling may fail does not matter.
A closed session is left alone. -/
def abort : SyncSession → SyncSession
  | ⟨link, true⟩ => ⟨(link.writeAll (SyncCommand.quit.word 0)).2.close, false⟩
  | ⟨link, false⟩ => ⟨link, false⟩

/-! ## Steps -/

/-- Aborts the session and fails. -/
def abandon {α : Type} (e : Failure) : SessionRun α := fun s => (.error e, s.abort)

/-- A step on the connection of an open session; its failure aborts the session. -/
def step {α : Type} (x : Exchange α) : SessionRun α
  | ⟨link, false⟩ => (.error .sessionClosed, ⟨link, false⟩)
  | ⟨link, true⟩ =>
    match x link with
    | (.ok a, link) => (.ok a, ⟨link, true⟩)
    | (.error e, link) => (.error e, abort ⟨link, true⟩)

/-- Reads exactly `size` bytes. -/
def readExact (size : Nat) : SessionRun Bytes := step (Exchange.readExact size)

/-- Writes all the bytes. -/
def writeAll (bytes : Bytes) : SessionRun Unit := step (Exchange.writeAll bytes)

/-- Reads a word. -/
def readWord : SessionRun UInt32 := do
  let bytes ← readExact 4
  pure (Bytes.frontWord bytes)

/-- Sends a request. -/
def request (command : SyncCommand) (payload : String) : SessionRun Unit :=
  writeAll (command.block (Utf8.ofString payload))

/-- Reads a length of at most `maxChunk`; `what` names what is that long. -/
def readLength (what : String) : SessionRun Nat := do
  let size ← readWord
  if size.toNat > maxChunk then
    abandon (.malformed s!"{what} of {size.toNat} bytes exceeds limit of {maxChunk}")
  else pure size.toNat

/-- Reads the text of a refusal and fails with it; the session goes on. -/
def refusal {α : Type} : SessionRun α := do
  let size ← readLength "Failure message"
  let text ← readExact size
  throw (.malformed (Utf8.lenientString text))

/-- Aborts because an answer starts with an unexpected command. -/
def unexpected {α : Type} (id : Bytes) (expected : String) : SessionRun α :=
  abandon (.malformed
    ("Expected " ++ expected ++ " but got " ++ Text.quoted (Utf8.lenientString id)))

/-- Refuses a path that is too long. -/
def checkPath (path : String) : Except Failure Unit :=
  if Utf8.size path > maxPath then .error (.remotePathTooLong (Utf8.size path) maxPath) else .ok ()

/-! ## What is left to read -/

/-- The bytes that the device still sends. -/
def remaining (s : SyncSession) : Nat := s.link.remaining

open Run

theorem remaining_abort (s : SyncSession) : s.abort.remaining = s.remaining := by
  rcases s with ⟨link, _ | _⟩
  · rfl
  · simp [abort, remaining, Link.remaining, Link.close, Link.inflow_writeAll]

theorem shrinks_abandon {α : Type} (e : Failure) :
    Shrinks remaining (abandon e : SessionRun α) := fun s => by
  simp [abandon, remaining_abort]

theorem shrinks_step {α : Type} {x : Exchange α} (hx : Shrinks Link.remaining x) :
    Shrinks remaining (step x) := by
  rintro ⟨link, _ | _⟩
  · exact Nat.le_refl _
  · have := hx link
    simp only [step]
    split
    · next h => simpa [remaining, h] using this
    · next h =>
      rw [remaining_abort]
      simpa [remaining, h] using this

theorem consumes_step {α : Type} {x : Exchange α} (hx : Consumes Link.remaining x) :
    Consumes remaining (step x) := by
  rintro ⟨link, _ | _⟩ a s' hs
  · cases hs
  · simp only [step] at hs
    split at hs
    · next h =>
      cases hs
      exact hx _ _ _ h
    · cases hs

theorem shrinks_readExact (size : Nat) : Shrinks remaining (readExact size) :=
  shrinks_step (Exchange.shrinks_fill size _)

theorem consumes_readExact {size : Nat} (h : 0 < size) : Consumes remaining (readExact size) :=
  consumes_step (Exchange.consumes_fill h _)

theorem shrinks_readWord : Shrinks remaining readWord :=
  (shrinks_readExact 4).bind fun _ => shrinks_pure _ _

theorem shrinks_readLength (what : String) : Shrinks remaining (readLength what) :=
  shrinks_readWord.bind fun size => by
    split
    · exact shrinks_abandon _
    · exact shrinks_pure _ _

theorem shrinks_refusal {α : Type} : Shrinks remaining (refusal : SessionRun α) :=
  (shrinks_readLength _).bind fun size =>
    (shrinks_readExact size).bind fun _ => shrinks_throw _ _

theorem shrinks_unexpected {α : Type} (id : Bytes) (expected : String) :
    Shrinks remaining (unexpected id expected : SessionRun α) := shrinks_abandon _

end SyncSession

end DebugBridge
