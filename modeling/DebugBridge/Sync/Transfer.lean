import DebugBridge.Sync.Session

/-!
# Transfers

`push` sends the bytes of a source as a file to the device, `pull` gives the bytes of a file of
the device to a sink. The bytes travel in blocks `DATA`, and a block `DONE` ends them.

After each block the transfer reports how many bytes it has moved and asks whether the caller has
cancelled; then the session is aborted. What a pull has stored until then stays in the sink.

Bytes are counted without a bound. A count of 64 bits starts over at zero after 2^64 of them; at ten
gigabytes in a second that takes more than fifty years.
-/

namespace DebugBridge

/-- What a transfer reports. -/
inductive Report where
  | start (total : Nat)
  | update (moved : Nat)
  | finish
  deriving DecidableEq, Repr, Inhabited

/-- Where a transfer stands in the reports of the caller. -/
inductive Reporting where
  /-- It is all there is to report. -/
  | alone
  /-- It is one of several, and those before it have moved `base` bytes. -/
  | after (base : Nat)
  deriving DecidableEq, Repr, Inhabited

/-- How often a transfer has asked whether it is cancelled, and how often it has reported how many
bytes it has moved. -/
structure Moment where
  asked : Nat := 0
  updates : Nat := 0
  deriving DecidableEq, Repr, Inhabited

/-- Whether the caller has cancelled, by the moment of the question. -/
abbrev Cancelled := Moment → Bool

/-- A session that moves files. -/
structure Transfer where
  session : SyncSession
  moment : Moment := {}
  reports : Array Report := #[]
  deriving Inhabited

/-- A run that moves files. -/
abbrev TransferRun := Run Transfer

/-- Where pulled bytes go. A pull ends with the first write that fails, so one limit tells all that it
can meet. -/
structure Sink where
  stored : Array UInt8 := #[]
  /-- The number of bytes after which writes fail, and how. -/
  limit : Option (Nat × IoFailure) := none
  /-- How the last step fails. -/
  flushFailure : Option IoFailure := none
  deriving Repr, Inhabited

namespace Sink

/-- Stores bytes, as many as there is room for. -/
def store (bytes : Bytes) (sink : Sink) : Except IoFailure Unit × Sink :=
  match sink.limit with
  | none => (.ok (), { sink with stored := sink.stored.appendList bytes })
  | some (limit, e) =>
    let fitting := bytes.take (limit - sink.stored.size)
    (if fitting.length < bytes.length then .error e else .ok (),
      { sink with stored := sink.stored.appendList fitting })

/-- Makes sure of what was stored. -/
def flush (sink : Sink) : Except IoFailure Unit :=
  match sink.flushFailure with
  | some e => .error e
  | none => .ok ()

end Sink

namespace Transfer

/-- A step of the session. -/
def onSession {α : Type} (x : SessionRun α) : TransferRun α := fun t =>
  let (result, session) := x t.session
  (result, { t with session })

/-- Reports that a transfer starts or ends; one of several keeps that to itself. -/
def tell (reporting : Reporting) (report : Report) : TransferRun Unit := fun t =>
  match reporting with
  | .alone => (.ok (), { t with reports := t.reports.push report })
  | .after _ => (.ok (), t)

/-- Reports how many bytes were moved. -/
def update (reporting : Reporting) (moved : Nat) (t : Transfer) : Transfer :=
  let total := match reporting with
    | .alone => moved
    | .after base => base + moved
  { t with
    reports := t.reports.push (.update total)
    moment := { t.moment with updates := t.moment.updates + 1 } }

/-- Asks whether the caller has cancelled. -/
def ask (cancelled : Cancelled) (t : Transfer) : Bool × Transfer :=
  (cancelled t.moment, { t with moment := { t.moment with asked := t.moment.asked + 1 } })

/-- Checks that a transfer of a path may begin. -/
def begin (cancelled : Cancelled) (path : String) : TransferRun Unit := do
  SyncSession.checkPath path
  let stop ← fun t => let (stop, t) := t.ask cancelled; (.ok stop, t)
  if stop then throw .cancelled

/-- Reports what a block has moved; if the caller has cancelled, aborts the session. -/
def checkpoint (cancelled : Cancelled) (reporting : Reporting) (moved : Nat) :
    TransferRun Unit := fun t =>
  match (t.update reporting moved).ask cancelled with
  | (true, t) => (.error .cancelled, { t with session := t.session.abort })
  | (false, t) => (.ok (), t)

/-! ## Push -/

/-- What `push` sends first: the path and the permissions of the file. -/
def sendHeader (path : String) (mode : UInt32) : String :=
  path ++ "," ++ toString (mode &&& 0o777).toNat

/-- Sends the bytes of a source, of which `moved` were sent before: how many there were in all, and
what is left of the source. -/
def pushData (cancelled : Cancelled) (reporting : Reporting) (moved : Nat) (source : Inflow)
    (t : Transfer) : Except Failure Nat × Inflow × Transfer :=
  match h : source.readOn SyncSession.maxChunk with
  | (.error e, source') =>
    (.error (.localFile e), source', { t with session := t.session.abort })
  | (.ok [], source') => (.ok moved, source', t)
  | (.ok (b :: bytes), source') =>
    have : source'.bytes.length < source.bytes.length := by
      have := congrArg List.length (Inflow.bytes_readOn h)
      simp at this
      omega
    let moved := moved + (bytes.length + 1)
    let block := do
      onSession (SyncSession.writeAll (SyncCommand.data.block (b :: bytes)))
      checkpoint cancelled reporting moved
    match block t with
    | (.error e, t) => (.error e, source', t)
    | (.ok (), t) => pushData cancelled reporting moved source' t
termination_by source.bytes.length

/-- Ends the bytes of a file and reads whether the device took them. -/
def pushEnd (mtime : UInt32) : SessionRun Unit := do
  SyncSession.writeAll (SyncCommand.done.word mtime)
  let id ← SyncSession.readExact 4
  match SyncCommand.ofId? id with
  | some .okay =>
    let _ ← SyncSession.readWord
    pure ()
  | some .fail => SyncSession.refusal
  | _ => SyncSession.unexpected id "OKAY or FAIL"

/-- Refuses to go on when the session is closed. -/
def needOpen : TransferRun Unit := fun t =>
  (if t.session.isOpen then .ok () else .error .sessionClosed, t)

/-- Sends a source as a file: how many bytes were sent, and what is left of the source. -/
def push (cancelled : Cancelled) (reporting : Reporting) (source : Inflow) (path : String)
    (mode mtime : UInt32) (t : Transfer) : Except Failure Nat × Inflow × Transfer :=
  let header := do
    begin cancelled path
    needOpen
    onSession (SyncSession.request .send (sendHeader path mode))
  match header t with
  | (.error e, t) => (.error e, source, t)
  | (.ok (), t) =>
    match pushData cancelled reporting 0 source t with
    | (.error e, source, t) => (.error e, source, t)
    | (.ok moved, source, t) =>
      match onSession (pushEnd mtime) t with
      | (.error e, t) => (.error e, source, t)
      | (.ok (), t) => (.ok moved, source, t)

/-! ## Pull -/

/-- Reads a block of content after its command. -/
def dataBody : SessionRun Bytes := do
  let size ← SyncSession.readWord
  if size.toNat > SyncSession.maxChunk then
    SyncSession.abandon (.bufferOverrun size.toNat SyncSession.maxChunk)
  else SyncSession.readExact size.toNat

/-- Reads one block of a file: content, or none at its end. -/
def dataPart : SessionRun (Option Bytes) := do
  let id ← SyncSession.readExact 4
  match SyncCommand.ofId? id with
  | some .data =>
    let bytes ← dataBody
    pure (some bytes)
  | some .done =>
    let _ ← SyncSession.readWord
    pure none
  | some .fail => SyncSession.refusal
  | _ => SyncSession.unexpected id "DATA or DONE"

open Run SyncSession in
theorem shrinks_dataBody : Shrinks remaining dataBody :=
  shrinks_readWord.bind fun size => by
    split
    · exact shrinks_abandon _
    · exact shrinks_readExact _

open Run SyncSession in
theorem consumes_dataPart : Consumes remaining dataPart :=
  (consumes_readExact (by decide)).bind fun id => by
    split
    · exact shrinks_dataBody.bind fun _ => shrinks_pure _ _
    · exact shrinks_readWord.bind fun _ => shrinks_pure _ _
    · exact shrinks_refusal
    · exact shrinks_unexpected _ _

theorem remaining_checkpoint (cancelled : Cancelled) (reporting : Reporting) (moved : Nat)
    (t : Transfer) :
    (checkpoint cancelled reporting moved t).2.session.remaining = t.session.remaining := by
  unfold checkpoint
  split
  · next h =>
    obtain ⟨-, rfl⟩ := Prod.mk.inj h
    exact SyncSession.remaining_abort _
  · next h =>
    obtain ⟨-, rfl⟩ := Prod.mk.inj h
    rfl

/-- Reads the blocks of a file to its end, of which `moved` bytes were read before. -/
def pullData (cancelled : Cancelled) (reporting : Reporting) (moved : Nat) (sink : Sink)
    (t : Transfer) : Except Failure Nat × Sink × Transfer :=
  match h : dataPart t.session with
  | (.error e, session) => (.error e, sink, { t with session })
  | (.ok none, session) =>
    match sink.flush with
    | .error e => (.error (.localFile e), sink, { t with session })
    | .ok () => (.ok moved, sink, { t with session })
  | (.ok (some bytes), session) =>
    match sink.store bytes with
    | (.error e, sink) => (.error (.localFile e), sink, { t with session })
    | (.ok (), sink) =>
      let moved := moved + bytes.length
      match hc : checkpoint cancelled reporting moved { t with session } with
      | (.error e, t') => (.error e, sink, t')
      | (.ok (), t') =>
        have : t'.session.remaining < t.session.remaining := by
          have := consumes_dataPart t.session (some bytes) session h
          have := remaining_checkpoint cancelled reporting moved { t with session }
          simp_all
        pullData cancelled reporting moved sink t'
termination_by t.session.remaining

/-- Gives the bytes of a file to a sink: how many there were, and the sink. -/
def pull (cancelled : Cancelled) (reporting : Reporting) (path : String) (sink : Sink)
    (t : Transfer) : Except Failure Nat × Sink × Transfer :=
  let header := do
    begin cancelled path
    onSession (SyncSession.request .receive path)
  match header t with
  | (.error e, t) => (.error e, sink, t)
  | (.ok (), t) => pullData cancelled reporting 0 sink t

end Transfer

end DebugBridge
