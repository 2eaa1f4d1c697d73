import DebugBridge.Proofs.Alike
import DebugBridge.Sync.Query
import DebugBridge.Sync.Transfer

/-!
# Sessions that differ in their pieces only

Sessions on alike links cannot be told apart either. Every step of a session respects that, aborting
one included. A loop over the blocks of an answer goes on after the same block in both, and so stops
at the same one; and a transfer gives its sink the same bytes and its caller the same reports.

* `SyncSession.respects_step` — a step on the link is a step of the session
* `SyncSession.respects_stat`, `SyncSession.respects_list` — the questions
* `Transfer.push_alike`, `Transfer.pull_alike` — the transfers
* `SyncStep.runAll_alike` — any row of them
* `splitting_invisible` — framed operations and sessions together
-/

namespace DebugBridge

namespace SyncSession

open Run

variable {α : Type}

/-- Two sessions on alike links are both open, or both closed. -/
structure Alike (s s' : SyncSession) : Prop where
  link : s.link.Alike s'.link
  isOpen : s.isOpen = s'.isOpen

/-! ## Steps -/

theorem Alike.abort {s s' : SyncSession} (h : s.Alike s') : s.abort.Alike s'.abort := by
  obtain ⟨link, isOpen⟩ := s
  obtain ⟨link', isOpen'⟩ := s'
  obtain rfl : isOpen = isOpen' := h.isOpen
  cases isOpen with
  | false => exact h
  | true =>
    -- whether the device was told to quit does not matter, but how much of that was written does
    exact ⟨(h.link.writeAll _).2.close, rfl⟩

theorem respects_abandon (e : Failure) : Respects Alike (abandon e : SessionRun α) :=
  fun _ _ h => ⟨rfl, h.abort⟩

/-- **What respects alike links respects alike sessions.** -/
theorem respects_step {x : Exchange α} (hx : Respects Link.Alike x) : Respects Alike (step x) := by
  rintro ⟨link, isOpen⟩ ⟨link', isOpen'⟩ h
  obtain rfl : isOpen = isOpen' := h.isOpen
  cases isOpen with
  | false => exact ⟨rfl, h⟩
  | true =>
    cases hr : x link with
    | mk result left =>
      obtain ⟨left', hr', hlink⟩ := hx.out h.link hr
      have hleft : Alike ⟨left, true⟩ ⟨left', true⟩ := ⟨hlink, rfl⟩
      rw [step, step, hr, hr']
      cases result with
      | ok a => exact ⟨rfl, hleft⟩
      | error e => exact ⟨rfl, hleft.abort⟩

theorem respects_readExact (size : Nat) : Respects Alike (readExact size) :=
  respects_step (Exchange.respects_fill size _)

theorem respects_writeAll (bytes : Bytes) : Respects Alike (writeAll bytes) :=
  respects_step (Exchange.respects_writeAll bytes)

theorem respects_readWord : Respects Alike readWord :=
  (respects_readExact 4).bind fun _ => respects_pure _

theorem respects_request (command : SyncCommand) (payload : String) :
    Respects Alike (request command payload) := respects_writeAll _

theorem respects_readLength (what : String) : Respects Alike (readLength what) :=
  respects_readWord.bind fun size => by
    split
    · exact respects_abandon _
    · exact respects_pure _

theorem respects_refusal : Respects Alike (refusal : SessionRun α) :=
  (respects_readLength _).bind fun size =>
    (respects_readExact size).bind fun _ => respects_throw _

theorem respects_unexpected (id : Bytes) (expected : String) :
    Respects Alike (unexpected id expected : SessionRun α) := respects_abandon _

/-! ## Questions -/

/-- **The status of a file** is the same on alike sessions. -/
theorem respects_stat (path : String) : Respects Alike (stat path) :=
  (respects_lift _).bind fun _ => (respects_request .stat path).bind fun _ =>
    (respects_readExact 4).bind fun id => by
      split
      · exact (respects_readExact 12).bind fun _ => respects_pure _
      · exact respects_refusal
      · exact respects_unexpected _ _

theorem respects_entryBody : Respects Alike entryBody :=
  (respects_readExact 16).bind fun body => by
    dsimp only
    split
    · exact respects_abandon _
    · exact (respects_readExact _).bind fun _ => respects_pure _

theorem respects_listPart : Respects Alike listPart :=
  (respects_readExact 4).bind fun id => by
    split
    · exact respects_entryBody.bind fun _ => respects_pure _
    · exact (respects_readExact 16).bind fun _ => respects_pure _
    · exact respects_refusal
    · exact respects_unexpected _ _

theorem listParts_eq (entries : List FileEntry) (s : SyncSession) :
    listParts entries s = match listPart s with
      | (.error e, s') => (.error e, s')
      | (.ok none, s') => (.ok entries.reverse, s')
      | (.ok (some entry), s') => listParts (entry :: entries) s' := by
  fun_cases listParts entries s with
  | case1 e left hr => rw [hr]
  | case2 left hr => rw [hr]
  | case3 entry left hr => rw [hr]

/-- The blocks of a list are read alike, one after another. -/
theorem respects_listParts (entries : List FileEntry) : Respects Alike (listParts entries) := by
  intro s s' h
  -- the induction unfolds the first run; the second one is unfolded by hand, a block at a time
  rw [listParts_eq entries s']
  fun_induction listParts entries s generalizing s' with
  | case1 entries s e left hr =>
    obtain ⟨left', hr', hleft⟩ := respects_listPart.out h hr
    rw [hr']
    exact ⟨rfl, hleft⟩
  | case2 entries s left hr =>
    obtain ⟨left', hr', hleft⟩ := respects_listPart.out h hr
    rw [hr']
    exact ⟨rfl, hleft⟩
  | case3 entries s entry left hr _ ih =>
    obtain ⟨left', hr', hleft⟩ := respects_listPart.out h hr
    rw [hr']
    simp only
    rw [listParts_eq (entry :: entries) left']
    exact ih left' hleft

/-- **The entries of a directory** are the same on alike sessions. -/
theorem respects_list (path : String) : Respects Alike (list path) :=
  (respects_lift _).bind fun _ => (respects_request .list path).bind fun _ =>
    respects_listParts []

end SyncSession

namespace Transfer

open Run SyncSession

variable {α : Type}

/-! ## Transfers -/

/-- Two transfers on alike sessions have reported the same until now. -/
structure Alike (t t' : Transfer) : Prop where
  session : t.session.Alike t'.session
  moment : t.moment = t'.moment
  reports : t.reports = t'.reports

theorem respects_onSession {x : SessionRun α} (hx : Respects SyncSession.Alike x) :
    Respects Alike (onSession x) := by
  intro t t' h
  obtain ⟨hresult, hsession⟩ := hx t.session t'.session h.session
  exact ⟨hresult, hsession, h.moment, h.reports⟩

theorem respects_begin (cancelled : Cancelled) (path : String) :
    Respects Alike (begin cancelled path) := by
  have hask : Respects Alike (fun t => (.ok (t.ask cancelled).1, (t.ask cancelled).2) :
      TransferRun Bool) := fun t t' h =>
    ⟨by simp only [ask, h.moment], h.session, by simp only [ask, h.moment], h.reports⟩
  refine (respects_lift _).bind fun _ => hask.bind fun stop => ?_
  split
  · exact respects_throw _
  · exact respects_pure ()

theorem respects_checkpoint (cancelled : Cancelled) (reporting : Reporting) (moved : Nat) :
    Respects Alike (checkpoint cancelled reporting moved) := by
  intro t t' h
  have hupdate : (t.update reporting moved).Alike (t'.update reporting moved) :=
    ⟨h.session, by simp only [update, h.moment], by simp only [update, h.reports]⟩
  simp only [checkpoint, ask]
  rw [hupdate.moment]
  cases cancelled (t'.update reporting moved).moment with
  | true => exact ⟨rfl, hupdate.session.abort, rfl, hupdate.reports⟩
  | false => exact ⟨rfl, hupdate.session, rfl, hupdate.reports⟩

theorem respects_needOpen : Respects Alike needOpen := by
  intro t t' h
  refine ⟨?_, h⟩
  simp only [needOpen, h.session.isOpen]

theorem respects_dataPart : Respects SyncSession.Alike dataPart := by
  refine (respects_readExact 4).bind fun id => ?_
  have hbody : Respects SyncSession.Alike dataBody :=
    respects_readWord.bind fun size => by
      split
      · exact respects_abandon _
      · exact respects_readExact _
  split
  · exact hbody.bind fun _ => respects_pure _
  · exact respects_readWord.bind fun _ => respects_pure _
  · exact respects_refusal
  · exact respects_unexpected _ _

theorem respects_pushEnd (mtime : UInt32) : Respects SyncSession.Alike (pushEnd mtime) :=
  (respects_writeAll _).bind fun _ => (respects_readExact 4).bind fun id => by
    split
    · exact respects_readWord.bind fun _ => respects_pure ()
    · exact respects_refusal
    · exact respects_unexpected _ _

/-- Two transfers have come to the same: the result, what else they leave, and where they stand. -/
structure Same {β : Type} (out out' : Except Failure Nat × β × Transfer) : Prop where
  result : out.1 = out'.1
  left : out.2.1 = out'.2.1
  transfer : out.2.2.Alike out'.2.2

/-- The other of two outcomes that are the same. -/
theorem Same.out {β : Type} {out out' : Except Failure Nat × β × Transfer} (h : Same out out')
    {result : Except Failure Nat} {b : β} {t : Transfer} (hout : out = (result, b, t)) :
    ∃ t', out' = (result, b, t') ∧ t.Alike t' := by
  subst hout
  obtain ⟨result', b', t'⟩ := out'
  obtain ⟨rfl, rfl, ht⟩ := h
  exact ⟨t', rfl, ht⟩

/-- Sends a block of content, the last byte of which is the one at `moved`. -/
def pushPiece (cancelled : Cancelled) (reporting : Reporting) (moved : Nat) (piece : Bytes) :
    TransferRun Unit := do
  onSession (SyncSession.writeAll (SyncCommand.data.block piece))
  checkpoint cancelled reporting moved

theorem respects_pushPiece (cancelled : Cancelled) (reporting : Reporting) (moved : Nat)
    (piece : Bytes) : Respects Alike (pushPiece cancelled reporting moved piece) :=
  (respects_onSession (respects_writeAll _)).bind fun _ => respects_checkpoint _ _ _

theorem pushData_eq (cancelled : Cancelled) (reporting : Reporting) (moved : Nat)
    (source : Inflow) (t : Transfer) :
    pushData cancelled reporting moved source t = match source.readOn maxChunk with
      | (.error e, source') =>
        (.error (.localFile e), source', { t with session := t.session.abort })
      | (.ok [], source') => (.ok moved, source', t)
      | (.ok (b :: bytes), source') =>
        match pushPiece cancelled reporting (moved + (bytes.length + 1)) (b :: bytes) t with
        | (.error e, t) => (.error e, source', t)
        | (.ok (), t) => pushData cancelled reporting (moved + (bytes.length + 1)) source' t := by
  fun_cases pushData cancelled reporting moved source t with
  | case1 e source' hr => rw [hr]
  | case2 source' hr => rw [hr]
  | case3 b bytes source' hr hlt moved' block e left hb =>
    have hb : pushPiece cancelled reporting moved' (b :: bytes) t = (.error e, left) := hb
    rw [hr]
    simp only
    rw [hb]
  | case4 b bytes source' hr hlt moved' block left hb =>
    have hb : pushPiece cancelled reporting moved' (b :: bytes) t = (.ok (), left) := hb
    rw [hr]
    simp only
    rw [hb]

theorem pullData_eq (cancelled : Cancelled) (reporting : Reporting) (moved : Nat) (sink : Sink)
    (t : Transfer) :
    pullData cancelled reporting moved sink t = match dataPart t.session with
      | (.error e, session) => (.error e, sink, { t with session })
      | (.ok none, session) =>
        match sink.flush with
        | .error e => (.error (.localFile e), sink, { t with session })
        | .ok () => (.ok moved, sink, { t with session })
      | (.ok (some bytes), session) =>
        match sink.store bytes with
        | (.error e, sink) => (.error (.localFile e), sink, { t with session })
        | (.ok (), sink) =>
          match checkpoint cancelled reporting (moved + bytes.length) { t with session } with
          | (.error e, t') => (.error e, sink, t')
          | (.ok (), t') => pullData cancelled reporting (moved + bytes.length) sink t' := by
  fun_cases pullData cancelled reporting moved sink t with
  | case1 e session hd => rw [hd]
  | case2 session hd e hflush => simp only [hd, hflush]
  | case3 session hd hflush => simp only [hd, hflush]
  | case4 bytes session hd e sink' hs => simp only [hd, hs]
  | case5 bytes session hd sink' hs moved' e left hc =>
    simp only [hd, hs]
    rw [hc]
  | case6 bytes session hd sink' hs moved' left hc =>
    simp only [hd, hs]
    rw [hc]

/-- The bytes of a source are sent alike. -/
theorem pushData_alike (cancelled : Cancelled) (reporting : Reporting) (moved : Nat)
    (source : Inflow) {t t' : Transfer} (h : t.Alike t') :
    Same (pushData cancelled reporting moved source t)
      (pushData cancelled reporting moved source t') := by
  rw [pushData_eq cancelled reporting moved source t']
  fun_induction pushData cancelled reporting moved source t generalizing t' with
  | case1 moved source t e source' hr =>
    rw [hr]
    exact ⟨rfl, rfl, h.session.abort, h.moment, h.reports⟩
  | case2 moved source t source' hr =>
    rw [hr]
    exact ⟨rfl, rfl, h⟩
  | case3 moved source t b bytes source' hr _ moved' block e left =>
    rename_i hb
    obtain ⟨left', hb', hleft⟩ := (respects_pushPiece _ _ moved' (b :: bytes)).out h hb
    rw [hr]
    simp only
    rw [hb']
    exact ⟨rfl, rfl, hleft⟩
  | case4 moved source t b bytes source' hr _ moved' block left =>
    rename_i hb ih
    obtain ⟨left', hb', hleft⟩ := (respects_pushPiece _ _ moved' (b :: bytes)).out h hb
    rw [hr]
    simp only
    rw [hb']
    simp only
    rw [pushData_eq cancelled reporting _ source' left']
    exact ih hleft

/-- The blocks of a file are given to the sink alike. -/
theorem pullData_alike (cancelled : Cancelled) (reporting : Reporting) (moved : Nat) (sink : Sink)
    {t t' : Transfer} (h : t.Alike t') :
    Same (pullData cancelled reporting moved sink t)
      (pullData cancelled reporting moved sink t') := by
  rw [pullData_eq cancelled reporting moved sink t']
  fun_induction pullData cancelled reporting moved sink t generalizing t' with
  | case1 moved sink t e session hd =>
    obtain ⟨session', hd', hleft⟩ := respects_dataPart.out h.session hd
    rw [hd']
    exact ⟨rfl, rfl, hleft, h.moment, h.reports⟩
  | case2 moved sink t session hd e hflush =>
    obtain ⟨session', hd', hleft⟩ := respects_dataPart.out h.session hd
    rw [hd']
    simp only [hflush]
    exact ⟨rfl, rfl, hleft, h.moment, h.reports⟩
  | case3 moved sink t session hd hflush =>
    obtain ⟨session', hd', hleft⟩ := respects_dataPart.out h.session hd
    rw [hd']
    simp only [hflush]
    exact ⟨rfl, rfl, hleft, h.moment, h.reports⟩
  | case4 moved sink t bytes session hd e sink' hs =>
    obtain ⟨session', hd', hleft⟩ := respects_dataPart.out h.session hd
    rw [hd']
    simp only [hs]
    exact ⟨rfl, rfl, hleft, h.moment, h.reports⟩
  | case5 moved sink t bytes session hd sink' hs moved' e left =>
    rename_i hc
    obtain ⟨session', hd', hleft⟩ := respects_dataPart.out h.session hd
    have hstored : Alike { t with session } { t' with session := session' } :=
      ⟨hleft, h.moment, h.reports⟩
    obtain ⟨left', hc', hend⟩ := (respects_checkpoint _ _ _).out hstored hc
    rw [hd']
    simp only [hs]
    rw [hc']
    exact ⟨rfl, rfl, hend⟩
  | case6 moved sink t bytes session hd sink' hs moved' left =>
    rename_i hc _ ih
    obtain ⟨session', hd', hleft⟩ := respects_dataPart.out h.session hd
    have hstored : Alike { t with session } { t' with session := session' } :=
      ⟨hleft, h.moment, h.reports⟩
    obtain ⟨left', hc', hend⟩ := (respects_checkpoint _ _ _).out hstored hc
    rw [hd']
    simp only [hs]
    rw [hc']
    simp only
    rw [pullData_eq cancelled reporting _ sink' left']
    exact ih hend

/-- **A push comes to the same on alike sessions.** -/
theorem push_alike (cancelled : Cancelled) (reporting : Reporting) (source : Inflow)
    (path : String) (mode mtime : UInt32) {t t' : Transfer} (h : t.Alike t') :
    Same (push cancelled reporting source path mode mtime t)
      (push cancelled reporting source path mode mtime t') := by
  have hheader : Respects Alike (do
      begin cancelled path
      needOpen
      onSession (SyncSession.request .send (sendHeader path mode)) : TransferRun Unit) :=
    (respects_begin cancelled path).bind fun _ => respects_needOpen.bind fun _ =>
      respects_onSession (respects_request _ _)
  rw [push, push]
  cases hr : (do
      begin cancelled path
      needOpen
      onSession (SyncSession.request .send (sendHeader path mode)) : TransferRun Unit) t with
  | mk result left =>
    obtain ⟨left', hr', hleft⟩ := hheader.out h hr
    rw [hr']
    cases result with
    | error e => exact ⟨rfl, rfl, hleft⟩
    | ok u =>
      simp only
      cases hd : pushData cancelled reporting 0 source left with
      | mk sent out =>
        obtain ⟨end', hd', hend⟩ := (pushData_alike cancelled reporting 0 source hleft).out hd
        rw [hd']
        cases sent with
        | error e => exact ⟨rfl, rfl, hend⟩
        | ok moved =>
          have hpushEnd := respects_onSession (respects_pushEnd mtime)
          cases he : onSession (pushEnd mtime) out.2 with
          | mk answer last =>
            obtain ⟨last', he', hlast⟩ := hpushEnd.out hend he
            simp only [he]
            rw [he']
            cases answer with
            | error e => exact ⟨rfl, rfl, hlast⟩
            | ok u => exact ⟨rfl, rfl, hlast⟩

/-- **A pull comes to the same on alike sessions.** -/
theorem pull_alike (cancelled : Cancelled) (reporting : Reporting) (path : String) (sink : Sink)
    {t t' : Transfer} (h : t.Alike t') :
    Same (pull cancelled reporting path sink t) (pull cancelled reporting path sink t') := by
  have hheader : Respects Alike (do
      begin cancelled path
      onSession (SyncSession.request .receive path) : TransferRun Unit) :=
    (respects_begin cancelled path).bind fun _ => respects_onSession (respects_request _ _)
  rw [pull, pull]
  cases hr : (do
      begin cancelled path
      onSession (SyncSession.request .receive path) : TransferRun Unit) t with
  | mk result left =>
    obtain ⟨left', hr', hleft⟩ := hheader.out h hr
    rw [hr']
    cases result with
    | error e => exact ⟨rfl, rfl, hleft⟩
    | ok u => exact pullData_alike cancelled reporting 0 sink hleft

end Transfer

/-! ## Rows of operations -/

/-- An operation of a session. -/
inductive SyncStep where
  | stat (path : String)
  | list (path : String)
  | push (cancelled : Cancelled) (reporting : Reporting) (source : Inflow) (path : String)
    (mode mtime : UInt32)
  | pull (cancelled : Cancelled) (reporting : Reporting) (path : String) (sink : Sink)

/-- What an operation of a session gives. -/
inductive SyncValue where
  | stat (stat : FileStat)
  | list (entries : List FileEntry)
  /-- How many bytes were moved. -/
  | moved (size : Nat)

/-- What can be told of a session after an operation: what came of it, the bytes that a sink was
given, the reports to the caller, all that was written until then, and whether the session and its
link are closed. -/
structure SyncRecord where
  result : Except Failure SyncValue
  stored : Bytes
  reports : List Report
  written : Bytes
  isOpen : Bool
  closed : Bool

namespace SyncStep

/-- The record of an operation that has left a transfer. -/
def record (result : Except Failure SyncValue) (stored : Array UInt8) (t : Transfer) : SyncRecord :=
  ⟨result, stored.toList, t.reports.toList, t.session.link.written.toList, t.session.isOpen,
    t.session.link.closed⟩

/-- Does an operation. -/
def run (s : SyncSession) : SyncStep → SyncRecord × SyncSession
  | .stat path =>
    let out := SyncSession.stat path s
    (record (out.1.map .stat) #[] { session := out.2 }, out.2)
  | .list path =>
    let out := SyncSession.list path s
    (record (out.1.map .list) #[] { session := out.2 }, out.2)
  | .push cancelled reporting source path mode mtime =>
    let out := Transfer.push cancelled reporting source path mode mtime { session := s }
    (record (out.1.map .moved) #[] out.2.2, out.2.2.session)
  | .pull cancelled reporting path sink =>
    let out := Transfer.pull cancelled reporting path sink { session := s }
    (record (out.1.map .moved) out.2.1.stored out.2.2, out.2.2.session)

/-- Does one operation after another, whatever comes of them. -/
def runAll : List SyncStep → SyncSession → List SyncRecord × SyncSession
  | [], s => ([], s)
  | step :: steps, s =>
    let out := step.run s
    let later := runAll steps out.2
    (out.1 :: later.1, later.2)

theorem record_alike (result : Except Failure SyncValue) (stored : Array UInt8) {t t' : Transfer}
    (h : t.Alike t') : record result stored t = record result stored t' := by
  simp only [record, h.reports, h.session.link.written, h.session.isOpen, h.session.link.closed]

/-- **An operation does not tell alike sessions apart.** -/
theorem run_alike (step : SyncStep) {s s' : SyncSession} (h : s.Alike s') :
    (step.run s).1 = (step.run s').1 ∧ (step.run s).2.Alike (step.run s').2 := by
  have hfresh : ∀ {s s' : SyncSession}, s.Alike s' →
      Transfer.Alike { session := s } { session := s' } := fun h => ⟨h, rfl, rfl⟩
  cases step with
  | stat path =>
    obtain ⟨hresult, hleft⟩ := SyncSession.respects_stat path s s' h
    refine ⟨?_, hleft⟩
    simp only [run, hresult]
    exact record_alike _ _ (hfresh hleft)
  | list path =>
    obtain ⟨hresult, hleft⟩ := SyncSession.respects_list path s s' h
    refine ⟨?_, hleft⟩
    simp only [run, hresult]
    exact record_alike _ _ (hfresh hleft)
  | push cancelled reporting source path mode mtime =>
    have hsame := Transfer.push_alike cancelled reporting source path mode mtime (hfresh h)
    refine ⟨?_, hsame.transfer.session⟩
    simp only [run, hsame.result]
    exact record_alike _ _ hsame.transfer
  | pull cancelled reporting path sink =>
    have hsame := Transfer.pull_alike cancelled reporting path sink (hfresh h)
    refine ⟨?_, hsame.transfer.session⟩
    simp only [run, hsame.result, hsame.left]
    exact record_alike _ _ hsame.transfer

/-- **A row of operations does not tell alike sessions apart.** -/
theorem runAll_alike (steps : List SyncStep) {s s' : SyncSession} (h : s.Alike s') :
    (runAll steps s).1 = (runAll steps s').1 ∧
      (runAll steps s).2.Alike (runAll steps s').2 := by
  induction steps generalizing s s' with
  | nil => exact ⟨rfl, h⟩
  | cons step steps ih =>
    obtain ⟨hrecord, hleft⟩ := step.run_alike h
    obtain ⟨hrecords, hend⟩ := ih hleft
    refine ⟨?_, hend⟩
    simp only [runAll, hrecord, hrecords]

end SyncStep

/-- **How bytes are cut into pieces is invisible.** On links that bring the same bytes and the same
kinds of failure, cut anywhere and interrupted anywhere, and that take the same bytes, at least one
at a time, every row of framed operations, and every row of operations of a session behind it, has
the same results, gives sinks the same bytes and callers the same reports, writes the same bytes,
and closes the session and the link at the same point. -/
theorem splitting_invisible {link link' : Link} (h : link.Alike link')
    (exchanges : List SocketStep) (operations : List SyncStep) (isOpen : Bool) :
    (SocketStep.runAll exchanges link).1 = (SocketStep.runAll exchanges link').1 ∧
      (SyncStep.runAll operations ⟨(SocketStep.runAll exchanges link).2, isOpen⟩).1 =
        (SyncStep.runAll operations ⟨(SocketStep.runAll exchanges link').2, isOpen⟩).1 := by
  obtain ⟨hrecords, hleft⟩ := SocketStep.runAll_alike exchanges h
  have hsession : SyncSession.Alike ⟨(SocketStep.runAll exchanges link).2, isOpen⟩
      ⟨(SocketStep.runAll exchanges link').2, isOpen⟩ := ⟨hleft, rfl⟩
  exact ⟨hrecords, (SyncStep.runAll_alike operations hsession).1⟩

/-- Two replies and the start of a session in one piece, and in five with an interruption between
them on a link that takes one byte at a time. -/
theorem splitting_invisible_two_replies :
    let whole : Link := { inflow := .ofBytes (Utf8.ofString "OKAYFAIL0004goneSTAT") }
    let pieces : Link :=
      { inflow := { arrivals := [.bytes (Utf8.ofString "OK"),
          .failure ⟨.interrupted, "interrupted"⟩, .bytes (Utf8.ofString "AYFAIL0"),
          .bytes (Utf8.ofString "00"), .bytes (Utf8.ofString "4goneS"),
          .bytes (Utf8.ofString "TAT")] },
        writeMax := some 1 }
    let replies : List SocketStep := [.reply false, .reply false]
    whole.Alike pieces ∧
      (SocketStep.runAll replies pieces).1 =
        [⟨.ok (.reply (.okay "")), [], false⟩, ⟨.ok (.reply (.refused "gone")), [], false⟩] ∧
      ∀ operations,
        (SyncStep.runAll operations ⟨(SocketStep.runAll replies whole).2, true⟩).1 =
          (SyncStep.runAll operations ⟨(SocketStep.runAll replies pieces).2, true⟩).1 := by
  intro whole pieces replies
  have hinterrupted : ∀ e, .failure e ∈ pieces.inflow.arrivals → e.isInterrupted = true := by
    intro e h
    simp only [pieces, List.mem_cons, reduceCtorEq, Arrival.failure.injEq, List.not_mem_nil,
      false_or, or_false] at h
    rw [h]
    rfl
  have hcalm : pieces.Calm :=
    ⟨⟨rfl, rfl, by decide, fun turn h => absurd h List.not_mem_nil⟩, rfl, hinterrupted⟩
  have halike : whole.Alike pieces := (Link.calm_ofBytes _).alike hcalm rfl rfl rfl
  refine ⟨halike, ?_, fun operations => ?_⟩
  · rw [← (splitting_invisible halike replies [] true).1]
    rfl
  · exact (splitting_invisible halike replies operations true).2

end DebugBridge
