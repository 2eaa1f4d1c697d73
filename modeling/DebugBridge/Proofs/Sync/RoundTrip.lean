import DebugBridge.Proofs.Sync.Replies
import DebugBridge.Proofs.Text

/-!
# What a push sends, a pull reads

A push to a device that takes all writes, of a source that nothing but interruptions disturb, sends
the whole request, however the source hands out its bytes and however the writes are taken. Behind
the block `SEND` of that request stands a whole answer to a pull.

The two loops are never compared with each other. Both are compared with the blocks of a file: the
one writes them, and the other accepts exactly them.

* `Sent` — bytes were written and nothing was read; `pushData_sent`, that a push sends its source so
* `Heard` — something was read, and nothing was written but a farewell
* `payload_sendHeader` — what a device makes of the payload of `SEND`
* `PullsAs` — the bytes that a pull reads as a file; `pullsAs_dataBlocks`, that a push writes such
* `push_roundTrip` — what a push writes, what it makes of a receipt, and what a pull makes of it
-/

namespace DebugBridge

open SyncSession (maxChunk maxPath)

variable {α β : Type}

namespace SyncSession

/-! ## Writing -/

/-- The session `s` has come to `s'` by writing `request`, and takes writes still. -/
structure Sent (s s' : SyncSession) (request : Bytes) : Prop where
  isOpen : s'.isOpen = true
  written : s'.written = s.written ++ request
  writable : s'.link.Writable
  received : s'.link.received = s.link.received

theorem Sent.refl {s : SyncSession} (hs : s.isOpen = true) (hw : s.link.Writable) : Sent s s [] :=
  ⟨hs, (List.append_nil _).symm, hw, rfl⟩

theorem Sent.trans {s s' s'' : SyncSession} {a b : Bytes} (h : Sent s s' a) (h' : Sent s' s'' b) :
    Sent s s'' (a ++ b) :=
  ⟨h'.isOpen, by rw [h'.written, h.written, List.append_assoc], h'.writable,
    h'.received.trans h.received⟩

theorem writeAll_sent {s : SyncSession} (hs : s.isOpen = true) (hw : s.link.Writable)
    (bytes : Bytes) : ∃ s', writeAll bytes s = (.ok (), s') ∧ Sent s s' bytes := by
  rw [writeAll, step_open hs, Exchange.writeAll, Exchange.call]
  obtain ⟨hok, hw'⟩ := hw.writeAll bytes
  have hreceived := Link.received_writeAll bytes s.link
  cases hr : s.link.writeAll bytes with
  | mk result link =>
    rw [hr] at hok hw' hreceived
    cases hok
    exact ⟨_, rfl, rfl, Link.written_writeAll hr, hw', hreceived⟩

/-! ## Reading -/

/-- What a session has told the device before it was closed. -/
def farewell (s : SyncSession) : Bytes := if s.isOpen then [] else SyncCommand.quit.word 0

/-- A run on `s` has written nothing, or it has ended the session and said so. -/
structure Heard (s : SyncSession) (out : Except Failure α × SyncSession) : Prop where
  written : out.2.written = s.written ++ out.2.farewell
  writable : out.2.isOpen = true → out.2.link.Writable
  goesOn : ∀ a, out.1 = .ok a → out.2.isOpen = true

/-- A run that only reads: on a session that takes writes it is heard and nothing else. -/
def Listens (x : SessionRun α) : Prop :=
  ∀ s : SyncSession, s.isOpen = true → s.link.Writable → Heard s (x s)

theorem listens_return (result : Except Failure α) :
    Listens (fun s => (result, s) : SessionRun α) := by
  intro s hs hw
  refine ⟨?_, fun _ => hw, fun _ _ => hs⟩
  rw [farewell, if_pos hs, List.append_nil]

/-- A session that ends tells the device to quit. -/
theorem heard_abort {s : SyncSession} (hs : s.isOpen = true) (hw : s.link.Writable)
    (e : Failure) : Heard s ((.error e : Except Failure α), s.abort) where
  written := by
    obtain ⟨link, isOpen⟩ := s
    cases hs
    let quit := SyncCommand.quit.word 0
    have hall : link.writeAll quit = (.ok (), (link.writeAll quit).2) :=
      Prod.ext (hw.writeAll quit).1 rfl
    have hquit := Link.written_writeAll hall
    exact hquit
  writable h := by
    rw [isOpen_abort] at h
    cases h
  goesOn a h := by cases h

theorem listens_abandon (e : Failure) : Listens (abandon e : SessionRun α) :=
  fun _ hs hw => heard_abort hs hw e

theorem Listens.bind {x : SessionRun α} {f : α → SessionRun β} (hx : Listens x)
    (hf : ∀ a, Listens (f a)) : Listens (x >>= f) := by
  intro s hs hw
  have hfirst := hx s hs hw
  rw [Run.bind_apply]
  cases hr : x s with
  | mk result s' =>
    rw [hr] at hfirst
    cases result with
    | error e => exact ⟨hfirst.written, hfirst.writable, fun a h => by cases h⟩
    | ok a =>
      have hopen := hfirst.goesOn a rfl
      have hnext := hf a s' hopen (hfirst.writable hopen)
      have hsame : s'.written = s.written := by
        rw [hfirst.written, farewell, if_pos hopen, List.append_nil]
      exact ⟨by rw [hnext.written, hsame], hnext.writable, hnext.goesOn⟩

/-- **A read takes the bytes that it can get, and fails if they are too few.** -/
theorem readExact_heard {s : SyncSession} (hs : s.isOpen = true) (hw : s.link.Writable) (n : Nat) :
    Heard s (readExact n s) ∧
      ∀ front rest, s.link.received = front ++ rest → front.length = n →
        ∃ s', readExact n s = (.ok front, s') ∧ s'.link.received = rest := by
  have hkept : ∀ inflow : Inflow, Link.Writable { s.link with inflow } := fun inflow =>
    ⟨hw.closed, hw.unlimited, hw.moves, hw.turns⟩
  rw [readExact, step_open hs, Exchange.readExact, Exchange.fill]
  rcases Link.readExact_received n s.link with ⟨hle, inflow, hr, hleft⟩ | ⟨hlt, e, inflow, hr⟩
  · rw [hr]
    refine ⟨⟨(List.append_nil _).symm, fun _ => hkept inflow, fun a h => rfl⟩, ?_⟩
    intro front rest hreceived hlength
    refine ⟨⟨{ s.link with inflow }, true⟩, ?_, ?_⟩
    · rw [hreceived, ← hlength, List.take_left]
    · rw [hleft, hreceived, ← hlength, List.drop_left]
  · rw [hr]
    have hquit := @heard_abort Bytes ⟨{ s.link with inflow }, true⟩ rfl (hkept inflow)
    refine ⟨⟨(hquit .deadline).written, (hquit .deadline).writable, fun a h => by cases h⟩, ?_⟩
    intro front rest hreceived hlength
    rw [hreceived, List.length_append] at hlt
    omega

theorem listens_readExact (n : Nat) : Listens (readExact n) :=
  fun _ hs hw => (readExact_heard hs hw n).1

theorem listens_readBlock (k : SyncBlock α) : Listens (readBlock k) := by
  refine (listens_readExact k.head).bind fun head => ?_
  by_cases hmax : k.announced head > maxChunk
  · rw [if_pos hmax]
    exact listens_abandon _
  · rw [if_neg hmax]
    exact (listens_readExact _).bind fun body => listens_return _

/-- **The receipt of a file is read without a word to the device.** -/
theorem listens_receiptAnswer : Listens receiptAnswer := by
  refine (listens_readExact 4).bind fun id => ?_
  split
  · exact ((listens_readExact 4).bind fun bytes => listens_return _).bind
      fun word => listens_return _
  · rw [refusal_eq]
    exact listens_readBlock _
  · exact listens_abandon _

/-- A receipt that can be got is taken. -/
theorem receiptAnswer_okay {s : SyncSession} (hs : s.isOpen = true) (hw : s.link.Writable)
    {words rest : Bytes} (hl : words.length = 4)
    (hr : s.link.received = SyncCommand.okay.id ++ words ++ rest) :
    ∃ s', receiptAnswer s = (.ok (), s') := by
  obtain ⟨hheard, hread⟩ := readExact_heard hs hw 4
  rw [List.append_assoc] at hr
  obtain ⟨s₁, hid, hr₁⟩ := hread _ _ hr (SyncCommand.length_id _)
  rw [hid] at hheard
  have hopen := hheard.goesOn _ rfl
  obtain ⟨s₂, hword, -⟩ :=
    (readExact_heard hopen (hheard.writable hopen) 4).2 _ _ hr₁ hl
  refine ⟨s₂, ?_⟩
  rw [receiptAnswer, Run.bind_apply, hid]
  simp only [SyncCommand.ofId?_id, readWord, bind_assoc, pure_bind]
  rw [Run.bind_apply, hword]
  rfl

end SyncSession

namespace Transfer

open SyncSession (Sent)

/-! ## Sending a file -/

/-- A block of a file is sent, and nobody has cancelled. -/
theorem sendPiece_sent (reporting : Reporting) (moved : Nat) (bytes : Bytes) {t : Transfer}
    (ht : t.session.isOpen = true) (hw : t.session.link.Writable) :
    ∃ t', (do onSession (SyncSession.writeAll bytes)
              checkpoint (fun _ => false) reporting moved : TransferRun Unit) t = (.ok (), t') ∧
      Sent t.session t'.session bytes := by
  obtain ⟨s', hwrite, hsent⟩ := SyncSession.writeAll_sent ht hw bytes
  rw [Run.bind_apply, onSession, hwrite]
  exact ⟨_, rfl, hsent⟩

/-- **The bytes of a source are sent in blocks, to the last one**, whatever the reads of the source
give and the writes take. -/
theorem pushData_sent (reporting : Reporting) (moved : Nat) {source : Inflow}
    (hsource : source.Steady) {t : Transfer} (ht : t.session.isOpen = true)
    (hw : t.session.link.Writable) :
    ∃ pieces source' t', pushData (fun _ => false) reporting moved source t =
        (.ok (moved + source.bytes.length), source', t') ∧
      (∀ piece ∈ pieces, piece ≠ [] ∧ piece.length ≤ maxChunk) ∧ pieces.flatten = source.bytes ∧
      Sent t.session t'.session (dataBlocks pieces) := by
  generalize hc : (fun _ => false : Cancelled) = cancelled
  fun_induction pushData cancelled reporting moved source t with
  | case1 moved source t e source' h =>
    obtain ⟨out, source'', hread, -⟩ := Inflow.readOn_steady hsource maxChunk
    rw [h] at hread
    cases hread
  | case2 moved source t source' h =>
    have hb := (Inflow.readOn_ok h).2 (by decide) rfl
    refine ⟨[], source', t, by rw [hb]; rfl, ?_, hb.symm, .refl ht hw⟩
    exact fun piece hp => absurd hp List.not_mem_nil
  | case3 moved source t b bytes source' h _ moved' block e t' hb =>
    subst hc
    obtain ⟨t₁, hk, -⟩ :=
      sendPiece_sent reporting moved' (SyncCommand.data.block (b :: bytes)) ht hw
    rw [show block t = (.ok (), t₁) from hk] at hb
    cases hb
  | case4 moved source t b bytes source' h _ moved' block t' hb ih =>
    subst hc
    obtain ⟨t₁, hk, hsent⟩ :=
      sendPiece_sent reporting moved' (SyncCommand.data.block (b :: bytes)) ht hw
    rw [show block t = (.ok (), t₁) from hk] at hb
    cases hb
    have hbytes := Inflow.bytes_readOn h
    have hmax := (Inflow.readOn_ok h).1
    obtain ⟨out, source'', hread, hsource', -⟩ := Inflow.readOn_steady hsource maxChunk
    rw [h] at hread
    cases hread
    obtain ⟨pieces, rest, t'', hr, hp, hf, hsent'⟩ :=
      ih hsource' hsent.isOpen hsent.writable
    refine ⟨(b :: bytes) :: pieces, rest, t'', ?_, ?_, ?_, hsent.trans hsent'⟩
    · rw [hr, ← hbytes, List.length_append, List.length_cons, ← Nat.add_assoc]
    · exact List.forall_mem_cons.mpr ⟨⟨List.cons_ne_nil _ _, hmax⟩, hp⟩
    · rw [List.flatten_cons, hf, hbytes]

/-- The end of a file is sent, and then only the device speaks. -/
theorem pushEnd_heard (mtime : UInt32) {s : SyncSession} (hs : s.isOpen = true)
    (hw : s.link.Writable) {out : Except Failure Unit × SyncSession} (h : pushEnd mtime s = out) :
    out.2.written = s.written ++ SyncCommand.done.word mtime ++ out.2.farewell ∧
      ∀ words rest : Bytes, words.length = 4 →
        s.link.received = SyncCommand.okay.id ++ words ++ rest →
        out.1 = .ok () ∧ out.2.isOpen = true := by
  obtain ⟨s', hwrite, hsent⟩ := SyncSession.writeAll_sent hs hw (SyncCommand.done.word mtime)
  have hout : pushEnd mtime s = SyncSession.receiptAnswer s' := by
    show (SyncSession.writeAll _ >>= fun _ => SyncSession.receiptAnswer) s = _
    rw [Run.bind_apply, hwrite]
  have hheard := SyncSession.listens_receiptAnswer s' hsent.isOpen hsent.writable
  rw [← hout, h] at hheard
  refine ⟨by rw [hheard.written, hsent.written], fun words rest hl hr => ?_⟩
  obtain ⟨s'', hok⟩ :=
    SyncSession.receiptAnswer_okay hsent.isOpen hsent.writable hl (hsent.received.trans hr)
  rw [← hout, h] at hok
  subst hok
  exact ⟨rfl, hheard.goesOn () rfl⟩

/-- All of a push is sent, and a receipt makes it a success. -/
theorem push_sent (reporting : Reporting) {source : Inflow} (hsource : source.Steady)
    {path : String} (hp : Utf8.size path ≤ maxPath) (mode mtime : UInt32) {t : Transfer}
    (ht : t.session.isOpen = true) (hw : t.session.link.Writable)
    {out : Except Failure Nat × Inflow × Transfer}
    (h : push (fun _ => false) reporting source path mode mtime t = out) :
    ∃ pieces, (∀ piece ∈ pieces, piece ≠ [] ∧ piece.length ≤ maxChunk) ∧
      pieces.flatten = source.bytes ∧
      out.2.2.session.written =
        t.session.written ++ pushRequest path mode mtime pieces ++ out.2.2.session.farewell ∧
      ∀ words rest : Bytes, words.length = 4 →
        t.session.link.received = SyncCommand.okay.id ++ words ++ rest →
        out.1 = .ok source.bytes.length ∧ out.2.2.session.isOpen = true := by
  rw [push] at h
  simp only [begin_bind] at h
  rw [if_neg (Nat.not_lt.mpr hp), if_neg Bool.false_ne_true, Run.bind_apply, needOpen, session_ask,
    ht] at h
  simp only [if_true, onSession, session_ask] at h
  obtain ⟨s₁, hwrite, hsent⟩ := SyncSession.writeAll_sent ht hw
    (SyncCommand.send.block (Utf8.ofString (sendHeader path mode)))
  rw [SyncSession.request, hwrite] at h
  obtain ⟨pieces, source', t₂, hr, hpieces, hf, hsent₂⟩ :=
    pushData_sent reporting 0 hsource
      (t := { (t.ask fun _ => false).2 with session := s₁ }) hsent.isOpen hsent.writable
  simp only [hr, Nat.zero_add] at h
  obtain ⟨hwritten, hokay⟩ := pushEnd_heard mtime hsent₂.isOpen hsent₂.writable rfl
  have hall := hsent.trans hsent₂
  refine ⟨pieces, hpieces, hf, ?_⟩
  cases hend : pushEnd mtime t₂.session with
  | mk result s₃ =>
    rw [hend] at h hwritten hokay
    have hbytes : s₃.written =
        t.session.written ++ pushRequest path mode mtime pieces ++ s₃.farewell := by
      rw [hwritten, hall.written, pushRequest]
      simp only [List.append_assoc]
    cases result with
    | ok u =>
      subst h
      refine ⟨hbytes, fun words rest hl hreply => ⟨rfl, ?_⟩⟩
      exact (hokay words rest hl (hall.received.trans hreply)).2
    | error e =>
      subst h
      refine ⟨hbytes, fun words rest hl hreply => ?_⟩
      cases (hokay words rest hl (hall.received.trans hreply)).1

/-! ## Reading it back -/

/-- The payload of `SEND` gives a path and permissions: they stand around its last comma, whatever
commas the path has. -/
structure Payload (payload path : String) (permissions : UInt32) : Prop where
  text : payload = path ++ "," ++ toString permissions.toNat
  bytes : Utf8.ofString payload =
    Utf8.ofString path ++ 0x2C :: Utf8.ofString (toString permissions.toNat)
  last : 0x2C ∉ Utf8.ofString (toString permissions.toNat)
  split : ∃ digits, Text.splitLast? ',' payload.toList = some (path.toList, digits) ∧
    Text.word32? digits = some permissions

/-- **A device finds the path and the permissions in what a push sends first.** -/
theorem payload_sendHeader (path : String) (mode : UInt32) :
    Payload (sendHeader path mode) path (mode &&& 0o777) where
  text := rfl
  bytes := by
    rw [sendHeader, Utf8.ofString_append, Utf8.ofString_append, List.append_assoc]
    rfl
  last := Utf8.comma_notMem _
  split := by
    let digits := toString (mode &&& 0o777).toNat
    exact ⟨digits.toList, Text.splitLast?_eq_some_iff.mpr
      ⟨Text.toList_joined "," ',' rfl path digits, Text.notMem_toString (by decide)⟩,
      Text.word32?_toString _⟩

/-- A pull that gets `answer` succeeds and brings `content` to a sink that takes it, in whatever
pieces the answer arrives and whatever comes behind it. -/
def PullsAs (answer content : Bytes) : Prop :=
  ∀ (reporting : Reporting) (t : Transfer) (path : String) (sink : Sink) (rest : Bytes)
    (out : Except Failure Nat × Sink × Transfer),
    t.session.isOpen = true → t.session.link.Calm → Utf8.size path ≤ maxPath →
    sink.limit = none → sink.flushFailure = none → t.session.unread = answer ++ rest →
    pull (fun _ => false) reporting path sink t = out →
    out.1 = .ok content.length ∧ out.2.1.stored.toList = sink.stored.toList ++ content

/-- What stands behind `SEND` in a push is a whole answer to a pull. -/
theorem pullsAs_dataBlocks {pieces : List Bytes}
    (hp : ∀ piece ∈ pieces, piece ≠ [] ∧ piece.length ≤ maxChunk) (mtime : UInt32) :
    PullsAs (dataBlocks pieces ++ SyncCommand.done.word mtime) pieces.flatten := by
  intro reporting t path sink rest out ht hcalm hpath hlimit hflush hunread h
  have hreply : SyncAnswer.content.sending.Reply (·.flatten.length) pieces
      (.ok pieces.flatten.length) (dataBlocks pieces ++ SyncCommand.done.word mtime) := by
    have hmax : ∀ piece ∈ pieces, piece.length ≤ maxChunk := fun piece hpiece => (hp piece hpiece).2
    refine SyncAnswer.content.sending.reply_ok.mpr ⟨hmax, rfl, Bytes.ofWord mtime, rfl, ?_⟩
    rw [SyncCommand.word, ← List.append_assoc]
    rfl
  have haccepts := SyncSession.accepts_pull reporting ht hcalm hpath hlimit hflush h
  obtain ⟨hok, -, -, hstored⟩ := haccepts.whole _ _ _ rest hreply hunread
  exact ⟨hok, hstored⟩

/--
**What a push sends, a pull reads back.**

A push of a source whose reads fail with nothing but interruptions, over a connection that takes
all writes, writes the block `SEND`, the bytes of the source in blocks `DATA` of 1 to `maxChunk`
bytes, and one block `DONE`; behind these comes at most the farewell of a session that could not
read the receipt. A receipt makes it a success with the number of bytes of the source. A device
finds the path and the permissions in the payload of `SEND`. And the bytes behind that block are an
answer that brings the bytes of the source to any pull.
-/
theorem push_roundTrip (reporting : Reporting) {source : Inflow} (hsource : source.Steady)
    {path : String} (hp : Utf8.size path ≤ maxPath) (mode mtime : UInt32) {t : Transfer}
    (ht : t.session.isOpen = true) (hw : t.session.link.Writable)
    {out : Except Failure Nat × Inflow × Transfer}
    (h : push (fun _ => false) reporting source path mode mtime t = out) :
    ∃ (payload : String) (pieces : List Bytes),
      out.2.2.session.written =
        t.session.written ++ SyncCommand.send.block (Utf8.ofString payload) ++
          (dataBlocks pieces ++ SyncCommand.done.word mtime) ++ out.2.2.session.farewell ∧
      Payload payload path (mode &&& 0o777) ∧
      (∀ piece ∈ pieces, 0 < piece.length ∧ piece.length ≤ maxChunk) ∧
      pieces.flatten = source.bytes ∧
      (∀ words rest : Bytes, words.length = 4 →
        t.session.link.received = SyncCommand.okay.id ++ words ++ rest →
        out.1 = .ok source.bytes.length ∧ out.2.2.session.isOpen = true) ∧
      PullsAs (dataBlocks pieces ++ SyncCommand.done.word mtime) source.bytes := by
  obtain ⟨pieces, hpieces, hf, hwritten, hokay⟩ :=
    push_sent reporting hsource hp mode mtime ht hw h
  have hpulls := pullsAs_dataBlocks hpieces mtime
  rw [hf] at hpulls
  refine ⟨sendHeader path mode, pieces, ?_, payload_sendHeader path mode, ?_, hf, hokay, hpulls⟩
  · rw [hwritten, pushRequest]
    simp only [List.append_assoc]
  · intro piece hpiece
    obtain ⟨hne, hmax⟩ := hpieces piece hpiece
    exact ⟨List.length_pos_iff.mpr hne, hmax⟩

/-- A path with a comma, a source of two pieces with an interruption between them, and a connection
that takes three bytes at a time: the push succeeds, and what it has sent is pulled as two bytes. -/
theorem push_roundTrip_two_pieces :
    ∃ (t : Transfer) (source : Inflow) (pieces : List Bytes),
      t.session.link.writeMax = some 3 ∧ source.arrivals.length = 3 ∧
      (push (fun _ => false) .alone source "/a,b" 0o100755 7 t).1 = .ok 2 ∧
      pieces.flatten = [104, 105] ∧
      PullsAs (dataBlocks pieces ++ SyncCommand.done.word 7) [104, 105] := by
  let source : Inflow :=
    ⟨[.bytes [104], .failure ⟨.interrupted, ""⟩, .bytes [105]], none⟩
  let link : Link := { inflow := .ofBytes (SyncCommand.okay.word 0), writeMax := some 3 }
  have hsource : source.Steady := by
    refine ⟨rfl, fun e h => ?_⟩
    have he : e = ⟨.interrupted, ""⟩ := by simpa [source] using h
    rw [he]
    rfl
  have hw : link.Writable := ⟨rfl, rfl, by decide, fun turn h => absurd h List.not_mem_nil⟩
  have hpath : Utf8.size "/a,b" ≤ maxPath := by decide
  obtain ⟨payload, pieces, -, -, -, hf, hokay, hpulls⟩ :=
    push_roundTrip (t := { session := { link } }) .alone hsource hpath 0o100755 7 rfl hw rfl
  exact ⟨{ session := { link } }, source, pieces, rfl, rfl,
    (hokay [0, 0, 0, 0] [] rfl rfl).1, hf, hpulls⟩

end Transfer

end DebugBridge
