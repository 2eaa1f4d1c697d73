import DebugBridge.Proofs.Sync.Transfer

/-!
# Files that a device refuses

A device may refuse a file before it has all of it: its refusal can be read, and it takes no more
bytes. A push looks at the answer only when the whole request is written. So the caller gets the
reason of the device exactly if the device takes the request to its last byte; a device that stops
before gets as many bytes as it takes, and the caller the failure of the write.

The bytes that a link takes are its capacity, whatever the pieces are in which it takes them; a push
writes many blocks, but what becomes of them depends on their bytes as one row.

* `Inflow.pieces` — the pieces in which a source is sent; `pieces_steady`, that they make up all of it
* `Wrote`, `CutOff` — the two ends of writing; `writeAll_moves`, `pushData_moves`, that there are no
  others
* `push_reports_refusal` — what becomes of a push that the device refuses
* `push_hides_refusal` — a refusal that the caller does not get
-/

namespace DebugBridge

open SyncSession (maxChunk maxPath)

variable {α : Type}

/-! ## The pieces of a source -/

/-- The pieces in which reads of at most `size` bytes give a stream, up to its end or its first
failure. -/
def Inflow.pieces (size : Nat) (s : Inflow) : List Bytes :=
  match h : s.readOn size with
  | (.ok (b :: bytes), s') =>
    have : s'.bytes.length < s.bytes.length := by
      have := congrArg List.length (Inflow.bytes_readOn h)
      simp at this
      omega
    (b :: bytes) :: pieces size s'
  | _ => []
termination_by s.bytes.length

namespace Inflow

theorem pieces_cons {size : Nat} {s s' : Inflow} {b : UInt8} {bytes : Bytes}
    (h : s.readOn size = (.ok (b :: bytes), s')) :
    s.pieces size = (b :: bytes) :: s'.pieces size := by
  rw [pieces]
  split
  · next h' =>
    rw [h] at h'
    cases h'
    rfl
  · next h' => exact absurd h (h' b bytes s')

theorem pieces_nil {size : Nat} {s s' : Inflow} (h : s.readOn size = (.ok [], s')) :
    s.pieces size = [] := by
  rw [pieces]
  split
  · next h' =>
    rw [h] at h'
    cases h'
  · rfl

/-- What comes in one piece that is not too long is sent in one piece. -/
theorem pieces_ofBytes {size : Nat} {b : UInt8} {bytes : Bytes} (h : bytes.length < size) :
    (ofBytes (b :: bytes)).pieces size = [b :: bytes] := by
  obtain ⟨n, rfl⟩ := Nat.exists_eq_add_one.mpr (Nat.zero_lt_of_lt h)
  have hread : (ofBytes (b :: bytes)).readOn (n + 1) = (.ok (b :: bytes), { arrivals := [] }) := by
    simp only [ofBytes, readOn, dropInterruptions, readSome,
      List.drop_of_length_le (Nat.le_of_lt_succ h)]
  rw [pieces_cons hread, pieces_nil rfl]

/-- **The pieces of a steady source** are none of them empty, and they are all of its bytes. -/
theorem pieces_steady {size : Nat} (hsize : 0 < size) {s : Inflow} (hs : s.Steady) :
    (∀ piece ∈ s.pieces size, piece ≠ [] ∧ piece.length ≤ size) ∧
      (s.pieces size).flatten = s.bytes := by
  fun_induction pieces size s with
  | case1 s b bytes s' h _ ih =>
    obtain ⟨out, s'', hread, hs', -⟩ := readOn_steady hs size
    rw [h] at hread
    cases hread
    obtain ⟨hp, hf⟩ := ih hs'
    refine ⟨List.forall_mem_cons.mpr ⟨⟨List.cons_ne_nil _ _, (readOn_ok h).1⟩, hp⟩, ?_⟩
    rw [List.flatten_cons, hf, bytes_readOn h]
  | case2 s hnone =>
    obtain ⟨out, s', hread, -, -, hend⟩ := readOn_steady hs size
    cases out with
    | nil => exact ⟨nofun, (hend hsize rfl).symm⟩
    | cons b bytes => exact absurd hread (hnone b bytes s')

end Inflow

/-! ## Writing up to the capacity -/

namespace Link

/-- The link takes all of the bytes. -/
def HasRoom (link : Link) (bytes : Bytes) : Prop :=
  ∀ limit e, link.capacity = some (limit, e) → bytes.length ≤ limit

theorem hasRoom_append {link link' : Link} {front behind : Bytes}
    (h : link'.capacity = link.capacity.map fun room => (room.1 - front.length, room.2))
    (hfront : link.HasRoom front) : link.HasRoom (front ++ behind) ↔ link'.HasRoom behind := by
  unfold HasRoom at hfront ⊢
  rw [h]
  cases hc : link.capacity with
  | none => simp
  | some room =>
    have hle := hfront room.1 room.2 hc
    simp only [Option.some.injEq, Option.map_some, List.length_append]
    constructor
    · rintro hall limit e ⟨⟩
      have := hall room.1 room.2 rfl
      omega
    · rintro hall limit e rfl
      have := hall (limit - front.length) e rfl
      omega

/-- What was written is taken off the capacity. -/
theorem Moves.capacity_writeAll {link : Link} (h : link.Moves) (bytes : Bytes) :
    (link.writeAll bytes).2.capacity =
      link.capacity.map fun room => (room.1 - (fitting bytes link.capacity).length, room.2) := by
  obtain ⟨-, hwritten, -⟩ := h.writeAll bytes
  obtain ⟨written, turns, hframe⟩ := link.writeAll_frame bytes
  rw [hframe] at hwritten ⊢
  have hsize : written.size = link.written.size + (fitting bytes link.capacity).length := by
    rw [← Array.length_toList, hwritten, List.length_append, Array.length_toList]
  -- only the number of bytes that were taken matters from here on, not why so many were
  generalize (fitting bytes link.capacity).length = taken at hsize
  unfold capacity
  simp only [hsize]
  split
  · rw [Option.map_some, Nat.zero_sub]
  · cases link.writeLimit with
    | none => rfl
    | some limit => simp only [Option.map_some, Nat.sub_sub]

end Link

namespace SyncSession

/-- The session `s` has come to `s'` by writing `bytes`, all of which were taken. -/
structure Wrote (s s' : SyncSession) (bytes : Bytes) : Prop where
  room : s.link.HasRoom bytes
  isOpen : s'.isOpen = true
  written : s'.written = s.written ++ bytes
  moves : s'.link.Moves
  capacity : s'.link.capacity = s.link.capacity.map fun room => (room.1 - bytes.length, room.2)
  received : s'.link.received = s.link.received

/-- Of `bytes` the link took as many as it could, and then the session was closed. -/
structure CutOff (s : SyncSession) (bytes : Bytes) (out : Except Failure α × SyncSession) :
    Prop where
  failed : ∃ limit e, s.link.capacity = some (limit, e) ∧ limit < bytes.length ∧
    out.1 = .error (.ofConnection e) ∧ out.2.written = s.written ++ bytes.take limit
  closed : out.2.isOpen = false

theorem CutOff.not_room {s : SyncSession} {bytes : Bytes} {out : Except Failure α × SyncSession}
    (h : CutOff s bytes out) : ¬ s.link.HasRoom bytes := by
  obtain ⟨limit, e, hc, hlt, -⟩ := h.failed
  exact fun hroom => Nat.not_lt.mpr (hroom limit e hc) hlt

theorem CutOff.exits {β : Type} {s s' : SyncSession} {bytes : Bytes} {e : Failure}
    (h : CutOff s bytes ((.error e : Except Failure α), s')) :
    CutOff s bytes ((.error e : Except Failure β), s') := by
  obtain ⟨⟨limit, e', hc, hlt, he, hw⟩, hclosed⟩ := h
  cases he
  exact ⟨⟨limit, e', hc, hlt, rfl, hw⟩, hclosed⟩

/-- What would have come behind the bytes does not matter. -/
theorem CutOff.before {s : SyncSession} {bytes : Bytes} {out : Except Failure α × SyncSession}
    (h : CutOff s bytes out) (behind : Bytes) : CutOff s (bytes ++ behind) out := by
  obtain ⟨⟨limit, e, hc, hlt, he, hw⟩, hclosed⟩ := h
  refine ⟨⟨limit, e, hc, ?_, he, ?_⟩, hclosed⟩
  · rw [List.length_append]
    omega
  · rw [hw, List.take_append_of_le_length (Nat.le_of_lt hlt)]

theorem Wrote.refl {s : SyncSession} (hs : s.isOpen = true) (hm : s.link.Moves) : Wrote s s [] where
  room _ _ _ := Nat.zero_le _
  isOpen := hs
  written := (List.append_nil _).symm
  moves := hm
  capacity := by simp
  received := rfl

theorem Wrote.trans {s s' s'' : SyncSession} {front behind : Bytes} (h : Wrote s s' front)
    (h' : Wrote s' s'' behind) : Wrote s s'' (front ++ behind) where
  room := (Link.hasRoom_append h.capacity h.room).mpr h'.room
  isOpen := h'.isOpen
  written := by rw [h'.written, h.written, List.append_assoc]
  moves := h'.moves
  capacity := by
    rw [h'.capacity, h.capacity, Option.map_map]
    congr 1
    funext room
    simp only [Function.comp_apply, List.length_append, Nat.sub_sub]
  received := h'.received.trans h.received

theorem Wrote.cutOff {s s' : SyncSession} {front behind : Bytes} (h : Wrote s s' front)
    {out : Except Failure α × SyncSession} (h' : CutOff s' behind out) :
    CutOff s (front ++ behind) out := by
  obtain ⟨⟨limit, e, hc, hlt, he, hw⟩, hclosed⟩ := h'
  rw [h.capacity] at hc
  -- the limit behind the front is what the front has left of this one
  obtain ⟨⟨total, e'⟩, hroom, heq⟩ := Option.map_eq_some_iff.mp hc
  cases heq
  have hfront := h.room total e' hroom
  refine ⟨⟨total, e', hroom, ?_, he, ?_⟩, hclosed⟩
  · rw [List.length_append]
    simp only at hlt
    omega
  · rw [hw, h.written, List.append_assoc, List.take_append, List.take_of_length_le hfront]

/-- **A session writes all of its bytes, or as many as the link takes**, and then it is closed. -/
theorem writeAll_moves {s : SyncSession} (hs : s.isOpen = true) (hm : s.link.Moves)
    (bytes : Bytes) :
    (∃ s', writeAll bytes s = (.ok (), s') ∧ Wrote s s' bytes) ∨
      ∃ e s', writeAll bytes s = (.error e, s') ∧
        CutOff s bytes ((.error e : Except Failure Unit), s') := by
  obtain ⟨hverdict, hwritten, hmoves⟩ := hm.writeAll bytes
  have hcapacity := hm.capacity_writeAll bytes
  have hreceived := Link.received_writeAll bytes s.link
  rw [writeAll, step_open hs, Exchange.writeAll, Exchange.call]
  cases hr : s.link.writeAll bytes with
  | mk result link =>
    rw [hr] at hverdict hwritten hmoves hcapacity hreceived
    simp only at hverdict hwritten hmoves hcapacity hreceived
    cases hc : s.link.capacity with
    | none =>
      rw [hc] at hverdict hwritten hcapacity
      subst hverdict
      refine .inl ⟨_, rfl, ⟨fun limit e h => ?_, rfl, hwritten, hmoves, ?_, hreceived⟩⟩
      · rw [hc] at h
        cases h
      · rw [hc]
        exact hcapacity
    | some room =>
      obtain ⟨limit, e⟩ := room
      rw [hc, Link.verdict] at hverdict
      rw [hc, Link.fitting] at hwritten hcapacity
      by_cases hle : bytes.length ≤ limit
      · rw [if_pos hle] at hverdict
        subst hverdict
        rw [List.take_of_length_le hle] at hwritten hcapacity
        refine .inl ⟨_, rfl, ⟨fun limit' e' h => ?_, rfl, hwritten, hmoves, ?_, hreceived⟩⟩
        · rw [hc] at h
          cases h
          exact hle
        · rw [hc]
          exact hcapacity
      · rw [if_neg hle] at hverdict
        subst hverdict
        refine .inr ⟨_, _, rfl, ⟨limit, e, hc, Nat.lt_of_not_le hle, rfl, ?_⟩, isOpen_abort _⟩
        -- nothing of the farewell is taken any more
        obtain ⟨-, hquit, -⟩ := hmoves.writeAll (SyncCommand.quit.word 0)
        rw [hcapacity, List.length_take, Option.map_some, Link.fitting,
          Nat.min_eq_left (Nat.le_of_not_le hle), Nat.sub_self, List.take_zero,
          List.append_nil] at hquit
        exact hquit.trans hwritten

/-! ## Reading the refusal -/

/-- Bytes that can be got are read. -/
theorem readExact_got {s : SyncSession} (hs : s.isOpen = true) {front rest : Bytes}
    (h : s.link.received = front ++ rest) :
    ∃ s', readExact front.length s = (.ok front, s') ∧ s'.isOpen = true ∧
      s'.written = s.written ∧ s'.link.received = rest := by
  rw [readExact, step_open hs, Exchange.readExact, Exchange.fill]
  rcases Link.readExact_received front.length s.link with ⟨-, inflow, hr, hleft⟩ | ⟨hlt, -⟩
  · rw [h, List.drop_left] at hleft
    rw [hr, h, List.take_left]
    exact ⟨_, rfl, rfl, rfl, hleft⟩
  · rw [h, List.length_append] at hlt
    omega

/-- **A refusal that can be got is what reading the receipt comes to**, and the session goes on. -/
theorem receiptAnswer_refused {s : SyncSession} (hs : s.isOpen = true) {text rest : Bytes}
    (htext : text.length ≤ maxChunk)
    (h : s.link.received = SyncCommand.fail.block text ++ rest) :
    ∃ s', receiptAnswer s = (.error (.malformed (Utf8.lenientString text)), s') ∧
      s'.isOpen = true ∧ s'.written = s.written ∧ s'.link.received = rest := by
  rw [SyncBlock.block_append] at h
  obtain ⟨s₁, hid, ho₁, hw₁, h₁⟩ := readExact_got hs h
  obtain ⟨s₂, hword, ho₂, hw₂, h₂⟩ := readExact_got ho₁ h₁
  obtain ⟨s₃, hread, ho₃, hw₃, h₃⟩ := readExact_got ho₂ h₂
  let k : SyncBlock Unit := .refusal
  have hsize : k.announced (Bytes.ofWord (UInt32.ofNat text.length)) = text.length :=
    SyncBlock.toNat_length htext
  have hmax : ¬ k.announced (Bytes.ofWord (UInt32.ofNat text.length)) > maxChunk :=
    Nat.not_lt.mpr (Nat.le_trans (Nat.le_of_eq hsize) htext)
  rw [SyncCommand.length_id] at hid
  rw [Bytes.length_ofWord] at hword
  have hbody : readBlock k s₁ = (.error (.malformed (Utf8.lenientString text)), s₃) := by
    rw [readBlock, Run.bind_apply, show k.head = 4 from rfl, hword]
    simp only
    rw [if_neg hmax, hsize, Run.bind_apply, hread]
    rfl
  refine ⟨s₃, ?_, ho₃, by rw [hw₃, hw₂, hw₁], h₃⟩
  rw [receiptAnswer, Run.bind_apply, hid]
  simp only [SyncCommand.ofId?_id, refusal_eq]
  exact hbody

end SyncSession

namespace Transfer

open SyncSession (Wrote CutOff)

/-- A block of a file is sent, or the device stops in it. -/
theorem sendPiece_moves (reporting : Reporting) (moved : Nat) (bytes : Bytes) {t : Transfer}
    (ht : t.session.isOpen = true) (hm : t.session.link.Moves) :
    (∃ t', (do onSession (SyncSession.writeAll bytes)
               checkpoint (fun _ => false) reporting moved : TransferRun Unit) t = (.ok (), t') ∧
      Wrote t.session t'.session bytes) ∨
    ∃ e t', (do onSession (SyncSession.writeAll bytes)
                checkpoint (fun _ => false) reporting moved : TransferRun Unit) t = (.error e, t') ∧
      CutOff t.session bytes ((.error e : Except Failure Unit), t'.session) := by
  rw [Run.bind_apply, onSession]
  rcases SyncSession.writeAll_moves ht hm bytes with ⟨s', hw, hwrote⟩ | ⟨e, s', hw, hcut⟩
  · rw [hw]
    exact .inl ⟨_, rfl, hwrote⟩
  · rw [hw]
    exact .inr ⟨e, _, rfl, hcut⟩

/-- **The bytes of a source are sent in its pieces**, up to the byte at which the device stops. -/
theorem pushData_moves (reporting : Reporting) (moved : Nat) {source : Inflow}
    (hsource : source.Steady) {t : Transfer} (ht : t.session.isOpen = true)
    (hm : t.session.link.Moves) :
    (∃ source' t', pushData (fun _ => false) reporting moved source t =
        (.ok (moved + source.bytes.length), source', t') ∧
      Wrote t.session t'.session (dataBlocks (source.pieces maxChunk))) ∨
    ∃ e source' t', pushData (fun _ => false) reporting moved source t = (.error e, source', t') ∧
      CutOff t.session (dataBlocks (source.pieces maxChunk))
        ((.error e : Except Failure Unit), t'.session) := by
  generalize hc : (fun _ => false : Cancelled) = cancelled
  -- one case for each way on of the loop; the pieces are opened along with the reads
  fun_induction pushData cancelled reporting moved source t with
  | case1 moved source t e source' h =>
    -- a steady source never fails
    obtain ⟨out, source'', hread, -⟩ := Inflow.readOn_steady hsource maxChunk
    rw [h] at hread
    cases hread
  | case2 moved source t source' h =>
    have hb := (Inflow.readOn_ok h).2 (by decide) rfl
    rw [Inflow.pieces_nil h, hb]
    exact .inl ⟨source', t, rfl, .refl ht hm⟩
  | case3 moved source t b bytes source' h _ moved' block e t' hb =>
    subst hc
    rw [Inflow.pieces_cons h, dataBlocks, List.flatMap_cons]
    rcases sendPiece_moves reporting moved' (SyncCommand.data.block (b :: bytes)) ht hm with
      ⟨t₁, hk, -⟩ | ⟨e₁, t₁, hk, hcut⟩
    · rw [show block t = (.ok (), t₁) from hk] at hb
      cases hb
    · rw [show block t = (.error e₁, t₁) from hk] at hb
      cases hb
      exact .inr ⟨e, source', t', rfl, hcut.before _⟩
  | case4 moved source t b bytes source' h _ moved' block t' hb ih =>
    subst hc
    rw [Inflow.pieces_cons h, dataBlocks, List.flatMap_cons]
    rcases sendPiece_moves reporting moved' (SyncCommand.data.block (b :: bytes)) ht hm with
      ⟨t₁, hk, hwrote⟩ | ⟨e₁, t₁, hk, -⟩
    · rw [show block t = (.ok (), t₁) from hk] at hb
      cases hb
      obtain ⟨out, source'', hread, hsource', -⟩ := Inflow.readOn_steady hsource maxChunk
      rw [h] at hread
      cases hread
      rcases ih hsource' hwrote.isOpen hwrote.moves with
        ⟨rest, t'', hr, hwrote'⟩ | ⟨e, rest, t'', hr, hcut⟩
      · refine .inl ⟨rest, t'', ?_, hwrote.trans hwrote'⟩
        rw [hr, ← Inflow.bytes_readOn h, List.length_append, List.length_cons, ← Nat.add_assoc]
      · exact .inr ⟨e, rest, t'', hr, hwrote.cutOff hcut⟩
    · rw [show block t = (.error e₁, t₁) from hk] at hb
      cases hb

/-- **A push writes its whole request and then reads the receipt**, or the device stops in the
request. -/
theorem push_moves (reporting : Reporting) {source : Inflow} (hsource : source.Steady)
    {path : String} (hp : Utf8.size path ≤ maxPath) (mode mtime : UInt32) {t : Transfer}
    (ht : t.session.isOpen = true) (hm : t.session.link.Moves)
    {out : Except Failure Nat × Inflow × Transfer}
    (h : push (fun _ => false) reporting source path mode mtime t = out) :
    (∃ s, Wrote t.session s (pushRequest path mode mtime (source.pieces maxChunk)) ∧
      (out.1, out.2.2.session) =
        ((SyncSession.receiptAnswer s).1.map fun _ => source.bytes.length,
          (SyncSession.receiptAnswer s).2)) ∨
    CutOff t.session (pushRequest path mode mtime (source.pieces maxChunk))
      (out.1, out.2.2.session) := by
  rw [push] at h
  simp only [begin_bind] at h
  rw [if_neg (Nat.not_lt.mpr hp), if_neg Bool.false_ne_true, Run.bind_apply, needOpen, session_ask,
    ht] at h
  simp only [if_true, onSession, session_ask, SyncSession.request] at h
  rw [pushRequest]
  -- the request is written in three parts, and the device may stop in each of them
  rcases SyncSession.writeAll_moves ht hm
    (SyncCommand.send.block (Utf8.ofString (sendHeader path mode))) with
    ⟨s₁, hw, hwrote⟩ | ⟨e, s₁, hw, hcut⟩
  · rw [hw] at h
    simp only at h
    rcases pushData_moves reporting 0 hsource
      (t := { (t.ask fun _ => false).2 with session := s₁ }) hwrote.isOpen hwrote.moves with
      ⟨source', t₂, hr, hwrote₂⟩ | ⟨e, source', t₂, hr, hcut⟩
    · rw [hr, Nat.zero_add] at h
      simp only at h
      have hsent := hwrote.trans hwrote₂
      have hend : pushEnd mtime t₂.session =
          (SyncSession.writeAll (SyncCommand.done.word mtime) >>= fun _ =>
            SyncSession.receiptAnswer) t₂.session := rfl
      rw [Run.bind_apply] at hend
      rcases SyncSession.writeAll_moves hsent.isOpen hsent.moves (SyncCommand.done.word mtime) with
        ⟨s₃, hw₃, hwrote₃⟩ | ⟨e, s₃, hw₃, hcut⟩
      · rw [hw₃] at hend
        simp only at hend
        rw [hend] at h
        refine .inl ⟨s₃, hsent.trans hwrote₃, ?_⟩
        rw [← h]
        cases SyncSession.receiptAnswer s₃ with
        | mk result s₄ => cases result <;> rfl
      · rw [hw₃] at hend
        rw [hend] at h
        subst h
        exact .inr (hsent.cutOff hcut).exits
    · rw [hr] at h
      subst h
      exact .inr ((hwrote.cutOff hcut).before _).exits
  · rw [hw] at h
    subst h
    rw [List.append_assoc]
    exact .inr (hcut.before _).exits

/-- **What becomes of a push that the device refuses.** The caller gets the reason of the device
exactly if the path is short enough and the device takes the request to its last byte; the session
then goes on behind the refusal. A device that stops before has got as many bytes of the request as
it takes, and its reason is lost: the push fails as the write does, and the session is closed. With
a path that is too long nothing is sent or read. -/
theorem push_reports_refusal (reporting : Reporting) {source : Inflow} (hsource : source.Steady)
    (path : String) (mode mtime : UInt32) {text rest : Bytes} (htext : text.length ≤ maxChunk)
    {t : Transfer} (ht : t.session.isOpen = true) (hm : t.session.link.Moves)
    (hreceived : t.session.link.received = SyncCommand.fail.block text ++ rest) :
    let out := push (fun _ => false) reporting source path mode mtime t
    let request := pushRequest path mode mtime (source.pieces maxChunk)
    (out.1 = .error (.malformed (Utf8.lenientString text)) ↔
      Utf8.size path ≤ maxPath ∧ t.session.link.HasRoom request) ∧
    (Utf8.size path ≤ maxPath → t.session.link.HasRoom request →
      out.2.2.session.isOpen = true ∧
      out.2.2.session.written = t.session.written ++ request ∧
      out.2.2.session.link.received = rest) ∧
    (Utf8.size path ≤ maxPath → ∀ limit e, t.session.link.capacity = some (limit, e) →
      limit < request.length →
      out.1 = .error (.ofConnection e) ∧ out.2.2.session.isOpen = false ∧
      out.2.2.session.written = t.session.written ++ request.take limit) ∧
    (maxPath < Utf8.size path →
      out.1 = .error (.remotePathTooLong (Utf8.size path) maxPath) ∧
      out.2.2.session = t.session) := by
  intro out request
  by_cases hp : Utf8.size path ≤ maxPath
  · have hpush : push (fun _ => false) reporting source path mode mtime t = out := rfl
    rcases push_moves reporting hsource hp mode mtime ht hm hpush with
      ⟨s, hwrote, hout⟩ | hcut
    · obtain ⟨s', hr, ho, hw, hleft⟩ := SyncSession.receiptAnswer_refused hwrote.isOpen htext
        (hwrote.received.trans hreceived)
      rw [hr] at hout
      obtain ⟨hresult, hsession⟩ := Prod.mk.injEq .. ▸ hout
      refine ⟨⟨fun _ => ⟨hp, hwrote.room⟩, fun _ => hresult⟩, fun _ _ => ?_,
        fun _ limit e hc hlt => ?_, fun hlong => absurd hp (Nat.not_le.mpr hlong)⟩
      · rw [hsession]
        exact ⟨ho, hw.trans hwrote.written, hleft⟩
      · exact absurd (hwrote.room limit e hc) (Nat.not_le.mpr hlt)
    · obtain ⟨limit, e, hc, hlt, he, hw⟩ := hcut.failed
      refine ⟨⟨fun h => ?_, fun h => absurd h.2 hcut.not_room⟩,
        fun _ hroom => absurd hroom hcut.not_room, fun _ limit' e' hc' _ => ?_,
        fun hlong => absurd hp (Nat.not_le.mpr hlong)⟩
      · -- the failure of a write is never a text of the device
        rw [show out.1 = _ from he, Failure.ofConnection] at h
        split at h <;> cases h
      · rw [hc] at hc'
        cases hc'
        exact ⟨he, hcut.closed, hw⟩
  · have hout : out = (.error (.remotePathTooLong (Utf8.size path) maxPath), source, t) := by
      show push _ reporting source path mode mtime t = _
      rw [push]
      simp only [begin_bind]
      rw [if_pos (Nat.lt_of_not_le hp)]
    rw [hout]
    refine ⟨⟨fun h => ?_, fun h => absurd h.1 hp⟩, fun h => absurd h hp, fun h => absurd h hp,
      fun _ => ⟨rfl, rfl⟩⟩
    cases h

/-- A device that takes at most three bytes at a time, and none behind the 32 of the request, has
its reason heard. -/
theorem push_reports_refusal_at_last_byte :
    ∃ (t : Transfer) (source : Inflow) (text : Bytes), source.Steady ∧ text.length ≤ maxChunk ∧
      t.session.isOpen = true ∧ t.session.link.Moves ∧
      t.session.link.received = SyncCommand.fail.block text ++ [] ∧
      t.session.link.capacity = some (32, ⟨.brokenPipe, ""⟩) ∧
      (push (fun _ => false) .alone source "/f" 420 0 t).1 =
        .error (.malformed (Utf8.lenientString text)) := by
  let link : Link := { inflow := .ofBytes (SyncCommand.fail.block [110, 111]), writeMax := some 3,
                       writeLimit := some (32, ⟨.brokenPipe, ""⟩) }
  have hsource : (Inflow.ofBytes [97, 98]).Steady := (Link.calm_ofBytes [97, 98]).steady
  have hm : link.Moves := ⟨by decide, fun turn h => absurd h List.not_mem_nil⟩
  have htext : [110, 111].length ≤ maxChunk := by decide
  have hreceived : link.received = SyncCommand.fail.block [110, 111] ++ [] := rfl
  let t : Transfer := { session := { link } }
  refine ⟨t, .ofBytes [97, 98], [110, 111], hsource, htext, rfl, hm, hreceived, rfl, ?_⟩
  obtain ⟨hiff, -⟩ := push_reports_refusal .alone hsource "/f" 420 0 htext (t := t) rfl hm hreceived
  refine hiff.mpr ⟨by decide, fun limit e h => ?_⟩
  cases h
  rw [Inflow.pieces_ofBytes (by decide)]
  decide

/-- **The reason of the device can be lost.** It is there to be read before the first byte is
written; the device takes all of the header, and the caller gets the failure of the next write. -/
theorem push_hides_refusal :
    ∃ (t : Transfer) (source : Inflow), source.Steady ∧ t.session.isOpen = true ∧
      t.session.link.Moves ∧ t.session.link.received = SyncCommand.fail.block [110, 111] ∧
      (push (fun _ => false) .alone source "/f" 420 0 t).1 =
        .error (.connection ⟨.brokenPipe, "gone"⟩) := by
  let link : Link := { inflow := .ofBytes (SyncCommand.fail.block [110, 111]),
                       writeLimit := some (14, ⟨.brokenPipe, "gone"⟩) }
  have hsource : (Inflow.ofBytes [97, 98]).Steady := (Link.calm_ofBytes [97, 98]).steady
  have hm : link.Moves := ⟨by decide, fun turn h => absurd h List.not_mem_nil⟩
  let t : Transfer := { session := { link } }
  have hp : Utf8.size "/f" ≤ maxPath := by decide
  refine ⟨t, .ofBytes [97, 98], hsource, rfl, hm, rfl, ?_⟩
  rcases push_moves .alone hsource hp 420 0 (t := t) rfl hm rfl with
    ⟨s, hwrote, -⟩ | hcut
  · have hroom := hwrote.room 14 _ rfl
    rw [Inflow.pieces_ofBytes (by decide)] at hroom
    exact absurd hroom (by decide)
  · obtain ⟨limit, e, hc, -, he, -⟩ := hcut.failed
    cases hc
    exact he

end Transfer

end DebugBridge
