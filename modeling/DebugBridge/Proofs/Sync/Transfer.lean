import DebugBridge.Proofs.Sync.Query

/-!
# Transfers by the grammar

A push writes one request of many blocks and reads one receipt; a pull writes one request and reads
one answer of many blocks. In between the caller may cancel, a source may fail, and a sink may
refuse to store a piece. All of these but the last close the session.

* `push_cases` — the exits of a push
* `Pulled` — the exits of a pull, and `pull_cases`, that it has no others
-/

namespace DebugBridge

open SyncSession (maxChunk maxPath Fits Dropped Onward Follows)

/-! ## Sinks -/

namespace Sink

/-- Stores pieces one after another, up to one that is refused. -/
def storeAll : List Bytes → Sink → Except IoFailure Unit × Sink
  | [], sink => (.ok (), sink)
  | piece :: pieces, sink =>
    match sink.store piece with
    | (.ok (), sink) => storeAll pieces sink
    | (.error e, sink) => (.error e, sink)

theorem storeAll_cons {piece : Bytes} {sink sink' : Sink} (h : sink.store piece = (.ok (), sink'))
    (pieces : List Bytes) : storeAll (piece :: pieces) sink = storeAll pieces sink' := by
  rw [storeAll, h]

theorem storeAll_append {pieces : List Bytes} {sink sink' : Sink}
    (h : sink.storeAll pieces = (.ok (), sink')) (more : List Bytes) :
    storeAll (pieces ++ more) sink = storeAll more sink' := by
  induction pieces generalizing sink with
  | nil =>
    cases h
    rfl
  | cons piece pieces ih =>
    rw [storeAll] at h
    split at h
    · next sink₁ hs =>
      rw [List.cons_append, storeAll_cons hs]
      exact ih h
    · cases h

/-- A sink stores what it is given, or a front of it when it refuses. -/
theorem stored_store {bytes : Bytes} {sink sink' : Sink} {result : Except IoFailure Unit}
    (h : sink.store bytes = (result, sink')) :
    ∃ k, sink'.stored.toList = sink.stored.toList ++ bytes.take k ∧
      (result = .ok () → bytes.take k = bytes) := by
  unfold store at h
  split at h
  · cases h
    exact ⟨bytes.length, by simp, fun _ => List.take_length⟩
  · next limit e hl =>
    cases h
    refine ⟨limit - sink.stored.size, by simp, fun hok => ?_⟩
    split at hok
    · cases hok
    · next hlt =>
      rw [List.length_take] at hlt
      exact List.take_of_length_le (by omega)

/-- Storing pieces stores them in order, or a front of them when one is refused. -/
theorem stored_storeAll {pieces : List Bytes} {sink sink' : Sink}
    {result : Except IoFailure Unit} (h : sink.storeAll pieces = (result, sink')) :
    ∃ k, sink'.stored.toList = sink.stored.toList ++ pieces.flatten.take k ∧
      (result = .ok () → pieces.flatten.take k = pieces.flatten) := by
  induction pieces generalizing sink with
  | nil =>
    cases h
    exact ⟨0, by simp, fun _ => rfl⟩
  | cons piece pieces ih =>
    rw [storeAll] at h
    split at h
    · next sink₁ hs =>
      obtain ⟨k₁, h₁, hall⟩ := stored_store hs
      rw [hall rfl] at h₁
      obtain ⟨k, hk, hrest⟩ := ih h
      refine ⟨piece.length + k, ?_, fun hok => ?_⟩
      · rw [hk, h₁, List.flatten_cons, List.take_length_add_append, List.append_assoc]
      · rw [List.flatten_cons, List.take_length_add_append, hrest hok]
    · next e sink₁ hs =>
      cases h
      obtain ⟨k, hk, -⟩ := stored_store hs
      refine ⟨min k piece.length, ?_, fun hok => by cases hok⟩
      rw [hk, List.flatten_cons, List.take_append_of_le_length (Nat.min_le_right _ _)]
      congr 1
      exact (List.take_eq_take_min).trans rfl

/-- What a pull gives at its end: a failure to make sure of what was stored counts too. -/
def flushed (sink : Sink) : Except Failure Nat → Except Failure Nat
  | .ok n => (sink.flush.mapError .localFile).map fun _ => n
  | .error e => .error e

theorem flushed_of_none {sink : Sink} (h : sink.flushFailure = none)
    (result : Except Failure Nat) : sink.flushed result = result := by
  cases result with
  | ok n =>
    rw [flushed, flush, h]
    rfl
  | error e => rfl

/-- A sink without a limit stores all pieces. -/
theorem storeAll_unlimited {sink : Sink} (h : sink.limit = none) (pieces : List Bytes) :
    ∃ sink', sink.storeAll pieces = (.ok (), sink') ∧ sink'.flushFailure = sink.flushFailure := by
  induction pieces generalizing sink with
  | nil => exact ⟨sink, rfl, rfl⟩
  | cons piece pieces ih =>
    have hs : sink.store piece =
        (.ok (), { sink with stored := sink.stored.appendList piece }) := by
      rw [store, h]
    obtain ⟨sink', hr, hf⟩ :=
      @ih { sink with stored := sink.stored.appendList piece } h
    exact ⟨sink', by rw [storeAll_cons hs, hr], hf⟩

end Sink

namespace Transfer

/-! ## Steps -/

/-- A transfer that begins checks the path, then asks whether it is cancelled. -/
theorem begin_bind {α : Type} (cancelled : Cancelled) (path : String) (f : TransferRun α)
    (t : Transfer) :
    (begin cancelled path >>= fun _ => f) t =
      if Utf8.size path > maxPath then
        (.error (.remotePathTooLong (Utf8.size path) maxPath), t)
      else if cancelled t.moment then (.error .cancelled, (t.ask cancelled).2)
      else f (t.ask cancelled).2 := by
  rw [begin, bind_assoc, SyncSession.checkPath_bind]
  split
  · rfl
  · rw [Run.bind_apply, Run.bind_apply]
    cases h : cancelled t.moment with
    | true => simp only [ask, h]; rfl
    | false => simp only [ask, h]; rfl

theorem session_ask (cancelled : Cancelled) (t : Transfer) :
    (t.ask cancelled).2.session = t.session := rfl

/-- A checkpoint leaves the session alone, or the caller has cancelled and it closes it. -/
theorem checkpoint_cases (cancelled : Cancelled) (reporting : Reporting) (moved : Nat)
    (t : Transfer) :
    (∃ t', checkpoint cancelled reporting moved t = (.ok (), t') ∧ t'.session = t.session) ∨
      ∃ t', checkpoint cancelled reporting moved t = (.error .cancelled, t') ∧
        t'.session.isOpen = false ∧ ∃ moment, cancelled moment = true := by
  unfold checkpoint
  split
  · next h =>
    obtain ⟨ha, rfl⟩ := Prod.mk.inj h
    exact .inr ⟨_, rfl, SyncSession.isOpen_abort _, _, ha⟩
  · next h =>
    obtain ⟨-, rfl⟩ := Prod.mk.inj h
    exact .inl ⟨_, rfl, rfl⟩

/-! ## Push -/

/-- The blocks of a file that is sent. -/
def dataBlocks (pieces : List Bytes) : Bytes := pieces.flatMap SyncCommand.data.block

/-- One block of a push. -/
theorem sendPiece_cases (cancelled : Cancelled) (reporting : Reporting) (moved : Nat)
    (bytes : Bytes) {t : Transfer} (ht : t.session.isOpen = true) :
    (∃ t', (do onSession (SyncSession.writeAll bytes); checkpoint cancelled reporting moved :
        TransferRun Unit) t = (.ok (), t') ∧
      t'.session.unread = t.session.unread ∧ Onward t.session t'.session bytes) ∨
    ∃ e t', (do onSession (SyncSession.writeAll bytes); checkpoint cancelled reporting moved :
        TransferRun Unit) t = (.error e, t') ∧ t'.session.isOpen = false := by
  rw [Run.bind_apply, onSession]
  rcases SyncSession.writeAll_cases ht bytes with ⟨s', hw, hu, ho⟩ | ⟨e, s', hw, hc, -⟩
  · rw [hw]
    rcases checkpoint_cases cancelled reporting moved { t with session := s' } with
      ⟨t', hk, hs⟩ | ⟨t', hk, hc, -⟩
    · refine .inl ⟨t', hk, ?_, ?_⟩
      · rw [hs, hu]
      · rw [hs]
        exact ho
    · exact .inr ⟨_, t', hk, hc⟩
  · rw [hw]
    exact .inr ⟨e, _, rfl, hc⟩

/-- **Sending the bytes of a source ends in good order with all of them sent, or closes the
session.** -/
theorem pushData_cases (cancelled : Cancelled) (reporting : Reporting) (moved : Nat)
    (source : Inflow) {t : Transfer} (ht : t.session.isOpen = true) :
    (∃ pieces source' t', pushData cancelled reporting moved source t =
        (.ok (moved + source.bytes.length), source', t') ∧
      source.Steady ∧ (∀ piece ∈ pieces, piece ≠ [] ∧ piece.length ≤ maxChunk) ∧
      pieces.flatten = source.bytes ∧ t'.session.unread = t.session.unread ∧
      Onward t.session t'.session (dataBlocks pieces)) ∨
    ∃ e source' t', pushData cancelled reporting moved source t = (.error e, source', t') ∧
      t'.session.isOpen = false := by
  fun_induction pushData cancelled reporting moved source t with
  | case1 moved source t e source' h =>
    -- the source failed, and that closes the session
    exact .inr ⟨_, _, _, rfl, SyncSession.isOpen_abort _⟩
  | case2 moved source t source' h =>
    have hb := (Inflow.readOn_ok h).2 (by decide) rfl
    have hsteady := Inflow.steady_of_readOn (by decide) h fun hne => absurd rfl hne
    refine .inl ⟨[], source', t, by rw [hb]; rfl, hsteady, ?_, hb.symm, rfl, .refl ht⟩
    exact fun piece hp => absurd hp List.not_mem_nil
  | case3 moved source t b bytes source' h _ moved' block e t' hb =>
    refine .inr ⟨e, source', t', rfl, ?_⟩
    rcases sendPiece_cases cancelled reporting moved' (SyncCommand.data.block (b :: bytes)) ht with
      ⟨t₁, hk, -⟩ | ⟨e₁, t₁, hk, hc⟩
    · rw [show block t = (.ok (), t₁) from hk] at hb
      cases hb
    · rw [show block t = (.error e₁, t₁) from hk] at hb
      cases hb
      exact hc
  | case4 moved source t b bytes source' h _ moved' block t' hb ih =>
    rcases sendPiece_cases cancelled reporting moved' (SyncCommand.data.block (b :: bytes)) ht with
      ⟨t₁, hk, hu, ho⟩ | ⟨e₁, t₁, hk, hc⟩
    · rw [show block t = (.ok (), t₁) from hk] at hb
      cases hb
      have hbytes := Inflow.bytes_readOn h
      have hmax := (Inflow.readOn_ok h).1
      rcases ih ho.isOpen with ⟨pieces, source'', t'', hr, hsteady, hp, hf, hu', ho'⟩ | hclosed
      · refine .inl ⟨(b :: bytes) :: pieces, source'', t'', ?_, ?_, ?_, ?_, hu'.trans hu,
          ho.trans ho'⟩
        · rw [hr, ← hbytes, List.length_append, List.length_cons, ← Nat.add_assoc]
        · exact Inflow.steady_of_readOn (by decide) h fun _ => hsteady
        · exact List.forall_mem_cons.mpr ⟨⟨List.cons_ne_nil _ _, hmax⟩, hp⟩
        · rw [List.flatten_cons, hf, hbytes]
      · exact .inr hclosed
    · rw [show block t = (.error e₁, t₁) from hk] at hb
      cases hb

/-- The end of a push is read by the grammar. -/
theorem pushEnd_fits (mtime : UInt32) {s : SyncSession} (hs : s.isOpen = true) :
    Fits s (SyncCommand.done.word mtime) (SyncAnswer.receipt.front s.unread) (pushEnd mtime s) ∨
      Dropped s (pushEnd mtime s) := by
  rw [pushEnd]
  rcases SyncSession.writeAll_bind hs (SyncCommand.done.word mtime)
    (fun _ => SyncSession.receiptAnswer) with ⟨s', hr, hu, ho⟩ | hd
  · rw [← hu]
    rcases SyncSession.follows_receiptAnswer ho.isOpen with hf | hd
    · rw [← hr] at hf
      exact .inl (ho.fits_answer hf)
    · rw [← hr] at hd
      exact .inr (ho.dropped hd)
  · exact .inr hd

/-- All that a push writes. -/
def pushRequest (path : String) (mode mtime : UInt32) (pieces : List Bytes) : Bytes :=
  SyncCommand.send.block (Utf8.ofString (sendHeader path mode)) ++ dataBlocks pieces ++
    SyncCommand.done.word mtime

/-- `sent` is the whole request of a push: the source has never failed, and its bytes are sent to
the last one, in pieces that are neither empty nor too long. -/
def WholeRequest (source : Inflow) (path : String) (mode mtime : UInt32) (sent : Bytes) : Prop :=
  source.Steady ∧ ∃ pieces, (∀ piece ∈ pieces, piece ≠ [] ∧ piece.length ≤ maxChunk) ∧
    pieces.flatten = source.bytes ∧ sent = pushRequest path mode mtime pieces

/-- How a push of `source` ends. -/
inductive Pushed (source : Inflow) (path : String) (mode mtime : UInt32) (s : SyncSession) :
    Except Failure Nat × SyncSession → Prop
  /-- It did not begin. -/
  | untouched {e : Failure} :
      (e = .remotePathTooLong (Utf8.size path) maxPath ∨ e = .cancelled) →
      Pushed source path mode mtime s (.error e, s)
  /-- It failed on the way, and the session was closed. -/
  | closed {e : Failure} {s' : SyncSession} : s'.isOpen = false →
      Pushed source path mode mtime s (.error e, s')
  /-- All was sent, and the receipt was read. -/
  | ended {sent : Bytes} {result : Except Failure Nat} {s' : SyncSession} :
      WholeRequest source path mode mtime sent →
      Fits s sent ((SyncAnswer.receipt.front s.unread).map fun _ => source.bytes.length)
        (result, s') →
      Pushed source path mode mtime s (result, s')

/-- **A push has no other ends.** -/
theorem push_cases (cancelled : Cancelled) (reporting : Reporting) (source : Inflow)
    (path : String) (mode mtime : UInt32) {t : Transfer} (ht : t.session.isOpen = true)
    {out : Except Failure Nat × Inflow × Transfer}
    (h : push cancelled reporting source path mode mtime t = out) :
    Pushed source path mode mtime t.session (out.1, out.2.2.session) := by
  rw [push] at h
  simp only [begin_bind] at h
  by_cases hlong : Utf8.size path > maxPath
  · rw [if_pos hlong] at h
    subst h
    exact .untouched (.inl rfl)
  rw [if_neg hlong] at h
  by_cases hstop : cancelled t.moment = true
  · rw [if_pos hstop] at h
    subst h
    exact .untouched (.inr rfl)
  rw [if_neg hstop, Run.bind_apply, needOpen, session_ask, ht] at h
  simp only [if_true, onSession, session_ask] at h
  rcases SyncSession.writeAll_cases ht
    (SyncCommand.send.block (Utf8.ofString (sendHeader path mode))) with
    ⟨s₁, hw, hu, ho⟩ | ⟨e, s₁, hw, hc, -⟩
  · rw [SyncSession.request, hw] at h
    simp only at h
    rcases pushData_cases cancelled reporting 0 source
      (t := { (t.ask cancelled).2 with session := s₁ }) ho.isOpen with
      ⟨pieces, source', t₂, hr, hsteady, hp, hf, hu₂, ho₂⟩ | ⟨e, source', t₂, hr, hc⟩
    · rw [hr, Nat.zero_add] at h
      simp only at h
      -- nothing of the answer is read before the whole request is written
      have hread : t₂.session.unread = t.session.unread := hu₂.trans hu
      have honward := ho.trans ho₂
      have hwhole : WholeRequest source path mode mtime (pushRequest path mode mtime pieces) :=
        ⟨hsteady, pieces, hp, hf, rfl⟩
      cases hend : pushEnd mtime t₂.session with
      | mk result s₃ =>
        have hfits := pushEnd_fits mtime ho₂.isOpen
        rw [hend] at h hfits
        rw [hread] at hfits
        cases result with
        | ok u =>
          subst h
          rcases hfits with hfits | hd
          · exact .ended hwhole (honward.fits (hfits.map _))
          · obtain ⟨e, he⟩ := hd.failed
            cases he
        | error e =>
          subst h
          rcases hfits with hfits | hd
          · exact .ended hwhole (honward.fits (hfits.map _))
          · exact .closed hd.closed
    · rw [hr] at h
      subst h
      exact .closed hc
  · rw [SyncSession.request, hw] at h
    subst h
    exact .closed hc

/-! ## Pull -/

/-- How the reading of a file ends, when `moved` bytes were read before. -/
inductive Pulled (cancelled : Cancelled) (sink : Sink) (s : SyncSession) (request : Bytes)
    (moved : Nat) : Except Failure Nat × Sink × SyncSession → Prop
  /-- The answer was read to its end, and all its pieces are stored. -/
  | ended {pieces : List Bytes} {ending : Ending Unit} {result : Except Failure Nat}
      {sink' : Sink} {s' : SyncSession} :
      SyncAnswer.content.Parts s.unread pieces ending →
      sink.storeAll pieces = (.ok (), sink') →
      Fits s request (ending.map fun _ => moved + pieces.flatten.length) (result, s') →
      Pulled cancelled sink s request moved (sink'.flushed result, sink', s')
  /-- The connection failed or the caller cancelled, and the session was closed. -/
  | closed {pieces : List Bytes} {tail : Bytes} {e : Failure} {sink' : Sink} {s' : SyncSession} :
      (∀ piece ∈ pieces, piece.length ≤ maxChunk) → s.unread = dataBlocks pieces ++ tail →
      sink.storeAll pieces = (.ok (), sink') → s'.isOpen = false →
      (¬ s.link.Calm ∨ ∃ moment, cancelled moment = true) →
      Pulled cancelled sink s request moved (.error e, sink', s')
  /-- The sink refused the last piece. -/
  | refused {pieces : List Bytes} {piece : Bytes} {e : IoFailure} {sink₁ sink' : Sink}
      {s' : SyncSession} :
      (∀ piece' ∈ pieces ++ [piece], piece'.length ≤ maxChunk) →
      s.unread = dataBlocks (pieces ++ [piece]) ++ s'.unread →
      sink.storeAll pieces = (.ok (), sink₁) → sink₁.store piece = (.error e, sink') →
      Onward s s' request →
      Pulled cancelled sink s request moved (.error (.localFile e), sink', s')

theorem Pulled.done {cancelled : Cancelled} {sink : Sink} {s s' : SyncSession} {moved : Nat}
    (hr : SyncAnswer.content.front s.unread = .whole (.ok none) s'.unread) (ho : Onward s s' []) :
    Pulled cancelled sink s [] moved (sink.flushed (.ok moved), sink, s') := by
  have hp : SyncAnswer.content.Parts s.unread [] (.whole (.ok ()) s'.unread) :=
    .last (by rw [hr]; rfl)
  exact .ended hp rfl (.whole ho)

theorem Pulled.closedAtOnce {cancelled : Cancelled} {sink : Sink} {s s' : SyncSession}
    {request : Bytes} {moved : Nat} {e : Failure} (hc : s'.isOpen = false)
    (hwhy : ¬ s.link.Calm ∨ ∃ moment, cancelled moment = true) :
    Pulled cancelled sink s request moved (.error e, sink, s') := by
  have hu : s.unread = dataBlocks [] ++ s.unread := rfl
  exact .closed (fun _ hp => absurd hp List.not_mem_nil) hu rfl hc hwhy

/-- A piece more in front. -/
theorem Pulled.part {cancelled : Cancelled} {sink sink₁ : Sink} {s s₁ : SyncSession}
    {bytes : Bytes} {moved : Nat} {out : Except Failure Nat × Sink × SyncSession}
    (hr : SyncAnswer.content.front s.unread = .whole (.ok (some bytes)) s₁.unread)
    (ho : Onward s s₁ []) (hs : sink.store bytes = (.ok (), sink₁))
    (h : Pulled cancelled sink₁ s₁ [] (moved + bytes.length) out) :
    Pulled cancelled sink s [] moved out := by
  obtain ⟨hmax, hu⟩ := SyncAnswer.content_part.mp hr
  have hblocks : ∀ pieces tail, s₁.unread = dataBlocks pieces ++ tail →
      s.unread = dataBlocks (bytes :: pieces) ++ tail := by
    intro pieces tail ht
    rw [hu, ht, dataBlocks, dataBlocks, List.flatMap_cons, List.append_assoc]
  cases h with
  | @ended pieces ending result sink' s' hp hstore hfits =>
    refine .ended (.part hr hp) (by rw [Sink.storeAll_cons hs, hstore]) ?_
    rw [List.flatten_cons, List.length_append, ← Nat.add_assoc]
    exact ho.fits hfits
  | closed hp ht hstore hc hwhy =>
    refine .closed (List.forall_mem_cons.mpr ⟨hmax, hp⟩) (hblocks _ _ ht)
      (by rw [Sink.storeAll_cons hs, hstore]) hc (hwhy.imp (fun hd hcalm => ?_) id)
    exact hd (ho.calm hcalm)
  | @refused pieces piece e sink₂ sink' s' hp ht hstore hrefuse ho' =>
    have hp' : ∀ piece' ∈ (bytes :: pieces) ++ [piece], piece'.length ≤ maxChunk :=
      List.forall_mem_cons.mpr ⟨hmax, hp⟩
    exact .refused hp' (hblocks _ _ ht) (by rw [Sink.storeAll_cons hs, hstore]) hrefuse
      (ho.trans ho')

/-- A part that was read is the front block of the unread bytes. -/
theorem dataPart_ok {s s' : SyncSession} (hs : s.isOpen = true) {part : Option Bytes}
    (h : dataPart s = (.ok part, s')) :
    SyncAnswer.content.front s.unread = .whole (.ok part) s'.unread ∧ Onward s s' [] := by
  have hf := SyncSession.follows_dataPart hs
  rw [h] at hf
  exact hf.whole

/-- The loop over the blocks of a file. -/
theorem pullData_cases (cancelled : Cancelled) (reporting : Reporting) (moved : Nat) (sink : Sink)
    {t : Transfer} (ht : t.session.isOpen = true)
    {out : Except Failure Nat × Sink × Transfer}
    (h : pullData cancelled reporting moved sink t = out) :
    Pulled cancelled sink t.session [] moved (out.1, out.2.1, out.2.2.session) := by
  fun_induction pullData cancelled reporting moved sink t with
  | case1 moved sink t e session hd =>
    subst h
    have hf := SyncSession.follows_dataPart ht
    rw [hd] at hf
    rcases hf.last with ⟨ending, hp, hfits⟩ | hdrop
    · exact .ended hp rfl (hfits _)
    · exact .closedAtOnce hdrop.closed (.inl hdrop.disturbed)
  | case2 moved sink t session hd e hflush =>
    subst h
    obtain ⟨hr, ho⟩ := dataPart_ok ht hd
    have hout : (.error (.localFile e) : Except Failure Nat) = sink.flushed (.ok moved) := by
      rw [Sink.flushed, hflush]
      rfl
    show Pulled cancelled sink t.session [] moved (.error (.localFile e), sink, session)
    rw [hout]
    exact .done hr ho
  | case3 moved sink t session hd hflush =>
    subst h
    obtain ⟨hr, ho⟩ := dataPart_ok ht hd
    have hout : (.ok moved : Except Failure Nat) = sink.flushed (.ok moved) := by
      rw [Sink.flushed, hflush]
      rfl
    show Pulled cancelled sink t.session [] moved (.ok moved, sink, session)
    rw [hout]
    exact .done hr ho
  | case4 moved sink t bytes session hd e sink' hs =>
    -- the sink refuses: the one exit that keeps the session open behind a part
    subst h
    obtain ⟨hr, ho⟩ := dataPart_ok ht hd
    obtain ⟨hmax, hu⟩ := SyncAnswer.content_part.mp hr
    have hp : ∀ piece ∈ [] ++ [bytes], piece.length ≤ maxChunk :=
      List.forall_mem_singleton.mpr hmax
    have hblock : t.session.unread = dataBlocks ([] ++ [bytes]) ++ session.unread := by
      rw [hu, List.nil_append, dataBlocks, List.flatMap_cons, List.flatMap_nil, List.append_nil]
    exact .refused hp hblock rfl hs ho
  | case5 moved sink t bytes session hd sink' hs moved' e t' hc =>
    subst h
    obtain ⟨hr, ho⟩ := dataPart_ok ht hd
    rcases checkpoint_cases cancelled reporting moved' { t with session } with
      ⟨t₁, hk, -⟩ | ⟨t₁, hk, hclosed, hwhy⟩
    · rw [hk] at hc
      cases hc
    · rw [hk] at hc
      cases hc
      exact .part hr ho hs (.closedAtOnce hclosed (.inr hwhy))
  | case6 moved sink t bytes session hd sink' hs moved' t' hc _ ih =>
    obtain ⟨hr, ho⟩ := dataPart_ok ht hd
    rcases checkpoint_cases cancelled reporting moved' { t with session } with
      ⟨t₁, hk, hsession⟩ | ⟨t₁, hk, -⟩
    · rw [hk] at hc
      cases hc
      have hsession : t'.session = session := hsession
      have := ih (by rw [hsession]; exact ho.isOpen) h
      rw [hsession] at this
      exact .part hr ho hs this
    · rw [hk] at hc
      cases hc

/-- A request in front. -/
theorem Pulled.request {cancelled : Cancelled} {sink : Sink} {s s₁ : SyncSession}
    {bytes : Bytes} {moved : Nat} {out : Except Failure Nat × Sink × SyncSession}
    (ho : Onward s s₁ bytes) (hu : s₁.unread = s.unread)
    (h : Pulled cancelled sink s₁ [] moved out) : Pulled cancelled sink s bytes moved out := by
  rw [← List.append_nil bytes]
  cases h with
  | ended hp hstore hfits =>
    rw [hu] at hp
    exact .ended hp hstore (ho.fits hfits)
  | closed hp ht hstore hc hwhy =>
    rw [hu] at ht
    exact .closed hp ht hstore hc (hwhy.imp (fun hd hcalm => hd (ho.calm hcalm)) id)
  | refused hp ht hstore hrefuse ho' =>
    rw [hu] at ht
    exact .refused hp ht hstore hrefuse (ho.trans ho')

/-- **A pull does not begin, or ends as the reading of a file does.** -/
theorem pull_cases (cancelled : Cancelled) (reporting : Reporting) (path : String) (sink : Sink)
    {t t' : Transfer} (ht : t.session.isOpen = true) {result : Except Failure Nat} {sink' : Sink}
    (h : pull cancelled reporting path sink t = (result, sink', t')) :
    (∃ e, (e = .remotePathTooLong (Utf8.size path) maxPath ∧ maxPath < Utf8.size path ∨
        e = .cancelled ∧ ∃ moment, cancelled moment = true) ∧
      result = .error e ∧ sink' = sink ∧ t'.session = t.session) ∨
    Pulled cancelled sink t.session (SyncCommand.receive.block (Utf8.ofString path)) 0
      (result, sink', t'.session) := by
  rw [pull] at h
  simp only [begin_bind] at h
  by_cases hlong : Utf8.size path > maxPath
  · rw [if_pos hlong] at h
    cases h
    exact .inl ⟨_, .inl ⟨rfl, hlong⟩, rfl, rfl, rfl⟩
  rw [if_neg hlong] at h
  by_cases hstop : cancelled t.moment = true
  · rw [if_pos hstop] at h
    cases h
    exact .inl ⟨_, .inr ⟨rfl, _, hstop⟩, rfl, rfl, rfl⟩
  rw [if_neg hstop] at h
  simp only [onSession, session_ask] at h
  rcases SyncSession.writeAll_cases ht (SyncCommand.receive.block (Utf8.ofString path)) with
    ⟨s₁, hw, hu, ho⟩ | ⟨e, s₁, hw, hc, hd⟩
  · rw [SyncSession.request, hw] at h
    exact .inr (.request ho hu (pullData_cases cancelled reporting 0 sink
      (t := { (t.ask cancelled).2 with session := s₁ }) ho.isOpen h))
  · rw [SyncSession.request, hw] at h
    cases h
    exact .inr (.closedAtOnce hc (.inl hd))

end Transfer

end DebugBridge
