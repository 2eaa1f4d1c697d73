import DebugBridge.Proofs.Sync.PullInStep
import DebugBridge.Proofs.Sync.Refused

/-!
# What a transfer tells

A transfer moves its bytes piece by piece. Behind each piece it tells how many bytes it has moved
so far, on top of what the transfers before it have moved: one value for each piece, in their order,
and nothing in between.

* `totals` — the running totals of pieces; `getElem_totals`, what each of them is the sum of
* `PieceByPiece` — the pieces that a transfer moves, with the states in between
* `push_tells` — what a push tells, and which pieces it sends
* `pull_tells` — what a pull tells, and which pieces it stores
-/

namespace DebugBridge

open SyncSession (maxChunk maxPath)

/-! ## Running totals -/

/-- The running totals of the bytes in a row of pieces, on top of `base`. -/
def totals (base : Nat) : List Bytes → List Nat
  | [] => []
  | piece :: pieces => (base + piece.length) :: totals (base + piece.length) pieces

/-- **Each total is the sum of all pieces up to its own.** -/
theorem getElem_totals (base : Nat) (pieces : List Bytes) (i : Nat)
    (h : i < (totals base pieces).length) :
    (totals base pieces)[i] = base + (pieces.take (i + 1)).flatten.length := by
  induction pieces generalizing base i with
  | nil => exact absurd h (Nat.not_lt_zero i)
  | cons piece pieces ih =>
    rw [List.take_succ_cons, List.flatten_cons, List.length_append, ← Nat.add_assoc]
    cases i with
    | zero => rfl
    | succ i => exact ih (base + piece.length) i (Nat.lt_of_succ_lt_succ h)

theorem totals_append (base : Nat) (pieces more : List Bytes) :
    totals base (pieces ++ more) =
      totals base pieces ++ totals (base + pieces.flatten.length) more := by
  induction pieces generalizing base with
  | nil => rfl
  | cons piece pieces ih =>
    rw [List.cons_append, totals, totals, List.cons_append, ih, List.flatten_cons,
      List.length_append, Nat.add_assoc]

theorem base_le_of_mem_totals {base n : Nat} {pieces : List Bytes} (h : n ∈ totals base pieces) :
    base ≤ n := by
  obtain ⟨i, hi, rfl⟩ := List.mem_iff_getElem.mp h
  rw [getElem_totals]
  exact Nat.le_add_right _ _

theorem totals_ascending (base : Nat) (pieces : List Bytes) :
    (totals base pieces).Pairwise (· ≤ ·) := by
  induction pieces generalizing base with
  | nil => exact .nil
  | cons piece pieces ih => exact .cons (fun _ hn => base_le_of_mem_totals hn) (ih _)

theorem base_lt_of_mem_totals {base n : Nat} {pieces : List Bytes}
    (hne : ∀ piece ∈ pieces, piece ≠ []) (h : n ∈ totals base pieces) : base < n := by
  cases pieces with
  | nil => exact absurd h List.not_mem_nil
  | cons piece pieces =>
    have hpiece : 0 < piece.length := List.length_pos_iff.mpr (hne piece List.mem_cons_self)
    have hle : base + piece.length ≤ n := by
      rcases List.mem_cons.mp h with rfl | hlater
      · exact Nat.le_refl _
      · exact base_le_of_mem_totals hlater
    omega

/-- **Totals of pieces that are not empty grow with each piece.** -/
theorem totals_strict {base : Nat} {pieces : List Bytes} (hne : ∀ piece ∈ pieces, piece ≠ []) :
    (totals base pieces).Pairwise (· < ·) := by
  induction pieces generalizing base with
  | nil => exact .nil
  | cons piece pieces ih =>
    obtain ⟨-, hlater⟩ := List.forall_mem_cons.mp hne
    exact .cons (fun _ hn => base_lt_of_mem_totals hlater hn) (ih hlater)

/-- The last total is the sum of all pieces. -/
theorem getLast?_totals (base : Nat) {pieces : List Bytes} (h : pieces ≠ []) :
    (totals base pieces).getLast? = some (base + pieces.flatten.length) := by
  rw [← List.dropLast_concat_getLast h, totals_append, List.flatten_concat, List.length_append,
    ← Nat.add_assoc]
  exact List.getLast?_concat ..

/-! ## Pieces, one after another -/

/-- A row of pieces was moved, each of them by one step; `moved` bytes were moved before. -/
inductive PieceByPiece {σ : Type} (step : Nat → Bytes → σ → σ → Prop) :
    Nat → List Bytes → σ → σ → Prop
  | nil (moved : Nat) (a : σ) : PieceByPiece step moved [] a a
  | cons {moved : Nat} {piece : Bytes} {pieces : List Bytes} {a b c : σ} :
      step moved piece a b → PieceByPiece step (moved + piece.length) pieces b c →
      PieceByPiece step moved (piece :: pieces) a c

/-- The moment at which a transfer has last asked whether it is cancelled. -/
def Transfer.lastAsked (t : Transfer) : Moment := { t.moment with asked := t.moment.asked - 1 }

/-- A row of pieces was moved, and no other piece behind them: the caller had cancelled when it was
asked behind the last one, or there was none to be moved. -/
structure MovesAll {β : Type} (step : Nat → Bytes → β × Transfer → β × Transfer → Prop)
    (cancelled : Cancelled) (moved : Nat) (pieces : List Bytes) (a b : β × Transfer) : Prop where
  each : PieceByPiece step moved pieces a b
  all : (pieces ≠ [] ∧ cancelled b.2.lastAsked = true) ∨
    ∀ piece c, ¬ step (moved + pieces.flatten.length) piece b c

section Moves

variable {β : Type} {step : Nat → Bytes → β × Transfer → β × Transfer → Prop}
  {cancelled : Cancelled} {reporting : Reporting} {moved : Nat} {piece : Bytes}
  {pieces : List Bytes} {a b c : β × Transfer} {t t' : Transfer}

theorem MovesAll.cons (h : step moved piece a b)
    (hrest : MovesAll step cancelled (moved + piece.length) pieces b c) :
    MovesAll step cancelled moved (piece :: pieces) a c := by
  refine ⟨.cons h hrest.each, hrest.all.imp (fun hstop => ⟨List.cons_ne_nil _ _, hstop.2⟩)
    fun hnone => ?_⟩
  rwa [List.flatten_cons, List.length_append, ← Nat.add_assoc]

/-- Behind the last piece the caller had cancelled. -/
theorem MovesAll.stopped (h : step moved piece a b) (hstop : cancelled b.2.lastAsked = true) :
    MovesAll step cancelled moved [piece] a b :=
  ⟨.cons h (.nil _ _), .inl ⟨List.cons_ne_nil _ _, hstop⟩⟩

/-! ## What is told of them -/

/-- What was moved before a transfer, as far as its caller is told of it. -/
def Reporting.base : Reporting → Nat
  | .alone => 0
  | .after base => base

/-- The values told behind a row of pieces are its totals, if each step tells the one of its
piece. -/
theorem PieceByPiece.reports
    (hstep : ∀ {moved piece a b}, step moved piece a b →
      b.2.reports = a.2.reports.push (.update (reporting.base + (moved + piece.length))))
    (h : PieceByPiece step moved pieces a b) :
    b.2.reports.toList =
      a.2.reports.toList ++ (totals (reporting.base + moved) pieces).map .update := by
  induction h with
  | nil => simp [totals]
  | cons h _ ih =>
    rw [ih, hstep h, Array.toList_push, totals, List.map_cons, List.append_assoc, Nat.add_assoc,
      List.singleton_append]

/-- A transfer fails before its request is written, and moves no piece; or all its pieces are moved
behind the request. -/
def MovesBehind (request : SessionRun Unit)
    (step : Nat → Bytes → β × Transfer → β × Transfer → Prop) (cancelled : Cancelled) (start : β)
    (t : Transfer) (result : Except Failure Nat) (pieces : List Bytes) : Prop :=
  (pieces = [] ∧ ∃ e, result = .error e) ∨
    ∃ requested last, Transfer.onSession request (t.ask cancelled).2 = (.ok (), requested) ∧
      MovesAll step cancelled 0 pieces (start, requested) last

/-- The caller was told of the pieces, by their totals, and of nothing else. -/
def Told (reporting : Reporting) (t t' : Transfer) (pieces : List Bytes) : Prop :=
  t'.reports.toList = t.reports.toList ++ (totals reporting.base pieces).map .update

theorem told_nil (h : t'.reports = t.reports) :
    Told reporting t t' [] := by
  rw [Told, totals, List.map_nil, List.append_nil, h]

/-- If each step of a transfer tells the total of its piece, the pieces of the whole are told. -/
theorem MovesAll.told
    (hstep : ∀ {moved piece a b}, step moved piece a b →
      b.2.reports = a.2.reports.push (.update (reporting.base + (moved + piece.length))))
    (h : MovesAll step cancelled 0 pieces a b) : Told reporting a.2 b.2 pieces := by
  rw [Told, h.each.reports hstep, Nat.add_zero]

end Moves

theorem Inflow.ne_nil_of_mem_pieces {size : Nat} {source : Inflow} {piece : Bytes}
    (h : piece ∈ source.pieces size) : piece ≠ [] := by
  fun_induction Inflow.pieces size source with
  | case1 source b bytes source' hread _ ih =>
    rcases List.mem_cons.mp h with rfl | hlater
    · exact List.cons_ne_nil _ _
    · exact ih hlater
  | case2 source hnone => exact absurd h List.not_mem_nil

namespace Transfer

/-! ## Reports -/

@[simp] theorem reports_update (reporting : Reporting) (moved : Nat) (t : Transfer) :
    (t.update reporting moved).reports = t.reports.push (.update (reporting.base + moved)) := by
  cases reporting with
  | alone => simp [update, Reporting.base]
  | after base => rfl

@[simp] theorem reports_ask (cancelled : Cancelled) (t : Transfer) :
    (t.ask cancelled).2.reports = t.reports := rfl

theorem checkpoint_reports (cancelled : Cancelled) (reporting : Reporting) (moved : Nat)
    (t : Transfer) :
    (checkpoint cancelled reporting moved t).2.reports = (t.update reporting moved).reports := by
  unfold checkpoint
  split
  · next h =>
    obtain ⟨-, rfl⟩ := Prod.mk.inj h
    rfl
  · next h =>
    obtain ⟨-, rfl⟩ := Prod.mk.inj h
    rfl

/-- A checkpoint that lets the transfer go on has told of a piece and asked. -/
theorem checkpoint_ok {cancelled : Cancelled} {reporting : Reporting} {moved : Nat}
    {t t' : Transfer} (h : checkpoint cancelled reporting moved t = (.ok (), t')) :
    t' = ((t.update reporting moved).ask cancelled).2 := by
  unfold checkpoint at h
  split at h
  · cases h
  · next hask =>
    obtain ⟨-, rfl⟩ := Prod.mk.inj hask
    exact (Prod.mk.inj h).2.symm

/-- A checkpoint that ends the transfer has asked a caller who had cancelled. -/
theorem checkpoint_error {cancelled : Cancelled} {reporting : Reporting} {moved : Nat}
    {t t' : Transfer} {e : Failure} (h : checkpoint cancelled reporting moved t = (.error e, t')) :
    cancelled ((t.update reporting moved).ask cancelled).2.lastAsked = true := by
  unfold checkpoint at h
  split at h
  · next hask => exact (Prod.mk.inj hask).1
  · cases h

/-! ## Steps that tell nothing -/

/-- A run that tells the caller nothing. -/
def Quiet {α : Type} (x : TransferRun α) : Prop := ∀ t, (x t).2.reports = t.reports

theorem quiet_onSession {α : Type} (x : SessionRun α) : Quiet (onSession x) := fun _ => rfl

theorem quiet_needOpen : Quiet needOpen := fun _ => rfl

theorem Quiet.bind {α β : Type} {x : TransferRun α} {f : α → TransferRun β} (hx : Quiet x)
    (hf : ∀ a, Quiet (f a)) : Quiet (x >>= f) := by
  intro t
  rw [Run.bind_apply, ← hx t]
  split
  · next a t' h =>
    rw [hf a t', h]
  · next e t' h => rw [h]

theorem Quiet.begin {α : Type} {x : TransferRun α} (hx : Quiet x) (cancelled : Cancelled)
    (path : String) : Quiet (begin cancelled path >>= fun _ => x) := by
  intro t
  rw [begin_bind]
  split
  · rfl
  · split
    · rfl
    · exact hx _

/-- A transfer that has begun has only asked. -/
theorem begin_bind_ok {α : Type} {cancelled : Cancelled} {path : String} {x : TransferRun α}
    {t t' : Transfer} {a : α} (h : (begin cancelled path >>= fun _ => x) t = (.ok a, t')) :
    x (t.ask cancelled).2 = (.ok a, t') := by
  rw [begin_bind] at h
  split at h
  · cases h
  · split at h
    · cases h
    · exact h

theorem needOpen_bind_ok {α : Type} {x : TransferRun α} {t t' : Transfer} {a : α}
    (h : (needOpen >>= fun _ => x) t = (.ok a, t')) : x t = (.ok a, t') := by
  rw [Run.bind_apply, needOpen] at h
  cases ho : t.session.isOpen with
  | true => rwa [ho] at h
  | false =>
    rw [ho] at h
    cases h

/-! ## Push -/

/-- A push sends a piece: the source gives it, its block is written, and then the caller is told of
it and asked whether to stop. -/
structure SendsPiece (cancelled : Cancelled) (reporting : Reporting) (moved : Nat) (piece : Bytes)
    (a b : Inflow × Transfer) : Prop where
  read : a.1.readOn maxChunk = (.ok piece, b.1)
  some : piece ≠ []
  block : ∃ written,
    onSession (SyncSession.writeAll (SyncCommand.data.block piece)) a.2 = (.ok (), written) ∧
      b.2 = ((written.update reporting (moved + piece.length)).ask cancelled).2

theorem SendsPiece.reports {cancelled : Cancelled} {reporting : Reporting} {moved : Nat}
    {piece : Bytes} {a b : Inflow × Transfer} (h : SendsPiece cancelled reporting moved piece a b) :
    b.2.reports = a.2.reports.push (.update (reporting.base + (moved + piece.length))) := by
  obtain ⟨written, hwrite, hb⟩ := h.block
  obtain ⟨-, rfl⟩ := Prod.mk.inj hwrite
  rw [hb, reports_ask, reports_update]

/-- A block is not written, or it is written and then the caller is told of it. -/
theorem sendPiece_tells {cancelled : Cancelled} {reporting : Reporting} {moved : Nat}
    {bytes : Bytes} {t : Transfer} {out : Except Failure Unit × Transfer}
    (h : (do onSession (SyncSession.writeAll bytes); checkpoint cancelled reporting moved :
      TransferRun Unit) t = out) :
    (∃ e, onSession (SyncSession.writeAll bytes) t = (.error e, out.2) ∧ out.1 = .error e) ∨
      ∃ written, onSession (SyncSession.writeAll bytes) t = (.ok (), written) ∧
        checkpoint cancelled reporting moved written = out := by
  rw [Run.bind_apply] at h
  split at h
  · next u written hw => exact .inr ⟨written, hw, h⟩
  · next e t' hw =>
    subst h
    exact .inl ⟨e, hw, rfl⟩

/-- What is told while the bytes of a source are sent. -/
theorem pushData_tells (cancelled : Cancelled) (reporting : Reporting) (moved : Nat)
    (source : Inflow) (t : Transfer) {out : Except Failure Nat × Inflow × Transfer}
    (h : pushData cancelled reporting moved source t = out) :
    ∃ pieces last,
      MovesAll (SendsPiece cancelled reporting) cancelled moved pieces (source, t) last ∧
      out.2.2.reports = last.2.reports ∧ pieces <+: source.pieces maxChunk ∧
      ∀ n, out.1 = .ok n →
        pieces = source.pieces maxChunk ∧ n = moved + pieces.flatten.length := by
  fun_induction pushData cancelled reporting moved source t with
  | case1 moved source t e source' hread =>
    subst h
    refine ⟨[], (source, t), ⟨.nil _ _, .inr fun piece next hnext => ?_⟩, rfl, List.nil_prefix,
      fun _ h => by cases h⟩
    rw [hnext.read] at hread
    cases hread
  | case2 moved source t source' hread =>
    subst h
    refine ⟨[], (source, t), ⟨.nil _ _, .inr fun piece next hnext => ?_⟩, rfl, List.nil_prefix,
      fun n hn => ⟨(Inflow.pieces_nil hread).symm, (Except.ok.inj hn).symm⟩⟩
    rw [hnext.read] at hread
    cases hread
    exact hnext.some rfl
  | case3 moved source t b bytes source' hread _ moved' block e t' hb =>
    subst h
    rcases sendPiece_tells hb with ⟨e', hw, -⟩ | ⟨written, hw, hcheck⟩
    · -- the block could not be written, so it is not one that was sent
      refine ⟨[], (source, t), ⟨.nil _ _, .inr fun piece next hnext => ?_⟩, ?_, List.nil_prefix,
        fun _ h => by cases h⟩
      · obtain ⟨written, hw', -⟩ := hnext.block
        have hsame := hnext.read
        rw [hread] at hsame
        cases hsame
        rw [hw] at hw'
        cases hw'
      · obtain ⟨-, rfl⟩ := Prod.mk.inj hw
        rfl
    · -- it was written, and then the caller had cancelled
      have hstep : SendsPiece cancelled reporting moved (b :: bytes) (source, t)
          (source', ((written.update reporting moved').ask cancelled).2) :=
        ⟨hread, List.cons_ne_nil _ _, written, hw, rfl⟩
      refine ⟨[b :: bytes], _, .stopped hstep (checkpoint_error hcheck), ?_, ?_,
        fun _ h => by cases h⟩
      · rw [reports_ask, ← checkpoint_reports cancelled, hcheck]
      · rw [Inflow.pieces_cons hread]
        exact (List.prefix_cons_inj _).mpr List.nil_prefix
  | case4 moved source t b bytes source' hread _ moved' block t' hb ih =>
    rcases sendPiece_tells hb with ⟨e', -, he⟩ | ⟨written, hw, hcheck⟩
    · cases he
    · obtain rfl := checkpoint_ok hcheck
      obtain ⟨pieces, last, hmoves, hreports, hfront, hend⟩ := ih h
      have hstep : SendsPiece cancelled reporting moved (b :: bytes) (source, t)
          (source', ((written.update reporting moved').ask cancelled).2) :=
        ⟨hread, List.cons_ne_nil _ _, written, hw, rfl⟩
      refine ⟨(b :: bytes) :: pieces, last, .cons hstep hmoves, hreports, ?_, fun n hn => ?_⟩
      · rw [Inflow.pieces_cons hread]
        exact (List.prefix_cons_inj _).mpr hfront
      · obtain ⟨rfl, hn⟩ := hend n hn
        rw [Inflow.pieces_cons hread, List.flatten_cons, List.length_append, ← Nat.add_assoc]
        exact ⟨rfl, hn⟩

/-- What a push has sent and told. -/
structure PushTold (cancelled : Cancelled) (reporting : Reporting) (source : Inflow) (path : String)
    (mode : UInt32) (t : Transfer) (out : Except Failure Nat × Inflow × Transfer)
    (pieces : List Bytes) : Prop where
  sends : MovesBehind (SyncSession.request .send (sendHeader path mode))
    (SendsPiece cancelled reporting) cancelled source t out.1 pieces
  told : Told reporting t out.2.2 pieces
  front : pieces <+: source.pieces maxChunk
  whole : ∀ n, out.1 = .ok n → pieces = source.pieces maxChunk ∧ n = pieces.flatten.length

/-- The totals that a push tells grow with each piece. -/
theorem PushTold.strict {cancelled : Cancelled} {reporting : Reporting} {source : Inflow}
    {path : String} {mode : UInt32} {t : Transfer}
    {out : Except Failure Nat × Inflow × Transfer} {pieces : List Bytes}
    (h : PushTold cancelled reporting source path mode t out pieces) (base : Nat) :
    (totals base pieces).Pairwise (· < ·) :=
  totals_strict fun _ hp => Inflow.ne_nil_of_mem_pieces (h.front.subset hp)

/-- **What a push tells** are the totals of the pieces that it sends, each behind its block. A push
that succeeds has sent all pieces of its source. -/
theorem push_tells (cancelled : Cancelled) (reporting : Reporting) (source : Inflow) (path : String)
    (mode mtime : UInt32) (t : Transfer) {out : Except Failure Nat × Inflow × Transfer}
    (h : push cancelled reporting source path mode mtime t = out) :
    ∃ pieces, PushTold cancelled reporting source path mode t out pieces := by
  have hquiet := (quiet_needOpen.bind fun _ => quiet_onSession
    (SyncSession.request .send (sendHeader path mode))).begin cancelled path t
  rw [push] at h
  cases hheader : (do begin cancelled path; needOpen
                      onSession (SyncSession.request .send (sendHeader path mode)) :
      TransferRun Unit) t with
  | mk result t₁ =>
    simp only [hheader] at hquiet h
    cases result with
    | error e =>
      subst h
      exact ⟨[], .inl ⟨rfl, e, rfl⟩, told_nil hquiet, List.nil_prefix, nofun⟩
    | ok u =>
      have hrequest := needOpen_bind_ok (begin_bind_ok hheader)
      cases hdata : pushData cancelled reporting 0 source t₁ with
      | mk result rest =>
        obtain ⟨source₂, t₂⟩ := rest
        obtain ⟨pieces, last, hmoves, hreports, hfront, hwhole⟩ :=
          pushData_tells cancelled reporting 0 source t₁ hdata
        have htold : Told reporting t t₂ pieces := by
          have := hmoves.told SendsPiece.reports
          rwa [Told, ← hreports, hquiet] at this
        simp only [hdata] at h
        cases result with
        | error e =>
          subst h
          exact ⟨pieces, .inr ⟨t₁, last, hrequest, hmoves⟩, htold, hfront, nofun⟩
        | ok moved =>
          obtain ⟨hall, hmoved⟩ := hwhole moved rfl
          rw [Nat.zero_add] at hmoved
          -- the receipt decides how the push ends, and nothing is told of it
          cases hend : onSession (pushEnd mtime) t₂ with
          | mk verdict t₃ =>
            obtain ⟨-, rfl⟩ := Prod.mk.inj hend
            simp only [hend] at h
            cases verdict with
            | error e =>
              subst h
              exact ⟨pieces, .inr ⟨t₁, last, hrequest, hmoves⟩, htold, hfront, nofun⟩
            | ok u =>
              subst h
              refine ⟨pieces, .inr ⟨t₁, last, hrequest, hmoves⟩, htold, hfront, fun n hn => ?_⟩
              exact ⟨hall, (Except.ok.inj hn).symm.trans hmoved⟩

/-! ## Pull -/

/-- A pull stores a piece: its block is read, the sink takes it, and then the caller is told of it
and asked whether to stop. -/
structure StoresPiece (cancelled : Cancelled) (reporting : Reporting) (moved : Nat) (piece : Bytes)
    (a b : Sink × Transfer) : Prop where
  block : ∃ session, dataPart a.2.session = (.ok (some piece), session) ∧
    b.2 = (({ a.2 with session }.update reporting (moved + piece.length)).ask cancelled).2
  stored : a.1.store piece = (.ok (), b.1)

section Pieces

variable {cancelled : Cancelled} {reporting : Reporting} {moved : Nat} {piece : Bytes}
  {pieces : List Bytes} {a b : Sink × Transfer}

theorem StoresPiece.reports (h : StoresPiece cancelled reporting moved piece a b) :
    b.2.reports = a.2.reports.push (.update (reporting.base + (moved + piece.length))) := by
  obtain ⟨session, -, hb⟩ := h.block
  rw [hb, reports_ask, reports_update]

/-- What is read of a session stands in front of what it has still to read. -/
theorem unread_dataPart {s s' : SyncSession} {part : Option Bytes}
    (h : dataPart s = (.ok part, s')) :
    SyncAnswer.content.front s.unread = .whole (.ok part) s'.unread := by
  obtain ⟨link, _ | _⟩ := s
  · cases h
  · exact (dataPart_ok rfl h).1

theorem StoresPiece.unread (h : StoresPiece cancelled reporting moved piece a b) :
    a.2.session.unread = SyncCommand.data.block piece ++ b.2.session.unread := by
  obtain ⟨session, hread, hb⟩ := h.block
  rw [hb]
  exact (SyncAnswer.content_part.mp (unread_dataPart hread)).2

theorem stores_unread (h : PieceByPiece (StoresPiece cancelled reporting) moved pieces a b) :
    a.2.session.unread = dataBlocks pieces ++ b.2.session.unread := by
  induction h with
  | nil => rfl
  | cons h _ ih => rw [h.unread, ih, dataBlocks_cons]

theorem stores_storeAll (h : PieceByPiece (StoresPiece cancelled reporting) moved pieces a b) :
    a.1.storeAll pieces = (.ok (), b.1) := by
  induction h with
  | nil => rfl
  | cons h _ ih => rw [Sink.storeAll_cons h.stored, ih]

end Pieces

/-- What is told while the blocks of a file are read. -/
theorem pullData_tells (cancelled : Cancelled) (reporting : Reporting) (moved : Nat) (sink : Sink)
    (t : Transfer) {out : Except Failure Nat × Sink × Transfer}
    (h : pullData cancelled reporting moved sink t = out) :
    ∃ pieces last,
      MovesAll (StoresPiece cancelled reporting) cancelled moved pieces (sink, t) last ∧
      out.2.2.reports = last.2.reports ∧
      (out.2.1 = last.1 ∨ ∃ piece e, last.1.store piece = (.error e, out.2.1)) ∧
      ∀ n, out.1 = .ok n → n = moved + pieces.flatten.length ∧
        SyncAnswer.content.front last.2.session.unread =
          .whole (.ok none) out.2.2.session.unread := by
  -- a step that would come behind what was read has read something else
  have hstuck : ∀ {moved : Nat} {sink : Sink} {t : Transfer} {result session},
      dataPart t.session = (result, session) → (∀ piece, result ≠ .ok (some piece)) →
      MovesAll (StoresPiece cancelled reporting) cancelled moved [] (sink, t) (sink, t) := by
    intro moved sink t result session hd hne
    refine ⟨.nil _ _, .inr fun piece next hnext => ?_⟩
    obtain ⟨session', hread, -⟩ := hnext.block
    exact hne piece (Prod.mk.inj (hd.symm.trans hread)).1
  fun_induction pullData cancelled reporting moved sink t with
  | case1 moved sink t e session hd =>
    subst h
    exact ⟨[], (sink, t), hstuck hd (fun _ h => by cases h), rfl, .inl rfl, fun _ h => by cases h⟩
  | case2 moved sink t session hd e hflush =>
    subst h
    exact ⟨[], (sink, t), hstuck hd (fun _ h => by cases h), rfl, .inl rfl, fun _ h => by cases h⟩
  | case3 moved sink t session hd hflush =>
    subst h
    exact ⟨[], (sink, t), hstuck hd (fun _ h => by cases h), rfl, .inl rfl,
      fun n hn => ⟨(Except.ok.inj hn).symm, unread_dataPart hd⟩⟩
  | case4 moved sink t bytes session hd e sink' hs =>
    subst h
    refine ⟨[], (sink, t), ⟨.nil _ _, .inr fun piece next hnext => ?_⟩, rfl,
      .inr ⟨bytes, e, hs⟩, fun _ h => by cases h⟩
    -- the sink refuses the only piece that there is
    obtain ⟨session', hread, -⟩ := hnext.block
    rw [hd] at hread
    cases hread
    have hstored := hnext.stored
    rw [hs] at hstored
    cases hstored
  | case5 moved sink t bytes session hd sink' hs moved' e t' hc =>
    subst h
    have hstep : StoresPiece cancelled reporting moved bytes (sink, t)
        (sink', (({ t with session }.update reporting moved').ask cancelled).2) :=
      ⟨⟨session, hd, rfl⟩, hs⟩
    refine ⟨[bytes], _, .stopped hstep (checkpoint_error hc), ?_, .inl rfl, fun _ h => by cases h⟩
    rw [reports_ask, ← checkpoint_reports cancelled, hc]
  | case6 moved sink t bytes session hd sink' hs moved' t' hc _ ih =>
    obtain rfl := checkpoint_ok hc
    obtain ⟨pieces, last, hmoves, hreports, hsink, hend⟩ := ih h
    have hstep : StoresPiece cancelled reporting moved bytes (sink, t)
        (sink', (({ t with session }.update reporting moved').ask cancelled).2) :=
      ⟨⟨session, hd, rfl⟩, hs⟩
    refine ⟨bytes :: pieces, last, .cons hstep hmoves, hreports, hsink, fun n hn => ?_⟩
    obtain ⟨hn, hfront⟩ := hend n hn
    rw [List.flatten_cons, List.length_append, ← Nat.add_assoc]
    exact ⟨hn, hfront⟩

/-- A request that was written has read nothing. -/
theorem unread_request {command : SyncCommand} {payload : String} {t t' : Transfer}
    (h : onSession (SyncSession.request command payload) t = (.ok (), t')) :
    t'.session.unread = t.session.unread := by
  obtain ⟨⟨link, _ | _⟩, moment, reports⟩ := t
  · cases h
  · obtain ⟨hresult, rfl⟩ := Prod.mk.inj h
    rcases SyncSession.writeAll_cases (s := ⟨link, true⟩) rfl
      (command.block (Utf8.ofString payload)) with ⟨s', hw, hu, -⟩ | ⟨e, s', hw, -⟩
    · exact (congrArg (fun out => out.2.unread) hw).trans hu
    · cases (congrArg Prod.fst hw).symm.trans hresult

/-- What a pull has stored and told. -/
structure PullTold (cancelled : Cancelled) (reporting : Reporting) (path : String) (sink : Sink)
    (t : Transfer) (out : Except Failure Nat × Sink × Transfer) (pieces : List Bytes) : Prop where
  stores : MovesBehind (SyncSession.request .receive path) (StoresPiece cancelled reporting)
    cancelled sink t out.1 pieces
  told : Told reporting t out.2.2 pieces
  stored : sink.limit = none → out.2.1.stored.toList = sink.stored.toList ++ pieces.flatten
  whole : ∀ n, out.1 = .ok n → n = pieces.flatten.length ∧
    ∃ words : Bytes, words.length = 4 ∧
      t.session.unread =
        dataBlocks pieces ++ (SyncCommand.done.id ++ words) ++ out.2.2.session.unread

/-- **What a pull tells** are the totals of the pieces that it stores, each behind the storing. A
pull that succeeds has read the end of the file behind them. -/
theorem pull_tells (cancelled : Cancelled) (reporting : Reporting) (path : String) (sink : Sink)
    (t : Transfer) {out : Except Failure Nat × Sink × Transfer}
    (h : pull cancelled reporting path sink t = out) :
    ∃ pieces, PullTold cancelled reporting path sink t out pieces := by
  have hquiet := (quiet_onSession (SyncSession.request .receive path)).begin cancelled path t
  rw [pull] at h
  cases hheader : (do begin cancelled path; onSession (SyncSession.request .receive path) :
      TransferRun Unit) t with
  | mk result t₁ =>
    simp only [hheader] at hquiet h
    cases result with
    | error e =>
      subst h
      refine ⟨[], .inl ⟨rfl, e, rfl⟩, told_nil hquiet, fun _ => ?_, nofun⟩
      rw [List.flatten_nil, List.append_nil]
    | ok u =>
      have hrequest := begin_bind_ok hheader
      obtain ⟨pieces, last, hmoves, hreports, hsink, hwhole⟩ :=
        pullData_tells cancelled reporting 0 sink t₁ h
      have hstore := stores_storeAll hmoves.each
      refine ⟨pieces, .inr ⟨t₁, last, hrequest, hmoves⟩, ?_, fun hlimit => ?_, fun n hn => ?_⟩
      · have := hmoves.told StoresPiece.reports
        rwa [Told, ← hreports, hquiet] at this
      · obtain ⟨k, hstored, hall⟩ := Sink.stored_storeAll hstore
        rw [hall rfl] at hstored
        rcases hsink with hsink | ⟨piece, e, hrefused⟩
        · rw [hsink]
          exact hstored
        · -- a sink without a limit refuses nothing
          obtain ⟨sink', hmore, -⟩ := Sink.storeAll_unlimited hlimit (pieces ++ [piece])
          rw [Sink.storeAll_append hstore, Sink.storeAll, hrefused] at hmore
          cases hmore
      · obtain ⟨hn, hfront⟩ := hwhole n hn
        obtain ⟨words, hwords, hu⟩ := SyncAnswer.content.sending.done.mp hfront
        refine ⟨by rw [hn, Nat.zero_add], words, hwords, ?_⟩
        rw [← session_ask cancelled t, ← unread_request hrequest]
        have hstored := stores_unread hmoves.each
        rw [hu] at hstored
        simpa only [List.append_assoc] using hstored

end Transfer

end DebugBridge
