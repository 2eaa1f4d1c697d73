import DebugBridge.Proofs.Link
import DebugBridge.Reply

/-!
# Links that differ in their pieces only

Two links are alike if they bring the same bytes and the same kinds of failure in the same order,
however the bytes are cut into pieces and wherever reads are interrupted, and if they take the same
bytes, however many of them at a time. Nothing that an exchange does tells alike links apart: it
gives the same on both, and leaves them alike.

* `Run.Respects` — runs that give the same from related states and leave related states; kept by
  running one thing after another
* `Inflow.readExactly_events` — reading a number of bytes looks at what comes, not at the pieces
* `Link.Alike.writeAll` — and writing them looks at how many there is room for, not at the turns
* `Exchange.respects_sendText` to `Exchange.respects_scopeTo` — the framed operations
* `SocketStep.runAll_alike` — any row of them
-/

namespace DebugBridge

/-! ## Runs that respect a relation -/

namespace Run

variable {σ α β : Type} {R : σ → σ → Prop}

/-- From related states a run gives the same and leaves related states. -/
def Respects (R : σ → σ → Prop) (x : Run σ α) : Prop :=
  ∀ s s', R s s' → (x s).1 = (x s').1 ∧ R (x s).2 (x s').2

/-- The other of two runs that give the same. -/
theorem Respects.out {x : Run σ α} (hx : Respects R x) {s s' t : σ} (h : R s s')
    {result : Except Failure α} (hs : x s = (result, t)) :
    ∃ t', x s' = (result, t') ∧ R t t' := by
  obtain ⟨hresult, hstate⟩ := hx s s' h
  rw [hs] at hresult hstate
  exact ⟨(x s').2, Prod.ext hresult.symm rfl, hstate⟩

theorem respects_pure (a : α) : Respects R (pure a : Run σ α) := fun _ _ h => ⟨rfl, h⟩

theorem respects_throw (e : Failure) : Respects R (throw e : Run σ α) := fun _ _ h => ⟨rfl, h⟩

theorem respects_lift (x : Except Failure α) : Respects R (x : Run σ α) := by
  intro s s' h
  cases x with
  | error e => exact ⟨rfl, h⟩
  | ok a => exact ⟨rfl, h⟩

theorem Respects.bind {x : Run σ α} {f : α → Run σ β} (hx : Respects R x)
    (hf : ∀ a, Respects R (f a)) : Respects R (x >>= f) := by
  intro s s' h
  cases hs : x s with
  | mk result t =>
    obtain ⟨t', hs', ht⟩ := hx.out h hs
    rw [bind_apply, bind_apply, hs, hs']
    cases result with
    | error e => exact ⟨rfl, ht⟩
    | ok a => exact hf a t t' ht

end Run

/-! ## What a stream brings -/

namespace Inflow

/-- What comes next on a stream. -/
inductive Event where
  | byte (b : UInt8)
  | failure (kind : IoKind)

/-- The bytes and the failures of the arrivals, one after another, interruptions left out. -/
def events : List Arrival → List Event
  | [] => []
  | .bytes piece :: rest => piece.map .byte ++ events rest
  | .failure e :: rest => if e.isInterrupted then events rest else .failure e.kind :: events rest

/-- Takes a number of bytes; a failure in front of the last of them ends that. -/
def takeBytes (ending : Option IoKind) : Nat → List Event → Except IoKind Bytes × List Event
  | 0, rest => (.ok [], rest)
  | _ + 1, [] => (.error (ending.getD shortRead.kind), [])
  | _ + 1, .failure kind :: rest => (.error kind, rest)
  | n + 1, .byte b :: rest =>
    let (result, rest) := takeBytes ending n rest
    (result.map (b :: ·), rest)

/-- More bytes than a piece has are taken off the piece and off what comes behind it. -/
theorem takeBytes_piece (ending : Option IoKind) {n : Nat} {piece : Bytes}
    (h : piece.length ≤ n) (rest : List Event) :
    takeBytes ending n (piece.map .byte ++ rest) =
      ((takeBytes ending (n - piece.length) rest).1.map (piece ++ ·),
        (takeBytes ending (n - piece.length) rest).2) := by
  induction piece generalizing n with
  | nil =>
    cases hr : takeBytes ending n rest with
    | mk result left => cases result <;> simp [hr, Except.map]
  | cons b piece ih =>
    obtain ⟨n, rfl⟩ : ∃ m, n = m + 1 := ⟨n - 1, by rw [List.length_cons] at h; omega⟩
    rw [List.length_cons] at h
    rw [List.map_cons, List.cons_append, takeBytes, ih (by omega), List.length_cons,
      Nat.add_sub_add_right]
    cases (takeBytes ending (n - piece.length) rest).1 with
    | error kind => rfl
    | ok more => rfl

/-- No more bytes than a piece has are taken off the piece. -/
theorem takeBytes_within (ending : Option IoKind) {n : Nat} {piece : Bytes}
    (h : n ≤ piece.length) (rest : List Event) :
    takeBytes ending n (piece.map .byte ++ rest) =
      (.ok (piece.take n), (piece.drop n).map .byte ++ rest) := by
  induction piece generalizing n with
  | nil =>
    obtain rfl : n = 0 := Nat.le_zero.mp h
    rw [takeBytes]
    rfl
  | cons b piece ih =>
    cases n with
    | zero =>
      rw [takeBytes]
      rfl
    | succ n =>
      rw [List.map_cons, List.cons_append, takeBytes, ih (Nat.le_of_succ_le_succ h)]
      rfl

/-- **Reading exactly so many bytes looks at what comes, not at the pieces.** -/
theorem readExactly_events (ending : Option IoFailure) (n : Nat) (arrivals : List Arrival) :
    (readExactly ending n arrivals).1.mapError (·.kind) =
        (takeBytes (ending.map (·.kind)) n (events arrivals)).1 ∧
      events (readExactly ending n arrivals).2 =
        (takeBytes (ending.map (·.kind)) n (events arrivals)).2 := by
  fun_induction readExactly ending n arrivals with
  | case1 arrivals => exact ⟨by rw [takeBytes]; rfl, by rw [takeBytes]⟩
  | case2 n => cases ending <;> exact ⟨rfl, rfl⟩
  | case3 n e rest hi ih => rwa [events, if_pos hi]
  | case4 n e rest hi =>
    rw [events, if_neg hi, takeBytes]
    exact ⟨rfl, rfl⟩
  | case5 n piece rest hd more rest' hr ih =>
    rw [hr] at ih
    rw [events, takeBytes_piece _ (List.drop_eq_nil_iff.mp hd), ← ih.1, ← ih.2]
    exact ⟨rfl, rfl⟩
  | case6 n piece rest hd e rest' hr ih =>
    rw [hr] at ih
    rw [events, takeBytes_piece _ (List.drop_eq_nil_iff.mp hd), ← ih.1, ← ih.2]
    exact ⟨rfl, rfl⟩
  | case7 n piece rest hd =>
    have hlen : ¬ piece.length ≤ n + 1 := fun hle => hd (List.drop_eq_nil_iff.mpr hle)
    rw [events, takeBytes_within _ (by omega), events]
    exact ⟨rfl, rfl⟩

/-- Two streams bring the same bytes and the same kinds of failure, in the same order. -/
structure Alike (s s' : Inflow) : Prop where
  events : Inflow.events s.arrivals = Inflow.events s'.arrivals
  ending : s.ending.map (·.kind) = s'.ending.map (·.kind)

/-- **Alike streams are read alike**, up to the wording of a failure. -/
theorem Alike.readExact {s s' : Inflow} (h : s.Alike s') (n : Nat) :
    (s.readExact n).1.mapError (·.kind) = (s'.readExact n).1.mapError (·.kind) ∧
      (s.readExact n).2.Alike (s'.readExact n).2 := by
  obtain ⟨hresult, hrest⟩ := readExactly_events s.ending n s.arrivals
  obtain ⟨hresult', hrest'⟩ := readExactly_events s'.ending n s'.arrivals
  rw [h.events, h.ending] at hresult hrest
  exact ⟨hresult.trans hresult'.symm, hrest.trans hrest'.symm, h.ending⟩

/-- Nothing but interruptions among the arrivals: what comes is their bytes. -/
theorem events_of_interruptions {arrivals : List Arrival}
    (h : ∀ e, .failure e ∈ arrivals → e.isInterrupted = true) :
    events arrivals = (bytesOf arrivals).map .byte := by
  induction arrivals with
  | nil => rfl
  | cons arrival rest ih =>
    have ih := ih fun e he => h e (List.mem_cons_of_mem _ he)
    cases arrival with
    | bytes piece => rw [events, ih, bytesOf_bytes, List.map_append]
    | failure e => rw [events, if_pos (h e List.mem_cons_self), ih, bytesOf_failure]

/-- Steady streams of the same bytes are alike, wherever they are cut and interrupted. -/
theorem Steady.alike {s s' : Inflow} (h : s.Steady) (h' : s'.Steady) (hbytes : s.bytes = s'.bytes) :
    s.Alike s' where
  events := by
    rw [events_of_interruptions h.interruptions, events_of_interruptions h'.interruptions]
    exact congrArg _ hbytes
  ending := by rw [h.ending, h'.ending]

end Inflow

namespace Link

/-! ## Alike links -/

/-- Two links bring the same and take the same, each in its own pieces. -/
structure Alike (link link' : Link) : Prop where
  inflow : link.inflow.Alike link'.inflow
  moves : link.Moves
  moves' : link'.Moves
  written : link.written = link'.written
  writeLimit : link.writeLimit = link'.writeLimit
  flushFailure : link.flushFailure = link'.flushFailure
  closed : link.closed = link'.closed

/-- Calm links of the same bytes are alike. -/
theorem Calm.alike {link link' : Link} (h : link.Calm) (h' : link'.Calm)
    (hbytes : link.inflow.bytes = link'.inflow.bytes) (hwritten : link.written = link'.written)
    (hflush : link.flushFailure = link'.flushFailure) : link.Alike link' where
  inflow := h.steady.alike h'.steady hbytes
  moves := h.toMoves
  moves' := h'.toMoves
  written := hwritten
  writeLimit := by rw [h.unlimited, h'.unlimited]
  flushFailure := hflush
  closed := by rw [h.closed, h'.closed]

theorem Alike.capacity {link link' : Link} (h : link.Alike link') :
    link.capacity = link'.capacity := by
  rw [Link.capacity, Link.capacity, h.closed, h.writeLimit, h.written]

/-- **Alike links are read alike**, up to the wording of a failure. -/
theorem Alike.readExact {link link' : Link} (h : link.Alike link') (n : Nat) :
    (link.readExact n).1.mapError (·.kind) = (link'.readExact n).1.mapError (·.kind) ∧
      (link.readExact n).2.Alike (link'.readExact n).2 := by
  unfold Link.readExact
  rw [h.closed]
  split
  · exact ⟨rfl, h⟩
  · obtain ⟨hresult, hrest⟩ := h.inflow.readExact n
    exact ⟨hresult, hrest, ⟨h.moves.most, h.moves.turns⟩, ⟨h.moves'.most, h.moves'.turns⟩,
      h.written, h.writeLimit, h.flushFailure, rfl⟩

/-- **Alike links are written alike.** -/
theorem Alike.writeAll {link link' : Link} (h : link.Alike link') (bytes : Bytes) :
    (link.writeAll bytes).1 = (link'.writeAll bytes).1 ∧
      (link.writeAll bytes).2.Alike (link'.writeAll bytes).2 := by
  obtain ⟨hverdict, hwritten, hmoves⟩ := h.moves.writeAll bytes
  obtain ⟨hverdict', hwritten', hmoves'⟩ := h.moves'.writeAll bytes
  obtain ⟨written, turns, hframe⟩ := link.writeAll_frame bytes
  obtain ⟨written', turns', hframe'⟩ := link'.writeAll_frame bytes
  rw [hframe] at hwritten hmoves ⊢
  rw [hframe'] at hwritten' hmoves' ⊢
  refine ⟨by rw [hverdict, hverdict', h.capacity], h.inflow, hmoves, hmoves', ?_, h.writeLimit,
    h.flushFailure, h.closed⟩
  apply Array.toList_inj.mp
  rw [hwritten, hwritten', h.written, h.capacity]

theorem Alike.close {link link' : Link} (h : link.Alike link') : link.close.Alike link'.close :=
  ⟨h.inflow, ⟨h.moves.most, h.moves.turns⟩, ⟨h.moves'.most, h.moves'.turns⟩, h.written,
    h.writeLimit, h.flushFailure, rfl⟩

end Link

/-! ## Framed operations -/

namespace Exchange

open Run
open Link (Alike)

theorem isDeadline_of_kind {e e' : IoFailure} (h : e.kind = e'.kind) :
    e.isDeadline = e'.isDeadline := by
  rw [IoFailure.isDeadline, IoFailure.isDeadline, h]

/-- A read whose failures count by their kind only respects alike links. -/
theorem respects_read {α : Type} (n : Nat) (found : Bytes → Except Failure α)
    (failed : Bool → Except Failure α) {x : Exchange α}
    (hx : ∀ link, x link = match link.readExact n with
      | (.ok bytes, link) => (found bytes, link)
      | (.error e, link) => (failed e.isDeadline, link)) : Respects Alike x := by
  intro link link' h
  obtain ⟨hresult, hrest⟩ := h.readExact n
  rw [hx, hx]
  cases hr : link.readExact n with
  | mk result left =>
    cases hr' : link'.readExact n with
    | mk result' left' =>
      rw [hr, hr'] at hresult hrest
      cases result with
      | error e =>
        cases result' with
        | error e' =>
          -- the wordings may differ, and `failed` does not see them
          have hkind : e.kind = e'.kind := Except.error.inj hresult
          exact ⟨congrArg failed (isDeadline_of_kind hkind), hrest⟩
        | ok bytes' => cases hresult
      | ok bytes =>
        cases result' with
        | error e' => cases hresult
        | ok bytes' =>
          obtain rfl : bytes = bytes' := Except.ok.inj hresult
          exact ⟨rfl, hrest⟩

theorem respects_fill? (size : Nat) : Respects Alike (fill? size) :=
  respects_read size (fun bytes => .ok (some bytes))
    (fun deadline => if deadline then .error .deadline else .ok none) fun _ => rfl

theorem respects_fill (size : Nat) (during : String) : Respects Alike (fill size during) :=
  respects_read size .ok
    (fun deadline => .error (if deadline then .deadline else .connectionClosed during))
    fun _ => rfl

theorem respects_writeAll (bytes : Bytes) : Respects Alike (writeAll bytes) := by
  intro link link' h
  obtain ⟨hresult, hrest⟩ := h.writeAll bytes
  exact ⟨congrArg (Except.mapError Failure.ofConnection) hresult, hrest⟩

theorem respects_flush : Respects Alike flush := by
  intro link link' h
  refine ⟨?_, h⟩
  show link.flush.mapError Failure.ofConnection = link'.flush.mapError Failure.ofConnection
  rw [Link.flush, Link.flush, h.flushFailure]

theorem respects_sendText (text : String) : Respects Alike (sendText text) :=
  (respects_lift _).bind fun frame => (respects_writeAll frame).bind fun _ => respects_flush

theorem respects_text? : Respects Alike text? :=
  (respects_fill? 4).bind fun field => by
    cases field with
    | none => exact respects_pure none
    | some field =>
      exact (respects_lift _).bind fun size => (respects_fill? size).bind fun _ => respects_pure _

theorem respects_reply (withText : Bool) : Respects Alike (reply withText) :=
  (respects_fill? 4).bind fun status => by
    cases status with
    | none => exact respects_pure Reply.lost
    | some status =>
      simp only
      split
      · exact respects_pure _
      · exact respects_text?.bind fun text => by
          cases text with
          | none => exact respects_pure Reply.lost
          | some text => exact respects_pure _

theorem respects_okay : Respects Alike okay :=
  (respects_reply false).bind fun _ => respects_lift _

theorem respects_text : Respects Alike text :=
  (respects_fill 4 _).bind fun _ => (respects_lift _).bind fun size =>
    (respects_fill size _).bind fun _ => respects_pure _

theorem respects_scopeTo (serial : String) : Respects Alike (scopeTo serial) :=
  (respects_sendText _).bind fun _ => (respects_reply false).bind fun reply => by
    cases reply with
    | lost => exact respects_throw _
    | okay text => exact respects_pure ()
    | refused text =>
      simp only
      split
      · exact respects_throw _
      · exact respects_throw _

end Exchange

/-! ### Rows of framed operations -/

/-- A framed operation. -/
inductive SocketStep where
  | send (request : String)
  | reply (withText : Bool)
  | okay
  | text
  | scopeTo (serial : String)
  | readExact (size : Nat)
  | writeAll (bytes : Bytes)

/-- What a framed operation gives. -/
inductive SocketValue where
  | done
  | reply (reply : Reply)
  | text (text : String)
  | bytes (bytes : Bytes)

/-- What can be told of a link after an operation: what came of it, all that was written until
then, and whether the link is closed. -/
structure SocketRecord where
  result : Except Failure SocketValue
  written : Bytes
  closed : Bool

namespace SocketStep

open Run

/-- Does a framed operation. -/
def run : SocketStep → Exchange SocketValue
  | .send request => do
    Exchange.sendText request
    pure .done
  | .reply withText => do
    let answer ← Exchange.reply withText
    pure (.reply answer)
  | .okay => do
    Exchange.okay
    pure .done
  | .text => do
    let read ← Exchange.text
    pure (.text read)
  | .scopeTo serial => do
    Exchange.scopeTo serial
    pure .done
  | .readExact size => do
    let bytes ← Exchange.readExact size
    pure (.bytes bytes)
  | .writeAll bytes => do
    Exchange.writeAll bytes
    pure .done

/-- Does one operation after another, whatever comes of them. -/
def runAll : List SocketStep → Link → List SocketRecord × Link
  | [], link => ([], link)
  | step :: steps, link =>
    let out := step.run link
    let later := runAll steps out.2
    (⟨out.1, out.2.written.toList, out.2.closed⟩ :: later.1, later.2)

theorem respects_run (step : SocketStep) : Respects Link.Alike step.run := by
  cases step with
  | send request => exact (Exchange.respects_sendText request).bind fun _ => respects_pure _
  | reply withText => exact (Exchange.respects_reply withText).bind fun _ => respects_pure _
  | okay => exact Exchange.respects_okay.bind fun _ => respects_pure _
  | text => exact Exchange.respects_text.bind fun _ => respects_pure _
  | scopeTo serial => exact (Exchange.respects_scopeTo serial).bind fun _ => respects_pure _
  | readExact size => exact (Exchange.respects_fill size _).bind fun _ => respects_pure _
  | writeAll bytes => exact (Exchange.respects_writeAll bytes).bind fun _ => respects_pure _

/-- **A row of framed operations does not tell alike links apart.** -/
theorem runAll_alike (steps : List SocketStep) {link link' : Link} (h : link.Alike link') :
    (runAll steps link).1 = (runAll steps link').1 ∧
      (runAll steps link).2.Alike (runAll steps link').2 := by
  induction steps generalizing link link' with
  | nil => exact ⟨rfl, h⟩
  | cons step steps ih =>
    obtain ⟨hresult, hleft⟩ := step.respects_run link link' h
    obtain ⟨hrecords, hend⟩ := ih hleft
    refine ⟨?_, hend⟩
    simp only [runAll]
    rw [hresult, hleft.written, hleft.closed, hrecords]

end SocketStep

end DebugBridge
