import DebugBridge.Proofs.Messages
import DebugBridge.Proofs.Shell.NewlineStream
import DebugBridge.Shell.Run

/-!
# What a receiver is given

A run of a command goes round: it asks whether it is to stop, reads a piece of the output, searches
it, and hands it over. There are five ways out of that, and in each of them the receiver has been
given exactly the pieces of the rounds before, in order and once each. Only on the way out where
nothing failed it is told of the end.

* `Handed` — rounds that were gone through
* `Ended` — the five ways out
* `Progress.run_ended` — each run is rounds and one way out
* `run_delivers` — what that means for the output of a command
-/

namespace DebugBridge.Shell

variable {σ : Type} {receiver : Receiver σ} {cancelled : Cancelled} {p p' q : Progress σ}
  {pieces : List Bytes}

/-- The search of pieces, one after the other; where there is none, nothing is found. -/
def searchAll (scan : Option FailureScan) (pieces : List Bytes) :
    Except Failure (Option FailureScan) :=
  pieces.foldlM (fun scan piece => scan.mapM (·.feed piece)) scan

/-- Someone wants the run to stop when it asks next. -/
def Progress.CalledOff (receiver : Receiver σ) (cancelled : Cancelled) (p : Progress σ) : Prop :=
  cancelled p.asked = true ∨ receiver.stops p.state = true

/-- What has been done from `p` to `q`, in rounds that have handed over `pieces`. -/
structure Handed (receiver : Receiver σ) (cancelled : Cancelled) (p : Progress σ)
    (pieces : List Bytes) (q : Progress σ) : Prop where
  /-- The pieces are what the reads gave, one after the other. -/
  reads : NewlineStream.readEach (List.replicate pieces.length readSize) p.stream =
    (.ok pieces, q.stream)
  filled : [] ∉ pieces
  /-- The search has taken all of them. -/
  searched : searchAll p.scan pieces = .ok q.scan
  /-- The receiver was given all of them, and nothing else. -/
  state : q.state = pieces.foldl receiver.add p.state
  asked : q.asked = p.asked + pieces.length
  /-- Before each of them nobody wanted the run to stop. -/
  going : ∀ n < pieces.length, cancelled (p.asked + n) = false ∧
    receiver.stops ((pieces.take n).foldl receiver.add p.state) = false
  closed : q.closed = p.closed

/-- The ways out of a run that stands at `q` and asks whether it is to stop. -/
inductive Ended (receiver : Receiver σ) (cancelled : Cancelled) (q : Progress σ) :
    Except Failure Unit → Progress σ → Prop
  /-- It is to stop: nothing more is read, and the connection is closed. -/
  | cancelled (h : q.CalledOff receiver cancelled) :
    Ended receiver cancelled q (.error .cancelled) { q with closed := true }
  /-- The next read fails. -/
  | failed {e : IoFailure} {stream : NewlineStream} (hgoing : ¬ q.CalledOff receiver cancelled)
    (hread : q.stream.read readSize = (.error e, stream)) :
    Ended receiver cancelled q
      (.error (if e.kind = .timedOut ∨ e.kind = .wouldBlock then .deadline else .connection e))
      { q with stream, asked := q.asked + 1 }
  /-- The search finds a failure in the next piece. -/
  | rejected {piece : Bytes} {stream : NewlineStream} {e : Failure}
    (hgoing : ¬ q.CalledOff receiver cancelled)
    (hread : q.stream.read readSize = (.ok piece, stream)) (hne : piece ≠ [])
    (hscan : searchAll q.scan [piece] = .error e) :
    Ended receiver cancelled q (.error e) { q with stream, asked := q.asked + 1 }
  /-- The output is over, and the search finds a failure at its end. -/
  | rejectedAtEnd {stream : NewlineStream} {scan : FailureScan} {e : Failure}
    (hgoing : ¬ q.CalledOff receiver cancelled)
    (hread : q.stream.read readSize = (.ok [], stream)) (hsome : q.scan = some scan)
    (hscan : scan.finish = .error e) :
    Ended receiver cancelled q (.error e) { q with stream, asked := q.asked + 1 }
  /-- The output is over, and the receiver is told so. -/
  | finished {stream : NewlineStream} (hgoing : ¬ q.CalledOff receiver cancelled)
    (hread : q.stream.read readSize = (.ok [], stream))
    (hscan : ∀ scan, q.scan = some scan → scan.finish = .ok ()) :
    Ended receiver cancelled q (.ok ())
      { q with stream, asked := q.asked + 1, state := receiver.finish q.state }

/-! ## Rounds -/

theorem Handed.nil (p : Progress σ) : Handed receiver cancelled p [] p where
  reads := rfl
  filled := List.not_mem_nil
  searched := rfl
  state := rfl
  asked := rfl
  going n h := absurd h (Nat.not_lt_zero n)
  closed := rfl

/-- **One round before others.** -/
theorem Handed.cons {piece : Bytes} {stream : NewlineStream} {scan : Option FailureScan}
    (hgoing : ¬ p.CalledOff receiver cancelled)
    (hread : p.stream.read readSize = (.ok piece, stream)) (hne : piece ≠ [])
    (hscan : p.scan.mapM (·.feed piece) = .ok scan)
    (h : Handed receiver cancelled
      { p with stream, scan, state := receiver.add p.state piece, asked := p.asked + 1 } pieces q) :
    Handed receiver cancelled p (piece :: pieces) q where
  reads := NewlineStream.readEach_cons hread h.reads
  filled hmem := by
    rcases List.mem_cons.mp hmem with hnil | hmem
    · exact hne hnil.symm
    · exact h.filled hmem
  searched := by
    rw [searchAll, List.foldlM_cons, hscan]
    exact h.searched
  state := h.state
  asked := by
    rw [h.asked, List.length_cons]
    show p.asked + 1 + pieces.length = p.asked + (pieces.length + 1)
    omega
  going n hn := by
    cases n with
    | zero =>
      rw [Progress.CalledOff, not_or, Bool.not_eq_true, Bool.not_eq_true] at hgoing
      exact hgoing
    | succ n =>
      have hrest := h.going n (Nat.lt_of_succ_lt_succ hn)
      rw [Nat.add_right_comm] at hrest
      exact hrest
  closed := h.closed

theorem calledOff_iff : p.CalledOff receiver cancelled ↔
    (cancelled p.asked || receiver.stops p.state) = true := by
  rw [Progress.CalledOff, Bool.or_eq_true]

theorem ofConnection_eq (e : IoFailure) : Failure.ofConnection e =
    if e.kind = .timedOut ∨ e.kind = .wouldBlock then .deadline else .connection e := by
  simp only [Failure.ofConnection, IoFailure.isDeadline, Bool.or_eq_true, decide_eq_true_eq]

/-- **A run is rounds and one way out.** -/
theorem Progress.run_ended (receiver : Receiver σ) (cancelled : Cancelled) (p : Progress σ) :
    ∃ pieces q, Handed receiver cancelled p pieces q ∧
      Ended receiver cancelled q (p.run receiver cancelled).1 (p.run receiver cancelled).2 := by
  fun_induction Progress.run receiver cancelled p with
  | case1 p h => exact ⟨[], p, .nil p, .cancelled (calledOff_iff.mpr h)⟩
  | case2 p h e stream hread =>
    have hend := Ended.failed (mt calledOff_iff.mp h) hread
    rw [← ofConnection_eq] at hend
    exact ⟨[], p, .nil p, hend⟩
  | case3 p h stream hread _ e hscan =>
    cases hsome : p.scan with
    | none =>
      rw [show p.scan.elim (.ok ()) FailureScan.finish = .ok () by rw [hsome]; rfl] at hscan
      cases hscan
    | some scan =>
      refine ⟨[], p, .nil p, .rejectedAtEnd (mt calledOff_iff.mp h) hread hsome ?_⟩
      rw [← hscan, show p.scan.elim (.ok ()) FailureScan.finish = scan.finish by rw [hsome]; rfl]
  | case4 p h stream hread _ hscan =>
    refine ⟨[], p, .nil p, .finished (mt calledOff_iff.mp h) hread fun scan hsome => ?_⟩
    rw [← show p.scan.elim (.ok ()) FailureScan.finish = scan.finish by rw [hsome]; rfl]
    exact hscan
  | case5 p h b bytes stream hread _ e hscan =>
    refine ⟨[], p, .nil p, .rejected (mt calledOff_iff.mp h) hread (List.cons_ne_nil _ _) ?_⟩
    rw [searchAll, List.foldlM_cons, hscan]
    rfl
  | case6 p h b bytes stream hread _ scan hscan ih =>
    obtain ⟨pieces, q, hhanded, hended⟩ := ih
    exact ⟨_, q, hhanded.cons (mt calledOff_iff.mp h) hread (List.cons_ne_nil _ _) hscan, hended⟩

/-! ## The output of a command -/

/-- Where nothing is searched, no piece is rejected. -/
theorem searchAll_none (pieces : List Bytes) : searchAll none pieces = .ok none := by
  induction pieces with
  | nil => rfl
  | cons piece pieces ih => exact ih

/-- What comes before a command puts out anything. -/
def opening (command : String) (idle : Option Nat) : Exchange Unit := do
  Exchange.openStream (.shell command)
  Exchange.setDeadline .reading idle

/-- The output follows the acceptance. -/
theorem opening_bytes {command : String} {idle : Option Nat} {link opened : Link}
    (h : opening command idle link = (.ok (), opened)) :
    link.inflow.bytes = Reply.okayStatus ++ opened.inflow.bytes := by
  rw [opening, Run.bind_apply] at h
  cases ho : Exchange.openStream (.shell command) link with
  | mk result left =>
    rw [ho] at h
    cases result with
    | error e => cases h
    | ok u =>
      have hsame : (Exchange.setDeadline .reading idle left).2.inflow = left.inflow := rfl
      rw [show Exchange.setDeadline .reading idle left = (.ok (), opened) from h] at hsame
      rw [(Exchange.openStream_bytes ho).1, ← hsame]

/-- How a run of a command stands in front of its output. -/
def Progress.start (receiver : Receiver σ) (command : String) (state : σ) (output : Inflow) :
    Progress σ where
  stream := { inner := output }
  scan := if receiver.readsFailures then none else some { command := command.toList }
  state := state

/-- What the receiver of some output has been given when a run has ended. -/
structure Delivered (receiver : Receiver σ) (state : σ) (output : Bytes) (pieces : List Bytes)
    (q : Progress σ) (result : Except Failure Unit) (last : σ) : Prop where
  /-- It has been given a front of the output, line ends restored. -/
  front : pieces.flatten <+: NewlineStream.decode output
  /-- It has been given all of it once the end was found, whatever the search says then. -/
  whole : ∀ stream, q.stream.read readSize = (.ok [], stream) →
    pieces.flatten = NewlineStream.decode output
  /-- If the run succeeded, it was told of the end, behind all of the output. -/
  told : result = .ok () → pieces.flatten = NewlineStream.decode output ∧
    last = receiver.finish (pieces.foldl receiver.add state)
  /-- If the run failed, it was not told of the end. -/
  untold : ∀ e, result = .error e → last = pieces.foldl receiver.add state
  /-- If it looks for failures itself, the output does not make the run fail. -/
  unsearched : receiver.readsFailures = true → ∀ e, result = .error e →
    e = .cancelled ∨ e = .deadline ∨ ∃ cause, e = .connection cause

theorem Ended.delivered {command : String} {state : σ} {output : Inflow}
    {result : Except Failure Unit}
    (h : Handed receiver cancelled (.start receiver command state output) pieces q)
    (hended : Ended receiver cancelled q result p') :
    Delivered receiver state output.bytes pieces q result p'.state := by
  obtain ⟨taken, hgave⟩ := NewlineStream.readEach_gave h.reads
  have hall : pieces.flatten ++ NewlineStream.decode q.stream.unread =
      NewlineStream.decode output.bytes := hgave.unread
  have hwhole : ∀ stream, q.stream.read readSize = (.ok [], stream) →
      pieces.flatten = NewlineStream.decode output.bytes := by
    intro stream hread
    obtain ⟨-, -, -, hover⟩ := NewlineStream.read_gave hread
    have hnone := (hover (by decide) rfl).1
    rw [← hall, hnone]
    exact (List.append_nil _).symm
  -- there was no search in the beginning, and no round begins one
  have hscan : receiver.readsFailures = true → q.scan = none := by
    intro hreads
    have hsearched := h.searched
    rw [Progress.start, if_pos hreads, searchAll_none] at hsearched
    exact (Except.ok.inj hsearched).symm
  refine ⟨⟨_, hall⟩, hwhole, ?_, ?_, ?_⟩
  · rintro rfl
    cases hended with
    | finished _ hread _ => exact ⟨hwhole _ hread, congrArg receiver.finish h.state⟩
  · rintro e rfl
    cases hended with
    | cancelled => exact h.state
    | failed => exact h.state
    | rejected => exact h.state
    | rejectedAtEnd => exact h.state
  · rintro hreads e rfl
    cases hended with
    | cancelled => exact .inl rfl
    | failed =>
      split
      · exact .inr (.inl rfl)
      · exact .inr (.inr ⟨_, rfl⟩)
    | rejected _ _ _ hfound =>
      rw [hscan hreads, searchAll_none] at hfound
      cases hfound
    | rejectedAtEnd _ _ hsome _ =>
      rw [hscan hreads] at hsome
      cases hsome

/-- A command whose connection could not be opened. -/
theorem run_of_refused {receiver : Receiver σ} {cancelled : Cancelled} {command : String}
    {idle : Option Nat} {state : σ} {link left : Link} {e : Failure}
    (h : opening command idle link = (.error e, left)) :
    run receiver cancelled command idle state link = ((.error e, state), left) := by
  unfold opening at h
  unfold run
  simp only [ExceptT.run, h]

/-- A command whose connection was opened. -/
theorem run_of_opened {receiver : Receiver σ} {cancelled : Cancelled} {command : String}
    {idle : Option Nat} {state : σ} {link opened : Link}
    (h : opening command idle link = (.ok (), opened)) :
    run receiver cancelled command idle state link =
      let out := (Progress.start receiver command state opened.inflow).run receiver cancelled
      ((out.1, out.2.state),
        { opened with inflow := out.2.stream.inner, closed := opened.closed || out.2.closed }) := by
  unfold opening at h
  unfold run
  simp only [ExceptT.run, h]
  rfl

/--
**The output of a command is handed over piece by piece, in order, once each.**

Whatever the server sends and the caller does, either the connection could not be opened, and the
receiver has been given nothing, or the run has gone through rounds and has come out in one of five
ways. What the receiver has been given by then is a front of the output that follows the server's
acceptance, and all of it if the end was found. It is told of the end exactly if the run succeeded.
-/
theorem run_delivers (receiver : Receiver σ) (cancelled : Cancelled) (command : String)
    (idle : Option Nat) (state : σ) (link : Link) :
    (∃ e left, opening command idle link = (.error e, left) ∧
      run receiver cancelled command idle state link = ((.error e, state), left)) ∨
    ∃ opened, opening command idle link = (.ok (), opened) ∧
      link.inflow.bytes = Reply.okayStatus ++ opened.inflow.bytes ∧
      ∃ pieces q result p,
        Handed receiver cancelled (.start receiver command state opened.inflow) pieces q ∧
        Ended receiver cancelled q result p ∧
        run receiver cancelled command idle state link = ((result, p.state),
          { opened with inflow := p.stream.inner, closed := opened.closed || p.closed }) ∧
        Delivered receiver state opened.inflow.bytes pieces q result p.state := by
  cases hopen : opening command idle link with
  | mk result left =>
    cases result with
    | error e => exact .inl ⟨e, left, rfl, run_of_refused hopen⟩
    | ok u =>
      obtain ⟨pieces, q, hhanded, hended⟩ :=
        Progress.run_ended receiver cancelled (.start receiver command state left.inflow)
      exact .inr ⟨left, rfl, opening_bytes hopen, pieces, q, _, _, hhanded, hended,
        run_of_opened hopen, hended.delivered hhanded⟩

end DebugBridge.Shell
