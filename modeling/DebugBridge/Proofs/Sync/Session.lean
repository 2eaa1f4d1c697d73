import DebugBridge.Proofs.Link
import DebugBridge.Proofs.Sync.Grammar
import DebugBridge.Sync.Query
import DebugBridge.Sync.Transfer

/-!
# Sessions read by the grammar

Each step of an open session either goes on, and then it took exactly its bytes off the stream or
wrote exactly its bytes; or it fails, and then the session is closed. Step by step this says that
a session reads blocks as the grammar does: `Follows` is that statement for one run, and it is kept
by reading one thing after another.

A connection that fails may end any run in between. On a calm connection only the end of the stream
does, and the grammar sees that too.

* `Follows.readExact` — the step that all others are made of
* `follows_dataPart`, `follows_listPart`, `follows_statAnswer`, `follows_receiptAnswer` — the blocks
  of each answer
-/

namespace DebugBridge.SyncSession

open SyncAnswer (failure?)

variable {α β : Type}

/-- The bytes that are still to be read. -/
def unread (s : SyncSession) : Bytes := s.link.inflow.bytes

/-- The bytes that were written. -/
def written (s : SyncSession) : Bytes := s.link.written.toList

/-- The session `s` has come to `s'` in good order, and has written `request` on the way. -/
structure Onward (s s' : SyncSession) (request : Bytes) : Prop where
  isOpen : s'.isOpen = true
  written : s'.written = s.written ++ request
  calm : s.link.Calm → s'.link.Calm

theorem Onward.refl {s : SyncSession} (hs : s.isOpen = true) : Onward s s [] :=
  ⟨hs, (List.append_nil _).symm, id⟩

theorem Onward.trans {s s' s'' : SyncSession} {a b : Bytes} (h : Onward s s' a)
    (h' : Onward s' s'' b) : Onward s s'' (a ++ b) :=
  ⟨h'.isOpen, by rw [h'.written, h.written, List.append_assoc], fun hc => h'.calm (h.calm hc)⟩

/-- The connection failed and took the session with it. -/
structure Dropped (s : SyncSession) (out : Except Failure α × SyncSession) : Prop where
  disturbed : ¬ s.link.Calm
  closed : out.2.isOpen = false
  failed : ∃ e, out.1 = .error e

/-! ## Steps -/

@[simp] theorem isOpen_abort (s : SyncSession) : s.abort.isOpen = false := by
  rcases s with ⟨link, _ | _⟩
  · rfl
  · rfl

theorem step_open {x : Exchange α} {s : SyncSession} (hs : s.isOpen = true) :
    step x s = match x s.link with
      | (.ok a, link) => (.ok a, ⟨link, true⟩)
      | (.error e, link) => (.error e, abort ⟨link, true⟩) := by
  obtain ⟨link, _ | _⟩ := s
  · cases hs
  · rfl

/-- **A read takes its bytes, or closes the session.** -/
theorem readExact_cases {s : SyncSession} (hs : s.isOpen = true) (n : Nat) :
    (∃ front s', readExact n s = (.ok front, s') ∧ front.length = n ∧
      s.unread = front ++ s'.unread ∧ Onward s s' []) ∨
    ∃ e s', readExact n s = (.error e, s') ∧ s'.isOpen = false ∧
      (s.link.Calm → s.unread.length < n ∧ e = .connectionClosed "reading frame") := by
  rw [readExact, step_open hs, Exchange.readExact, Exchange.fill]
  cases hr : s.link.readExact n with
  | mk result link =>
    cases result with
    | ok front =>
      obtain ⟨hl, inflow, rfl, hb⟩ := Link.bytes_readExact hr
      refine .inl ⟨front, _, rfl, hl, hb.symm, rfl, (List.append_nil _).symm, fun hc => ?_⟩
      have := hc.readExact n
      rwa [hr] at this
    | error e =>
      -- on a calm connection only the end of the stream stops a read
      refine .inr ⟨_, _, rfl, isOpen_abort _, fun hc => ?_⟩
      by_cases hn : s.unread.length < n
      · have := Link.readExact_short hc hn
        rw [hr] at this
        cases this
        exact ⟨hn, rfl⟩
      · obtain ⟨out, ho⟩ := Link.readExact_calm hc (Nat.le_of_not_lt hn)
        rw [hr] at ho
        cases ho

/-- **A write adds its bytes, or closes the session.** -/
theorem writeAll_cases {s : SyncSession} (hs : s.isOpen = true) (bytes : Bytes) :
    (∃ s', writeAll bytes s = (.ok (), s') ∧ s'.unread = s.unread ∧ Onward s s' bytes) ∨
    ∃ e s', writeAll bytes s = (.error e, s') ∧ s'.isOpen = false ∧ ¬ s.link.Calm := by
  rw [writeAll, step_open hs, Exchange.writeAll, Exchange.call]
  cases hr : s.link.writeAll bytes with
  | mk result link =>
    cases result with
    | ok u =>
      refine .inl ⟨_, rfl, ?_, rfl, Link.written_writeAll hr, fun hc => ?_⟩
      · have := Link.inflow_writeAll bytes s.link
        rw [hr] at this
        exact congrArg Inflow.bytes this
      · have := (hc.writeAll bytes).2
        rwa [hr] at this
    | error e =>
      refine .inr ⟨_, _, rfl, isOpen_abort _, fun hc => ?_⟩
      have := (hc.writeAll bytes).1
      rw [hr] at this
      cases this

/-! ## Runs that follow the grammar -/

/-- What a run on `s` came to is what the grammar says: the verdict on something whole, after
`request` was written, or a failure that closes the session. -/
inductive Fits (s : SyncSession) (request : Bytes) :
    Ending α → Except Failure α × SyncSession → Prop
  | whole {verdict : Except Failure α} {s' : SyncSession} :
      Onward s s' request → Fits s request (.whole verdict s'.unread) (verdict, s')
  | broken {ending : Ending α} {e : Failure} {s' : SyncSession} :
      failure? ending = some e → s'.isOpen = false → Fits s request ending (.error e, s')

/-- What a run on `s` came to is what the grammar says about the unread bytes, unless the connection
failed before. -/
def Follows (read : Bytes → Ending α) (s : SyncSession) (out : Except Failure α × SyncSession) :
    Prop := Fits s [] (read s.unread) out ∨ Dropped s out

theorem Fits.map {s s' : SyncSession} {request : Bytes} {ending : Ending α}
    {verdict : Except Failure α} (h : Fits s request ending (verdict, s')) (f : α → β) :
    Fits s request (ending.map f) (verdict.map f, s') := by
  cases h with
  | whole ho => exact @Fits.whole _ s request (verdict.map f) s' ho
  | broken he hc =>
    cases ending with
    | whole verdict rest => cases he
    | senseless e' =>
      cases he
      exact .broken rfl hc
    | cut =>
      cases he
      exact .broken rfl hc

theorem Onward.fits {s s' : SyncSession} {request more : Bytes} (h : Onward s s' request)
    {ending : Ending α} {out : Except Failure α × SyncSession} (hf : Fits s' more ending out) :
    Fits s (request ++ more) ending out := by
  cases hf with
  | whole h' => exact .whole (h.trans h')
  | broken he hc => exact .broken he hc

/-- A run that writes nothing more, behind a request. -/
theorem Onward.fits_answer {s s' : SyncSession} {request : Bytes} (h : Onward s s' request)
    {ending : Ending α} {out : Except Failure α × SyncSession} (hf : Fits s' [] ending out) :
    Fits s request ending out := by
  rw [← List.append_nil request]
  exact h.fits hf

theorem Onward.dropped {s s' : SyncSession} {request : Bytes} (h : Onward s s' request)
    {out : Except Failure α × SyncSession} (hd : Dropped s' out) : Dropped s out :=
  ⟨fun hc => hd.disturbed (h.calm hc), hd.closed, hd.failed⟩

/-- A request, and then a run that reads the same bytes; or the connection fails at once. -/
theorem writeAll_bind {s : SyncSession} (hs : s.isOpen = true) (bytes : Bytes)
    (f : Unit → SessionRun α) :
    (∃ s', (writeAll bytes >>= f) s = f () s' ∧ s'.unread = s.unread ∧ Onward s s' bytes) ∨
      Dropped s ((writeAll bytes >>= f) s) := by
  rw [Run.bind_apply]
  rcases writeAll_cases hs bytes with ⟨s', hw, hu, ho⟩ | ⟨e, s', hw, hc, hd⟩
  · rw [hw]
    exact .inl ⟨s', rfl, hu, ho⟩
  · rw [hw]
    exact .inr ⟨hd, hc, e, rfl⟩

theorem Dropped.error {s s' : SyncSession} {e : Failure}
    (h : Dropped s ((.error e : Except Failure α), s')) :
    Dropped s ((.error e : Except Failure β), s') := ⟨h.disturbed, h.closed, e, rfl⟩

/-- A run that succeeded has read something whole. -/
theorem Follows.whole {read : Bytes → Ending α} {s s' : SyncSession} {a : α}
    (h : Follows read s (.ok a, s')) :
    read s.unread = .whole (.ok a) s'.unread ∧ Onward s s' [] := by
  rcases h with h | h
  · generalize he : read s.unread = ending at h
    cases h with
    | whole ho => exact ⟨rfl, ho⟩
  · obtain ⟨e, he⟩ := h.failed
    cases he

/-- **A read of `n` bytes follows the grammar that takes `n` bytes**, and what comes after the read
goes on with what comes after them. -/
theorem Follows.readExact {n : Nat} {next : Bytes → Bytes → Ending α} {f : Bytes → SessionRun α}
    {s : SyncSession} (hs : s.isOpen = true)
    (h : ∀ front s', s'.isOpen = true → Follows (next front) s' (f front s')) :
    Follows (Ending.take n next) s ((SyncSession.readExact n >>= f) s) := by
  rw [Run.bind_apply]
  rcases readExact_cases hs n with ⟨front, s', hr, hl, hu, ho⟩ | ⟨e, s', hr, hc, hcalm⟩
  · rw [hr, Follows, hu, Ending.take_append hl]
    rcases h front s' ho.isOpen with hf | hd
    · exact .inl (ho.fits hf)
    · exact .inr (ho.dropped hd)
  · rw [hr]
    -- a failed read is the grammar's `cut`, unless the connection itself is to blame
    by_cases hcs : s.link.Calm
    · obtain ⟨hn, rfl⟩ := hcalm hcs
      refine .inl (.broken ?_ hc)
      rw [Ending.take_short hn, failure?]
    · exact .inr ⟨hcs, hc, e, rfl⟩

theorem Follows.verdict {s : SyncSession} (hs : s.isOpen = true) (verdict : Except Failure α) :
    Follows (fun rest => .whole verdict rest) s (verdict, s) := .inl (.whole (.refl hs))

theorem Follows.abandon (e : Failure) (s : SyncSession) :
    Follows (fun _ => (.senseless e : Ending α)) s (SyncSession.abandon e s) :=
  .inl (.broken rfl (isOpen_abort s))

/-! ## One block -/

theorem abandon_bind (e : Failure) (f : α → SessionRun β) : abandon e >>= f = abandon e := by
  funext s
  rw [Run.bind_apply]
  rfl

/-- Reads a block after its command. -/
def readBlock (k : SyncBlock α) : SessionRun α := do
  let head ← readExact k.head
  if k.announced head > maxChunk then abandon (k.overlong (k.announced head))
  else do
    let body ← readExact (k.announced head)
    fun s => (k.value head body, s)

theorem follows_readBlock {s : SyncSession} (hs : s.isOpen = true) (k : SyncBlock α) :
    Follows k.read s (readBlock k s) := by
  refine Follows.readExact hs fun head s' hs' => ?_
  by_cases hmax : k.announced head > maxChunk
  · rw [if_pos hmax]
    simp only [if_pos hmax]
    exact .abandon _ s'
  · rw [if_neg hmax]
    simp only [if_neg hmax]
    exact .readExact hs' fun body s'' hs'' => .verdict hs'' _

/-- A block of a fixed length is read at once. -/
theorem follows_fixed {s : SyncSession} (hs : s.isOpen = true) (n : Nat) (value : Bytes → α) :
    Follows (SyncBlock.fixed n value).read s
      ((do let bytes ← readExact n; pure (value bytes) : SessionRun α) s) := by
  have hread : (SyncBlock.fixed n value).read =
      Ending.take n fun bytes rest => .whole (.ok (value bytes)) rest := by
    unfold SyncBlock.read
    congr 1
  rw [hread]
  exact .readExact hs fun bytes s' hs' => .verdict hs' _

/-- A run that fails for too many bytes does so whatever comes behind it. -/
theorem limit_bind {size : Nat} {e : Failure} {x : SessionRun α} {f : α → SessionRun β} :
    (if size > maxChunk then abandon e else x) >>= f =
      if size > maxChunk then abandon e else x >>= f := by
  split
  · exact abandon_bind e f
  · rfl

/-- A refusal is a block. -/
theorem refusal_eq : (refusal : SessionRun α) = readBlock .refusal := by
  simp only [refusal, readLength, readWord, bind_assoc, pure_bind, limit_bind]
  rfl

theorem dataBody_eq :
    (do let bytes ← Transfer.dataBody; pure (some bytes) : SessionRun (Option Bytes)) =
      readBlock .data := by
  simp only [Transfer.dataBody, readWord, bind_assoc, pure_bind, limit_bind]
  rfl

theorem entryBody_eq :
    (do let entry ← entryBody; pure (some entry) : SessionRun (Option FileEntry)) =
      readBlock .entry := by
  simp only [entryBody, bind_assoc, pure_bind, limit_bind]
  rfl

/-- A run that reads a command and goes on with its block follows the grammar of an answer, if it
gives up on all other commands. -/
theorem follows_front {g : SyncAnswer α} {f : Bytes → SessionRun α} {s : SyncSession}
    (hs : s.isOpen = true)
    (hknown : ∀ c k s', g.kind c = some k → s'.isOpen = true → Follows k.read s' (f c.id s'))
    (hother : ∀ id, (SyncCommand.ofId? id).bind g.kind = none → f id = abandon (g.surprise id)) :
    Follows g.front s ((readExact 4 >>= f) s) := by
  refine Follows.readExact hs fun id s' hs' => ?_
  split
  · next k hk =>
    obtain ⟨c, hc, hk⟩ := Option.bind_eq_some_iff.mp hk
    rw [← SyncCommand.id_of_ofId? hc]
    exact hknown c k s' hk hs'
  · next hk =>
    rw [hother id hk]
    exact .abandon _ s'

/-- A command that an answer may not bring is none of those that it may bring. -/
theorem ofId?_ne {g : SyncAnswer α} {id : Bytes} {c : SyncCommand} {k : SyncBlock α}
    (hother : (SyncCommand.ofId? id).bind g.kind = none) (hk : g.kind c = some k) :
    SyncCommand.ofId? id ≠ some c := by
  intro h
  rw [h, Option.bind_some, hk] at hother
  cases hother

/-- **A block of a file is read by the grammar.** -/
theorem follows_dataPart {s : SyncSession} (hs : s.isOpen = true) :
    Follows SyncAnswer.content.front s (Transfer.dataPart s) := by
  refine follows_front hs (fun c k s' hk hs' => ?_) (fun id hid => ?_)
  · simp only [SyncCommand.ofId?_id]
    cases c <;> cases hk
    · rw [dataBody_eq]
      exact follows_readBlock hs' _
    · simp only [readWord, bind_assoc, pure_bind]
      exact follows_fixed hs' 4 _
    · rw [refusal_eq]
      exact follows_readBlock hs' _
  · split
    · next h => exact absurd h (ofId?_ne (g := .content) (c := .data) hid rfl)
    · next h => exact absurd h (ofId?_ne (g := .content) (c := .done) hid rfl)
    · next h => exact absurd h (ofId?_ne (g := .content) (c := .fail) hid rfl)
    · rfl

/-- **A block of a directory is read by the grammar.** -/
theorem follows_listPart {s : SyncSession} (hs : s.isOpen = true) :
    Follows SyncAnswer.listing.front s (listPart s) := by
  refine follows_front hs (fun c k s' hk hs' => ?_) (fun id hid => ?_)
  · simp only [SyncCommand.ofId?_id]
    cases c <;> cases hk
    · rw [entryBody_eq]
      exact follows_readBlock hs' _
    · exact follows_fixed hs' 16 _
    · rw [refusal_eq]
      exact follows_readBlock hs' _
  · split
    · next h => exact absurd h (ofId?_ne (g := .listing) (c := .entry) hid rfl)
    · next h => exact absurd h (ofId?_ne (g := .listing) (c := .done) hid rfl)
    · next h => exact absurd h (ofId?_ne (g := .listing) (c := .fail) hid rfl)
    · rfl

/-- The answer to `stat`. -/
def statAnswer : SessionRun FileStat := do
  let id ← readExact 4
  match SyncCommand.ofId? id with
  | some .stat =>
    let body ← readExact 12
    pure (.ofBytes body)
  | some .fail => refusal
  | _ => unexpected id "STAT"

/-- **A status is read by the grammar.** -/
theorem follows_statAnswer {s : SyncSession} (hs : s.isOpen = true) :
    Follows SyncAnswer.status.front s (statAnswer s) := by
  refine follows_front hs (fun c k s' hk hs' => ?_) (fun id hid => ?_)
  · simp only [SyncCommand.ofId?_id]
    cases c <;> cases hk
    · exact follows_fixed hs' 12 _
    · rw [refusal_eq]
      exact follows_readBlock hs' _
  · split
    · next h => exact absurd h (ofId?_ne (g := .status) (c := .stat) hid rfl)
    · next h => exact absurd h (ofId?_ne (g := .status) (c := .fail) hid rfl)
    · rfl

/-- The answer to a file that was sent. -/
def receiptAnswer : SessionRun Unit := do
  let id ← readExact 4
  match SyncCommand.ofId? id with
  | some .okay =>
    let _ ← readWord
    pure ()
  | some .fail => refusal
  | _ => unexpected id "OKAY or FAIL"

/-- **A receipt is read by the grammar.** -/
theorem follows_receiptAnswer {s : SyncSession} (hs : s.isOpen = true) :
    Follows SyncAnswer.receipt.front s (receiptAnswer s) := by
  refine follows_front hs (fun c k s' hk hs' => ?_) (fun id hid => ?_)
  · simp only [SyncCommand.ofId?_id]
    cases c <;> cases hk
    · simp only [readWord, bind_assoc, pure_bind]
      exact follows_fixed hs' 4 _
    · rw [refusal_eq]
      exact follows_readBlock hs' _
  · split
    · next h => exact absurd h (ofId?_ne (g := .receipt) (c := .okay) hid rfl)
    · next h => exact absurd h (ofId?_ne (g := .receipt) (c := .fail) hid rfl)
    · rfl

end DebugBridge.SyncSession
