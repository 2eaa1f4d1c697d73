import DebugBridge.Proofs.Sync.Alike
import DebugBridge.Proofs.Sync.Transfer

/-!
# The life of a session

All that an open session does on its link is a row of acts: it reads some bytes, or sends a frame.
The row ends with the first act that fails. When the session is over it hangs up: it tells the
device to quit, closes the link, and does nothing more.

`Lives` says this of one run. It is kept by running one thing after another, and the loops over the
blocks of a file or of a directory add row to row.

* `SyncSession.Course` — where a row of acts leaves a session
* `SyncSession.lives_stat`, `SyncSession.lives_list` — the questions
* `Transfer.lived_push`, `Transfer.lived_pull` — the transfers
-/

namespace DebugBridge

open SyncSession (maxPath maxChunk)

variable {α β : Type}

/-! ## Frames and acts -/

/-- The frames that a session sends before it hangs up. -/
inductive SyncFrame : Bytes → Prop
  | stat {path : String} : Utf8.size path ≤ maxPath →
      SyncFrame (SyncCommand.stat.block (Utf8.ofString path))
  | list {path : String} : Utf8.size path ≤ maxPath →
      SyncFrame (SyncCommand.list.block (Utf8.ofString path))
  | receive {path : String} : Utf8.size path ≤ maxPath →
      SyncFrame (SyncCommand.receive.block (Utf8.ofString path))
  | send {path : String} (mode : UInt32) : Utf8.size path ≤ maxPath →
      SyncFrame (SyncCommand.send.block (Utf8.ofString (Transfer.sendHeader path mode)))
  | data {piece : Bytes} : piece ≠ [] → piece.length ≤ maxChunk →
      SyncFrame (SyncCommand.data.block piece)
  | done (mtime : UInt32) : SyncFrame (SyncCommand.done.word mtime)

/-- What a session does on its link. -/
inductive SyncAct where
  | read (size : Nat)
  | send (frame : Bytes)

namespace SyncAct

/-- What is sent is a frame. -/
def Framed : SyncAct → Prop
  | .read _ => True
  | .send frame => SyncFrame frame

/-- Does an act; what was read does not matter here. -/
def perform : SyncAct → Exchange Unit
  | .read size => do
    let _ ← Exchange.readExact size
    pure ()
  | .send frame => Exchange.writeAll frame

/-- Does one act after another, up to the first that fails. -/
def performAll : List SyncAct → Exchange Unit
  | [] => pure ()
  | act :: acts => do
    act.perform
    performAll acts

theorem performAll_append (acts more : List SyncAct) :
    performAll (acts ++ more) = performAll acts >>= fun _ => performAll more := by
  induction acts with
  | nil => rfl
  | cons act acts ih => simp only [List.cons_append, performAll, ih, bind_assoc]

theorem performAll_after {acts : List SyncAct} {link left : Link}
    (h : performAll acts link = (.ok (), left)) (more : List SyncAct) :
    performAll (acts ++ more) link = performAll more left := by
  rw [performAll_append, Run.bind_apply, h]

/-- A read changes nothing of the link but what there is to read. -/
theorem perform_read (size : Nat) (link : Link) :
    ∃ inflow, ((SyncAct.read size).perform link).2 = { link with inflow } := by
  rw [perform, Run.bind_apply, Exchange.readExact, Exchange.fill]
  rcases Link.readExact_received size link with ⟨-, inflow, hr, -⟩ | ⟨-, e, inflow, hr⟩
  · exact ⟨inflow, by rw [hr]; rfl⟩
  · exact ⟨inflow, by rw [hr]⟩

/-- No act closes the link. -/
theorem closed_perform (act : SyncAct) (link : Link) : (act.perform link).2.closed = link.closed := by
  cases act with
  | read size =>
    obtain ⟨inflow, h⟩ := perform_read size link
    rw [h]
  | send frame => exact Link.closed_writeAll frame link

theorem closed_performAll (acts : List SyncAct) (link : Link) :
    (performAll acts link).2.closed = link.closed := by
  induction acts generalizing link with
  | nil => rfl
  | cons act acts ih =>
    have hact := act.closed_perform link
    rw [performAll, Run.bind_apply]
    split
    · next a left h =>
      rw [h] at hact
      rw [ih, hact]
    · next e left h =>
      rw [h] at hact
      exact hact

end SyncAct

open SyncAct (performAll)

/-- Tells the device to quit, whether it can be told or not, and closes the link. -/
def Link.hangUp (link : Link) : Link := (link.writeAll (SyncCommand.quit.word 0)).2.close

namespace SyncSession

/-! ## Lives -/

/-- What has become of a session that was open on `link` and has begun to do `acts`. -/
inductive Course (link : Link) (acts : List SyncAct) : SyncSession → Prop
  /-- All of them were done, and the session is open. -/
  | going {left : Link} : performAll acts link = (.ok (), left) → Course link acts ⟨left, true⟩
  /-- They were done up to the first that failed, and the session has hung up. -/
  | ended : Course link acts ⟨(performAll acts link).2.hangUp, false⟩

/-- A run on a session that was open on `link` has done `acts`, and does not succeed if the session
is over. -/
structure Lived (link : Link) (acts : List SyncAct) (out : Except Failure α × SyncSession) :
    Prop where
  framed : ∀ act ∈ acts, act.Framed
  course : Course link acts out.2
  failed : out.2.isOpen = false → ∃ e, out.1 = .error e

/-- All that a run does on the link of its session, which is `session`, is acts. -/
def Lives {σ : Type} (session : σ → SyncSession) (x : Run σ α) : Prop :=
  ∀ s link, session s = ⟨link, true⟩ → ∃ acts, Lived link acts ((x s).1, session (x s).2)

theorem Lived.idle (link : Link) (result : Except Failure α) :
    Lived link [] (result, ⟨link, true⟩) :=
  ⟨fun _ h => absurd h List.not_mem_nil, .going rfl, fun h => by cases h⟩

theorem Lived.hungUp (link : Link) (e : Failure) :
    Lived link [] ((.error e : Except Failure α), abort ⟨link, true⟩) :=
  ⟨fun _ h => absurd h List.not_mem_nil, .ended, fun _ => ⟨e, rfl⟩⟩

/-- Acts behind acts that were done. -/
theorem Course.after {link left : Link} {acts more : List SyncAct} {s : SyncSession}
    (h : Course left more s) (hdone : performAll acts link = (.ok (), left)) :
    Course link (acts ++ more) s := by
  cases h with
  | going hr =>
    refine .going ?_
    rw [SyncAct.performAll_after hdone, hr]
  | ended =>
    rw [← SyncAct.performAll_after hdone]
    exact .ended

/-- The end of a session, which comes at the latest when it is dropped. -/
theorem Course.abort {link : Link} {acts : List SyncAct} {s : SyncSession}
    (h : Course link acts s) : s.abort = ⟨(performAll acts link).2.hangUp, false⟩ := by
  cases h with
  | going hdone =>
    rw [hdone]
    rfl
  | ended => rfl

theorem Lived.andThen {link left : Link} {acts more : List SyncAct}
    {out : Except Failure α × SyncSession} (hframed : ∀ act ∈ acts, act.Framed)
    (h : performAll acts link = (.ok (), left)) (hlived : Lived left more out) :
    Lived link (acts ++ more) out := by
  exact ⟨List.forall_mem_append.mpr ⟨hframed, hlived.framed⟩, hlived.course.after h,
    hlived.failed⟩

/-- A run that succeeded left the session open. -/
theorem Lived.ok {link : Link} {acts : List SyncAct} {a : α} {s : SyncSession}
    (h : Lived link acts (.ok a, s)) :
    ∃ left, performAll acts link = (.ok (), left) ∧ s = ⟨left, true⟩ := by
  cases h.course with
  | going hr => exact ⟨_, hr, rfl⟩
  | ended =>
    obtain ⟨e, he⟩ := h.failed rfl
    cases he

/-- Behind a run that succeeded any result may be given. -/
theorem Lived.result {link : Link} {acts : List SyncAct} {a : α} {s : SyncSession}
    (h : Lived link acts (.ok a, s)) (result : Except Failure β) : Lived link acts (result, s) := by
  obtain ⟨left, hdone, rfl⟩ := h.ok
  exact ⟨h.framed, .going hdone, fun h => by cases h⟩

theorem Lived.error {link : Link} {acts : List SyncAct} {e : Failure} {s : SyncSession}
    (h : Lived link acts ((.error e : Except Failure α), s)) :
    Lived link acts ((.error e : Except Failure β), s) := ⟨h.framed, h.course, fun _ => ⟨e, rfl⟩⟩

variable {σ : Type} {session : σ → SyncSession}

/-- A run that does nothing. -/
theorem lives_return (result : Except Failure α) :
    Lives session (fun s => (result, s) : Run σ α) := by
  intro s link hs
  refine ⟨[], ?_⟩
  show Lived link [] (result, session s)
  rw [hs]
  exact .idle link result

theorem lives_pure (a : α) : Lives session (pure a) := lives_return (.ok a)

theorem lives_throw (e : Failure) : Lives session (throw e : Run σ α) := lives_return (.error e)

theorem lives_abandon (e : Failure) : Lives id (abandon e : SessionRun α) := by
  rintro s link (rfl : s = _)
  exact ⟨[], .hungUp link e⟩

/-- **Acts are done in order.** -/
theorem Lives.bind {x : Run σ α} {f : α → Run σ β} (hx : Lives session x)
    (hf : ∀ a, Lives session (f a)) : Lives session (x >>= f) := by
  intro s link hs
  obtain ⟨acts, h⟩ := hx s link hs
  rw [Run.bind_apply]
  cases hr : x s with
  | mk result s' =>
    rw [hr] at h
    cases result with
    | ok a =>
      obtain ⟨left, hdone, hs'⟩ := h.ok
      obtain ⟨more, hmore⟩ := hf a s' left hs'
      exact ⟨acts ++ more, hmore.andThen h.framed hdone⟩
    | error e => exact ⟨acts, h.error⟩

/-- **A step whose exchange is an act.** -/
theorem lives_step {x : Exchange α} (act : SyncAct) (hact : act.Framed)
    (hx : act.perform = x >>= fun _ => pure ()) : Lives id (step x) := by
  rintro s link (rfl : s = _)
  have hdone : performAll [act] link = (x >>= fun _ => pure () : Exchange Unit) link := by
    rw [performAll, performAll, hx, bind_assoc]
    rfl
  rw [Run.bind_apply] at hdone
  refine ⟨[act], List.forall_mem_singleton.mpr hact, ?_, ?_⟩
  · rw [step]
    cases hr : x link with
    | mk result left =>
      rw [hr] at hdone
      cases result with
      | ok a => exact .going hdone
      | error e =>
        have hended : Course link [act] ⟨(performAll [act] link).2.hangUp, false⟩ := .ended
        rwa [hdone] at hended
  · rw [step]
    cases x link with
    | mk result left =>
      cases result with
      | ok a => exact fun h => by cases h
      | error e => exact fun _ => ⟨e, rfl⟩

theorem lives_readExact (size : Nat) : Lives id (readExact size) :=
  lives_step (.read size) trivial rfl

theorem lives_writeAll {frame : Bytes} (h : SyncFrame frame) :
    Lives id (writeAll frame) :=
  lives_step (.send frame) h (bind_pure _).symm

theorem lives_readWord : Lives id readWord :=
  (lives_readExact 4).bind fun _ => lives_pure _

theorem lives_readLength (what : String) : Lives id (readLength what) :=
  lives_readWord.bind fun size => by
    split
    · exact lives_abandon _
    · exact lives_pure _

theorem lives_refusal : Lives id (refusal : SessionRun α) :=
  (lives_readLength _).bind fun size => (lives_readExact size).bind fun _ => lives_throw _

theorem lives_unexpected (front : Bytes) (expected : String) :
    Lives id (unexpected front expected : SessionRun α) := lives_abandon _

/-! ## Questions -/

/-- A path is checked before anything is done. -/
theorem lives_checkPath {path : String} {x : SessionRun α}
    (hx : Utf8.size path ≤ maxPath → Lives id x) :
    Lives id ((checkPath path : SessionRun Unit) >>= fun _ => x) := by
  rintro s link (rfl : s = _)
  rw [checkPath_bind]
  split
  · exact ⟨[], .idle link _⟩
  · next h => exact hx (Nat.le_of_not_lt h) _ link rfl

theorem lives_stat (path : String) : Lives id (stat path) :=
  lives_checkPath fun hp => (lives_writeAll (.stat hp)).bind fun _ =>
    (lives_readExact 4).bind fun front => by
      split
      · exact (lives_readExact 12).bind fun _ => lives_pure _
      · exact lives_refusal
      · exact lives_unexpected _ _

theorem lives_entryBody : Lives id entryBody :=
  (lives_readExact 16).bind fun body => by
    dsimp only
    split
    · exact lives_abandon _
    · exact (lives_readExact _).bind fun _ => lives_pure _

theorem lives_listPart : Lives id listPart :=
  (lives_readExact 4).bind fun front => by
    split
    · exact lives_entryBody.bind fun _ => lives_pure _
    · exact (lives_readExact 16).bind fun _ => lives_pure _
    · exact lives_refusal
    · exact lives_unexpected _ _

/-- The loop over the blocks of a directory. -/
theorem lives_listParts (entries : List FileEntry) : Lives id (listParts entries) := by
  rintro s link (hs : s = _)
  fun_induction listParts entries s generalizing link with
  | case1 entries s e s' h =>
    subst hs
    obtain ⟨acts, hlived⟩ := lives_listPart _ link rfl
    rw [h] at hlived
    exact ⟨acts, hlived.error⟩
  | case2 entries s s' h =>
    subst hs
    obtain ⟨acts, hlived⟩ := lives_listPart _ link rfl
    rw [h] at hlived
    obtain ⟨left, hdone, rfl⟩ := hlived.ok
    exact ⟨acts, hlived.framed, .going hdone, fun h => by cases h⟩
  | case3 entries s entry s' h _ ih =>
    subst hs
    obtain ⟨acts, hlived⟩ := lives_listPart _ link rfl
    rw [h] at hlived
    obtain ⟨left, hdone, rfl⟩ := hlived.ok
    obtain ⟨more, hmore⟩ := ih left rfl
    exact ⟨acts ++ more, hmore.andThen hlived.framed hdone⟩

theorem lives_list (path : String) : Lives id (list path) :=
  lives_checkPath fun hp => (lives_writeAll (.list hp)).bind fun _ => lives_listParts []

end SyncSession

namespace Transfer

open SyncSession

/-! ## Transfers -/

/-- What a run does on the session of a transfer. -/
theorem lives_onSession {x : SessionRun α} (hx : SyncSession.Lives id x) :
    Lives session (onSession x) := fun t link ht => hx t.session link ht

/-- A checkpoint does nothing, or hangs up. -/
theorem lives_checkpoint (cancelled : Cancelled) (reporting : Reporting) (moved : Nat) :
    Lives session (checkpoint cancelled reporting moved) := by
  intro t link ht
  refine ⟨[], ?_⟩
  unfold checkpoint
  split
  · next h =>
    obtain ⟨-, rfl⟩ := Prod.mk.inj h
    show Lived link [] (.error .cancelled, t.session.abort)
    rw [ht]
    exact .hungUp link .cancelled
  · next h =>
    obtain ⟨-, rfl⟩ := Prod.mk.inj h
    show Lived link [] (.ok (), t.session)
    rw [ht]
    exact .idle link (.ok ())

theorem lives_pushPiece (cancelled : Cancelled) (reporting : Reporting) (moved : Nat)
    {piece : Bytes} (hne : piece ≠ []) (hmax : piece.length ≤ maxChunk) :
    Lives session (pushPiece cancelled reporting moved piece) :=
  (lives_onSession (lives_writeAll (.data hne hmax))).bind fun _ => lives_checkpoint _ _ _

/-- The loop over the bytes of a source. -/
theorem lived_pushData (cancelled : Cancelled) (reporting : Reporting) (moved : Nat)
    (source : Inflow) {t : Transfer} {link : Link} (ht : t.session = ⟨link, true⟩) :
    ∃ acts, Lived link acts ((pushData cancelled reporting moved source t).1,
      (pushData cancelled reporting moved source t).2.2.session) := by
  fun_induction pushData cancelled reporting moved source t generalizing link with
  | case1 moved source t e source' h =>
    refine ⟨[], ?_⟩
    show Lived link [] (.error (.localFile e), t.session.abort)
    rw [ht]
    exact .hungUp link _
  | case2 moved source t source' h =>
    refine ⟨[], ?_⟩
    show Lived link [] (.ok moved, t.session)
    rw [ht]
    exact .idle link _
  | case3 moved source t b bytes source' h _ moved' block e t' =>
    rename_i hb
    obtain ⟨acts, hlived⟩ := lives_pushPiece cancelled reporting moved' (List.cons_ne_nil b bytes)
      (Inflow.readOn_ok h).1 t link ht
    rw [show pushPiece cancelled reporting moved' (b :: bytes) t = (.error e, t') from hb] at hlived
    exact ⟨acts, hlived.error⟩
  | case4 moved source t b bytes source' h _ moved' block t' =>
    rename_i hb ih
    obtain ⟨acts, hlived⟩ := lives_pushPiece cancelled reporting moved' (List.cons_ne_nil b bytes)
      (Inflow.readOn_ok h).1 t link ht
    rw [show pushPiece cancelled reporting moved' (b :: bytes) t = (.ok (), t') from hb] at hlived
    obtain ⟨left, hdone, hs⟩ := hlived.ok
    obtain ⟨more, hmore⟩ := ih hs
    exact ⟨acts ++ more, hmore.andThen hlived.framed hdone⟩

theorem lives_pushEnd (mtime : UInt32) : Lives id (pushEnd mtime) :=
  (lives_writeAll (.done mtime)).bind fun _ => (lives_readExact 4).bind fun front => by
    split
    · exact lives_readWord.bind fun _ => lives_pure ()
    · exact lives_refusal
    · exact lives_unexpected _ _

theorem lives_dataPart : Lives id dataPart := by
  have hbody : Lives id dataBody :=
    lives_readWord.bind fun size => by
      split
      · exact lives_abandon _
      · exact lives_readExact _
  refine (lives_readExact 4).bind fun front => ?_
  split
  · exact hbody.bind fun _ => lives_pure _
  · exact lives_readWord.bind fun _ => lives_pure _
  · exact lives_refusal
  · exact lives_unexpected _ _

/-- The loop over the blocks of a file. -/
theorem lived_pullData (cancelled : Cancelled) (reporting : Reporting) (moved : Nat) (sink : Sink)
    {t : Transfer} {link : Link} (ht : t.session = ⟨link, true⟩) :
    ∃ acts, Lived link acts ((pullData cancelled reporting moved sink t).1,
      (pullData cancelled reporting moved sink t).2.2.session) := by
  fun_induction pullData cancelled reporting moved sink t generalizing link with
  | case1 moved sink t e session hd =>
    obtain ⟨acts, hlived⟩ := lives_dataPart t.session link ht
    rw [hd] at hlived
    exact ⟨acts, hlived.error⟩
  | case2 moved sink t session hd e hflush =>
    obtain ⟨acts, hlived⟩ := lives_dataPart t.session link ht
    rw [hd] at hlived
    exact ⟨acts, hlived.result (.error (.localFile e))⟩
  | case3 moved sink t session hd hflush =>
    obtain ⟨acts, hlived⟩ := lives_dataPart t.session link ht
    rw [hd] at hlived
    exact ⟨acts, hlived.result (.ok moved)⟩
  | case4 moved sink t bytes session hd e sink' hs =>
    obtain ⟨acts, hlived⟩ := lives_dataPart t.session link ht
    rw [hd] at hlived
    exact ⟨acts, hlived.result (.error (.localFile e))⟩
  | case5 moved sink t bytes session hd sink' hs moved' e t' =>
    rename_i hc
    obtain ⟨acts, hlived⟩ := lives_dataPart t.session link ht
    rw [hd] at hlived
    obtain ⟨left, hdone, hsession⟩ := hlived.ok
    obtain ⟨more, hmore⟩ := lives_checkpoint cancelled reporting moved' { t with session } left hsession
    rw [hc] at hmore
    exact ⟨acts ++ more, hmore.error.andThen hlived.framed hdone⟩
  | case6 moved sink t bytes session hd sink' hs moved' t' =>
    rename_i hc _ ih
    obtain ⟨acts, hlived⟩ := lives_dataPart t.session link ht
    rw [hd] at hlived
    obtain ⟨left, hdone, hsession⟩ := hlived.ok
    obtain ⟨more, hmore⟩ := lives_checkpoint cancelled reporting moved' { t with session } left hsession
    rw [hc] at hmore
    obtain ⟨last, hdone', hs'⟩ := hmore.ok
    obtain ⟨rest, hrest⟩ := ih hs'
    exact ⟨acts ++ (more ++ rest), (hrest.andThen hmore.framed hdone').andThen hlived.framed hdone⟩

/-- What begins has a path that is not too long. -/
theorem lives_begin {cancelled : Cancelled} {path : String} {x : TransferRun α}
    (hx : Utf8.size path ≤ maxPath → Lives session x) :
    Lives session (begin cancelled path >>= fun _ => x) := by
  intro t link ht
  rw [begin_bind]
  split
  · refine ⟨[], ?_⟩
    rw [ht]
    exact .idle link _
  · next hp =>
    split
    · refine ⟨[], ?_⟩
      rw [session_ask, ht]
      exact .idle link _
    · exact hx (Nat.le_of_not_lt hp) _ link ht

theorem lives_needOpen : Lives session needOpen := by
  intro t link ht
  refine ⟨[], ?_⟩
  show Lived link [] (_, t.session)
  rw [ht]
  exact .idle link _

/-- **A push is a row of acts.** -/
theorem lived_push (cancelled : Cancelled) (reporting : Reporting) (source : Inflow)
    (path : String) (mode mtime : UInt32) {t : Transfer} {link : Link}
    (ht : t.session = ⟨link, true⟩) :
    ∃ acts, Lived link acts ((push cancelled reporting source path mode mtime t).1,
      (push cancelled reporting source path mode mtime t).2.2.session) := by
  have hheader : Lives session (do
      begin cancelled path
      needOpen
      onSession (SyncSession.request .send (sendHeader path mode)) : TransferRun Unit) :=
    lives_begin fun hp => lives_needOpen.bind fun _ => lives_onSession (lives_writeAll (.send mode hp))
  obtain ⟨acts, hlived⟩ := hheader t link ht
  rw [push]
  split
  · next e t' h =>
    rw [h] at hlived
    exact ⟨acts, hlived.error⟩
  · next t₁ h =>
    rw [h] at hlived
    obtain ⟨left, hdone, hs⟩ := hlived.ok
    obtain ⟨more, hmore⟩ := lived_pushData cancelled reporting 0 source hs
    split
    · next e source' t₂ hd =>
      rw [hd] at hmore
      exact ⟨acts ++ more, hmore.andThen hlived.framed hdone⟩
    · next moved source' t₂ hd =>
      rw [hd] at hmore
      obtain ⟨left', hdone', hs'⟩ := hmore.ok
      obtain ⟨rest, hrest⟩ := lives_onSession (lives_pushEnd mtime) t₂ left' hs'
      refine ⟨acts ++ (more ++ rest), ?_⟩
      have hall := (hrest.andThen hmore.framed hdone').andThen hlived.framed hdone
      split
      · next e t₃ he =>
        rw [he] at hall
        exact hall.error
      · next t₃ he =>
        rw [he] at hall
        exact hall.result (.ok moved)

/-- **A pull is a row of acts.** -/
theorem lived_pull (cancelled : Cancelled) (reporting : Reporting) (path : String) (sink : Sink)
    {t : Transfer} {link : Link} (ht : t.session = ⟨link, true⟩) :
    ∃ acts, Lived link acts ((pull cancelled reporting path sink t).1,
      (pull cancelled reporting path sink t).2.2.session) := by
  have hheader : Lives session (do
      begin cancelled path
      onSession (SyncSession.request .receive path) : TransferRun Unit) :=
    lives_begin fun hp => lives_onSession (lives_writeAll (.receive hp))
  obtain ⟨acts, hlived⟩ := hheader t link ht
  rw [pull]
  split
  · next e t' h =>
    rw [h] at hlived
    exact ⟨acts, hlived.error⟩
  · next t₁ h =>
    rw [h] at hlived
    obtain ⟨left, hdone, hs⟩ := hlived.ok
    obtain ⟨more, hmore⟩ := lived_pullData cancelled reporting 0 sink hs
    exact ⟨acts ++ more, hmore.andThen hlived.framed hdone⟩

end Transfer

end DebugBridge
