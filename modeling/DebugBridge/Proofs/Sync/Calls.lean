import DebugBridge.Proofs.Sync.Life

/-!
# Rows of calls on a session

Whatever is asked of a session, one call after another, it has one life: a row of acts, and one end.
A call that is refused, because its path is too long, because the caller has cancelled or because the
session is closed, touches nothing: not the link, not the source, not the sink.

* `Transfer.push_refused`, `Transfer.pull_refused` — a transfer that is refused
* `SyncCall.runAll_lived`, `SyncCall.runAll_closed` — a row of calls on an open session, and on a
  closed one
* `SyncSession.ends_once` — all of these
-/

namespace DebugBridge

open SyncSession (maxPath Course)
open SyncAct (performAll)

variable {α : Type}

/-! ## Refusals -/

/-- Why a session does not begin what is asked of it. A path that is too long comes before a caller
who has cancelled, and both come before a session that is closed. -/
def SyncSession.refusal? (path : String) (stopped isOpen : Bool) : Option Failure :=
  if Utf8.size path > maxPath then some (.remotePathTooLong (Utf8.size path) maxPath)
  else if stopped then some .cancelled
  else if isOpen then none
  else some .sessionClosed

namespace SyncSession

theorem refusal?_closed {s : SyncSession} (hs : s.isOpen = false) (path : String)
    (stopped : Bool) : ∃ e, refusal? path stopped s.isOpen = some e := by
  rw [refusal?, hs]
  split
  · exact ⟨_, rfl⟩
  · split
    · exact ⟨_, rfl⟩
    · exact ⟨_, rfl⟩

theorem writeAll_closed {s : SyncSession} (hs : s.isOpen = false) (bytes : Bytes)
    (f : Unit → SessionRun α) : (writeAll bytes >>= f) s = (.error .sessionClosed, s) := by
  obtain ⟨link, _ | _⟩ := s
  · rfl
  · cases hs

/-- **A question that is refused** leaves the session as it is. -/
theorem question_refused {path : String} {s : SyncSession} {e : Failure}
    (h : refusal? path false s.isOpen = some e) (frame : Bytes) (f : Unit → SessionRun α) :
    ((checkPath path : SessionRun Unit) >>= fun _ => writeAll frame >>= f) s = (.error e, s) := by
  rw [checkPath_bind]
  rw [refusal?] at h
  split at h
  · next hlong =>
    cases h
    rw [if_pos hlong]
  · next hlong =>
    rw [if_neg hlong]
    cases hs : s.isOpen with
    | true => simp [hs] at h
    | false =>
      simp only [hs, Bool.false_eq_true, if_false, Option.some.injEq] at h
      rw [writeAll_closed hs, h]

theorem stat_refused {path : String} {s : SyncSession} {e : Failure}
    (h : refusal? path false s.isOpen = some e) : stat path s = (.error e, s) :=
  question_refused h _ _

theorem list_refused {path : String} {s : SyncSession} {e : Failure}
    (h : refusal? path false s.isOpen = some e) : list path s = (.error e, s) :=
  question_refused h _ _

end SyncSession

namespace Transfer

/-- What begins a transfer fails with the refusal, and does nothing but ask the caller. -/
theorem begin_refused {cancelled : Cancelled} {path : String} {t : Transfer} {e : Failure}
    (h : SyncSession.refusal? path (cancelled t.moment) t.session.isOpen = some e)
    {f : TransferRun α}
    (hclosed : ∀ t : Transfer, t.session.isOpen = false → f t = (.error .sessionClosed, t)) :
    ∃ moment, (begin cancelled path >>= fun _ => f) t = (.error e, { t with moment }) := by
  rw [begin_bind]
  rw [SyncSession.refusal?] at h
  split at h
  · next hlong =>
    cases h
    exact ⟨t.moment, if_pos hlong⟩
  · next hlong =>
    rw [if_neg hlong]
    refine ⟨{ t.moment with asked := t.moment.asked + 1 }, ?_⟩
    split at h
    · next hstop =>
      cases h
      exact if_pos hstop
    · next hstop =>
      rw [if_neg hstop]
      split at h
      · cases h
      · next hopen =>
        cases h
        exact hclosed _ (Bool.not_eq_true _ ▸ hopen)

/-- **A push that is refused** reads nothing of its source. -/
theorem push_refused {cancelled : Cancelled} {path : String} {t : Transfer} {e : Failure}
    (h : SyncSession.refusal? path (cancelled t.moment) t.session.isOpen = some e)
    (reporting : Reporting) (source : Inflow) (mode mtime : UInt32) :
    ∃ moment, push cancelled reporting source path mode mtime t =
      (.error e, source, { t with moment }) := by
  obtain ⟨moment, hr⟩ := begin_refused h (f := do
      needOpen
      onSession (SyncSession.request .send (sendHeader path mode))) fun t ht => by
    rw [Run.bind_apply, needOpen, ht]
    rfl
  exact ⟨moment, by rw [push, hr]⟩

/-- **A pull that is refused** gives nothing to its sink. -/
theorem pull_refused {cancelled : Cancelled} {path : String} {t : Transfer} {e : Failure}
    (h : SyncSession.refusal? path (cancelled t.moment) t.session.isOpen = some e)
    (reporting : Reporting) (sink : Sink) :
    ∃ moment, pull cancelled reporting path sink t = (.error e, sink, { t with moment }) := by
  obtain ⟨moment, hr⟩ := begin_refused h
    (f := onSession (SyncSession.request .receive path)) fun t ht => by
    obtain ⟨⟨link, _ | _⟩, moment, reports⟩ := t
    · rfl
    · cases ht
  exact ⟨moment, by rw [pull, hr]⟩

end Transfer

/-! ## Rows of calls -/

/-- A call on a session. -/
inductive SyncCall where
  | operation (step : SyncStep)
  | close

namespace SyncCall

/-- What a call makes of a session. -/
def run (s : SyncSession) : SyncCall → SyncSession
  | .operation step => (step.run s).2
  | .close => s.abort

/-- What one call after another makes of a session, whatever comes of them. -/
def runAll (calls : List SyncCall) (s : SyncSession) : SyncSession := calls.foldl run s

/-- **A call is a row of acts.** -/
theorem run_lived (call : SyncCall) (link : Link) :
    ∃ acts, (∀ act ∈ acts, act.Framed) ∧ Course link acts (call.run ⟨link, true⟩) := by
  cases call with
  | close => exact ⟨[], fun _ h => absurd h List.not_mem_nil, .ended⟩
  | operation step =>
    cases step with
    | stat path =>
      obtain ⟨acts, h⟩ := SyncSession.lives_stat path _ link rfl
      exact ⟨acts, h.framed, h.course⟩
    | list path =>
      obtain ⟨acts, h⟩ := SyncSession.lives_list path _ link rfl
      exact ⟨acts, h.framed, h.course⟩
    | push cancelled reporting source path mode mtime =>
      obtain ⟨acts, h⟩ := Transfer.lived_push cancelled reporting source path mode mtime
        (t := { session := ⟨link, true⟩ }) rfl
      exact ⟨acts, h.framed, h.course⟩
    | pull cancelled reporting path sink =>
      obtain ⟨acts, h⟩ := Transfer.lived_pull cancelled reporting path sink
        (t := { session := ⟨link, true⟩ }) rfl
      exact ⟨acts, h.framed, h.course⟩

/-- **A call on a closed session does nothing.** -/
theorem run_closed (call : SyncCall) {s : SyncSession} (hs : s.isOpen = false) : call.run s = s := by
  have hrefused := SyncSession.refusal?_closed hs
  cases call with
  | close =>
    obtain ⟨link, _ | _⟩ := s
    · rfl
    · cases hs
  | operation step =>
    cases step with
    | stat path =>
      obtain ⟨e, he⟩ := hrefused path false
      rw [run, SyncStep.run, SyncSession.stat_refused he]
    | list path =>
      obtain ⟨e, he⟩ := hrefused path false
      rw [run, SyncStep.run, SyncSession.list_refused he]
    | push cancelled reporting source path mode mtime =>
      obtain ⟨e, he⟩ := hrefused path (cancelled {})
      obtain ⟨moment, hr⟩ := Transfer.push_refused (t := { session := s }) he reporting source mode mtime
      rw [run, SyncStep.run, hr]
    | pull cancelled reporting path sink =>
      obtain ⟨e, he⟩ := hrefused path (cancelled {})
      obtain ⟨moment, hr⟩ := Transfer.pull_refused (t := { session := s }) he reporting sink
      rw [run, SyncStep.run, hr]

theorem runAll_closed (calls : List SyncCall) {s : SyncSession} (hs : s.isOpen = false) :
    runAll calls s = s := by
  induction calls with
  | nil => rfl
  | cons call calls ih => rw [runAll, List.foldl_cons, run_closed call hs, ← runAll, ih]

/-- **A row of calls is a row of acts.** -/
theorem runAll_lived (calls : List SyncCall) (link : Link) :
    ∃ acts, (∀ act ∈ acts, act.Framed) ∧
      Course link acts (runAll calls ⟨link, true⟩) := by
  induction calls generalizing link with
  | nil => exact ⟨[], fun _ h => absurd h List.not_mem_nil, .going rfl⟩
  | cons call calls ih =>
    obtain ⟨acts, hframed, hcourse⟩ := call.run_lived link
    rw [runAll, List.foldl_cons, ← runAll]
    generalize call.run ⟨link, true⟩ = s at hcourse
    cases hcourse with
    | @going left hdone =>
      obtain ⟨more, hmore, hrest⟩ := ih left
      exact ⟨acts ++ more, List.forall_mem_append.mpr ⟨hframed, hmore⟩, hrest.after hdone⟩
    | ended =>
      -- the session is over, and the calls behind do nothing
      rw [runAll_closed calls rfl]
      exact ⟨acts, hframed, .ended⟩

end SyncCall

/-- A frame of a session is not the one with which it hangs up. -/
theorem SyncFrame.ne_quit {frame : Bytes} (h : SyncFrame frame) :
    frame ≠ SyncCommand.quit.word 0 := by
  have hid : ∀ (command : SyncCommand) (word rest : Bytes), command ≠ .quit →
      command.id ++ word ++ rest ≠ SyncCommand.quit.word 0 := by
    intro command word rest hne heq
    have hfront := congrArg (fun bytes => SyncCommand.ofId? (bytes.take 4)) heq
    rw [List.append_assoc, SyncCommand.word,
      List.take_left' command.length_id, List.take_left' (SyncCommand.length_id .quit)] at hfront
    simp only [SyncCommand.ofId?_id, Option.some.injEq] at hfront
    exact hne hfront
  cases h with
  | stat => exact hid .stat _ _ (by decide)
  | list => exact hid .list _ _ (by decide)
  | receive => exact hid .receive _ _ (by decide)
  | send => exact hid .send _ _ (by decide)
  | data => exact hid .data _ _ (by decide)
  | done mtime =>
    rw [← List.append_nil (SyncCommand.done.word mtime)]
    exact hid .done _ [] (by decide)

/-- **A session ends once, and what it refuses touches nothing.**

A row of calls on an open session is a row of reads and frames, none of which is `QUIT`, up to the
first that fails. If the session is over then, or at the latest when it is dropped, `QUIT` was tried
once behind them and then the link was closed, once. A closed session stays as it is. A question or
a transfer that is refused leaves the session, its source, its sink and its reports as they are. -/
theorem SyncSession.ends_once :
    (∀ calls link, ∃ acts, (∀ act ∈ acts, act.Framed) ∧ .send (SyncCommand.quit.word 0) ∉ acts ∧
      (performAll acts link).2.closed = link.closed ∧
      Course link acts (SyncCall.runAll calls ⟨link, true⟩) ∧
      (SyncCall.runAll calls ⟨link, true⟩).abort = ⟨(performAll acts link).2.hangUp, false⟩) ∧
    (∀ calls link, SyncCall.runAll calls ⟨link, false⟩ = ⟨link, false⟩ ∧
      abort ⟨link, false⟩ = ⟨link, false⟩) ∧
    (∀ path (s : SyncSession) e, refusal? path false s.isOpen = some e →
      stat path s = (.error e, s) ∧ list path s = (.error e, s)) ∧
    ∀ path (cancelled : Cancelled) (t : Transfer) e,
      refusal? path (cancelled t.moment) t.session.isOpen = some e →
        (∀ reporting source mode mtime, ∃ moment,
          t.push cancelled reporting source path mode mtime =
            (.error e, source, { t with moment })) ∧
        ∀ reporting sink, ∃ moment,
          t.pull cancelled reporting path sink = (.error e, sink, { t with moment }) := by
  refine ⟨fun calls link => ?_, fun calls link => ⟨SyncCall.runAll_closed calls rfl, rfl⟩,
    fun path s e h => ⟨stat_refused h, list_refused h⟩, fun path cancelled t e h => ⟨?_, ?_⟩⟩
  · obtain ⟨acts, hframed, hcourse⟩ := SyncCall.runAll_lived calls link
    refine ⟨acts, hframed, fun hquit => (hframed _ hquit).ne_quit rfl,
      SyncAct.closed_performAll acts link, hcourse, hcourse.abort⟩
  · exact Transfer.push_refused h
  · exact Transfer.pull_refused h

/-- A session on which a device waits is asked for a file with a path that is too long, and to take
a file by a caller who has cancelled; a closed session is asked for the status of a file. -/
theorem SyncSession.ends_once_three_refusals :
    let t : Transfer := { session := ⟨{ inflow := .ofBytes (Utf8.ofString "DONE") }, true⟩ }
    let long := String.ofList (List.replicate 1025 'a')
    (∃ moment, t.pull (fun _ => true) .alone long {} =
        (.error (.remotePathTooLong 1025 1024), {}, { t with moment })) ∧
      (∃ moment, t.push (fun _ => true) .alone (.ofBytes [1]) "/a" 0o644 0 =
        (.error .cancelled, .ofBytes [1], { t with moment })) ∧
      stat "/a" ⟨t.session.link, false⟩ = (.error .sessionClosed, ⟨t.session.link, false⟩) := by
  intro t long
  have hlong : refusal? long true t.session.isOpen = some (.remotePathTooLong 1025 1024) := by
    decide +kernel
  exact ⟨(ends_once.2.2.2 long (fun _ => true) t _ hlong).2 .alone {},
    (ends_once.2.2.2 "/a" (fun _ => true) t _ rfl).1 .alone (.ofBytes [1]) 0o644 0,
    (ends_once.2.2.1 "/a" ⟨t.session.link, false⟩ _ rfl).1⟩

end DebugBridge
