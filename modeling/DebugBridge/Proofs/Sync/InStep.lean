import DebugBridge.Proofs.Sync.Replies

/-!
# Sessions stay in step with the device

After an operation the next bytes on the connection are the answer to the next request, or the
session is closed. `Settled` names the three ways to get there. They hold whatever the connection
does, whatever the device sends, whatever the source of a push brings, and whenever the caller
cancels.

* `Settled.inStep` — a settled operation lost nothing: its failures have closed the session
* `stat_list_push_inStep` — the questions and the push are in step

A pull is not always; `PullInStep` says when.
-/

namespace DebugBridge

open SyncSession (maxChunk maxPath Fits Dropped Onward Accepts)

variable {α β : Type}

namespace SyncSession

/-- The ways in which an operation leaves the session `s` in step with the device. -/
inductive Settled (s : SyncSession) (request : Bytes → Prop)
    (answer : Except Failure α → Bytes → Prop) : Except Failure α × SyncSession → Prop
  /-- It failed and closed the session. -/
  | closed {e : Failure} {s' : SyncSession} : s'.isOpen = false →
      Settled s request answer (.error e, s')
  /-- It was refused or cancelled before it wrote or read anything. -/
  | untouched {e : Failure} : (∃ n, e = .remotePathTooLong n maxPath) ∨ e = .cancelled →
      Settled s request answer (.error e, s)
  /-- It wrote its whole request and read exactly one whole answer. -/
  | exchanged {result : Except Failure α} {s' : SyncSession} {sent front : Bytes} :
      s'.isOpen = true → request sent → s'.written = s.written ++ sent →
      answer result front → s.unread = front ++ s'.unread →
      Settled s request answer (result, s')

/-- An operation that leaves the session in step with the device. `breaks` holds of bytes that are
no whole answer. -/
structure InStep (s : SyncSession) (request : Bytes → Prop)
    (answer : Except Failure α → Bytes → Prop) (breaks : Bytes → Failure → Prop)
    (out : Except Failure α × SyncSession) : Prop where
  settled : Settled s request answer out
  /-- After a failure of the connection or of a local file the session is closed. -/
  lost : ∀ e, out.1 = .error e →
    e = .deadline ∨ (∃ c, e = .connection c) ∨ (∃ c, e = .localFile c) → out.2.isOpen = false
  /-- Cancelled on its way, it has closed the session. -/
  cancelled : out.1 = .error .cancelled → out.2.isOpen = false ∨ out.2 = s
  /-- Bytes that break close the session. -/
  broken : ∀ e, breaks s.unread e → out.2.isOpen = false ∨ out.2 = s

theorem Settled.inStep {s : SyncSession} {request : Bytes → Prop}
    {answer : Except Failure α → Bytes → Prop} {breaks : Bytes → Failure → Prop}
    {out : Except Failure α × SyncSession} (h : Settled s request answer out)
    (herror : ∀ e front, answer (.error e) front → ∃ text, e = .malformed text)
    (hbreaks : ∀ result front rest e, answer result front → ¬ breaks (front ++ rest) e) :
    InStep s request answer breaks out := by
  cases h with
  | closed hc =>
    exact ⟨.closed hc, fun _ _ _ => hc, fun _ => .inl hc, fun _ _ => .inl hc⟩
  | @untouched e he =>
    refine ⟨.untouched he, fun e' hout hloss => ?_, fun _ => .inr rfl, fun _ _ => .inr rfl⟩
    cases hout
    rcases he with ⟨n, rfl⟩ | rfl
    · rcases hloss with h | ⟨_, h⟩ | ⟨_, h⟩ <;> cases h
    · rcases hloss with h | ⟨_, h⟩ | ⟨_, h⟩ <;> cases h
  | @exchanged result s' sent front ho hs hw ha hu =>
    refine ⟨.exchanged ho hs hw ha hu, fun e hout hloss => ?_, fun hout => ?_, fun e hb => ?_⟩
    · -- an answer fails with a text only, never with a failure of the connection or of a file
      cases hout
      obtain ⟨text, rfl⟩ := herror e front ha
      rcases hloss with h | ⟨_, h⟩ | ⟨_, h⟩ <;> cases h
    · cases hout
      obtain ⟨text, h⟩ := herror _ front ha
      cases h
    · rw [hu] at hb
      exact absurd hb (hbreaks result front _ e ha)

end SyncSession

theorem Closing.map {command : SyncCommand} {n : Nat} {value : Bytes → α}
    {verdict : Except Failure α} {front : Bytes} (h : Closing command n value verdict front)
    (f : α → β) :
    Closing command n (fun words => f (value words)) (verdict.map f) front := by
  cases h with
  | value hl => exact .value hl
  | refusal hmax => exact .refusal hmax

/-- A refusal is the only way in which an answer ends with a failure. -/
theorem Closing.malformed {command : SyncCommand} {n : Nat} {value : Bytes → β} {e : Failure}
    {front : Bytes} (h : Closing command n value (.error e) front) :
    ∃ text, e = .malformed text := by
  cases h
  exact ⟨_, rfl⟩

namespace SyncSession

theorem Fits.settled {s : SyncSession} {request : Bytes} {ending : Ending α}
    {wanted : Bytes → Prop} {answer : Except Failure α → Bytes → Prop}
    {out : Except Failure α × SyncSession} (h : Fits s request ending out) (hw : wanted request)
    (ha : ∀ verdict rest, ending = .whole verdict rest →
      ∃ front, answer verdict front ∧ s.unread = front ++ rest) :
    Settled s wanted answer out := by
  cases h with
  | whole ho =>
    obtain ⟨front, ha, hu⟩ := ha _ _ rfl
    exact .exchanged ho.isOpen hw ho.written ha hu
  | broken he hc => exact .closed hc

theorem Dropped.settled {s : SyncSession} {wanted : Bytes → Prop}
    {answer : Except Failure α → Bytes → Prop} {out : Except Failure α × SyncSession}
    (h : Dropped s out) : Settled s wanted answer out := by
  obtain ⟨result, s'⟩ := out
  obtain ⟨e, rfl⟩ := h.failed
  exact .closed h.closed

theorem stat_settled {s : SyncSession} (hs : s.isOpen = true) (path : String) :
    Settled s (· = SyncCommand.stat.block (Utf8.ofString path))
      (Closing .stat 12 FileStat.ofBytes) (stat path s) := by
  by_cases hp : Utf8.size path ≤ maxPath
  · rcases stat_fits hs hp with hf | hd
    · exact hf.settled rfl fun verdict rest h => (SyncAnswer.front_closing (by decide)).mp h
    · exact hd.settled
  · rw [stat, checkPath_bind, if_pos (Nat.not_le.mp hp)]
    exact .untouched (.inl ⟨_, rfl⟩)

theorem list_settled {s : SyncSession} (hs : s.isOpen = true) (path : String) :
    Settled s (· = SyncCommand.list.block (Utf8.ofString path))
      (fun result front =>
        ∃ sent, SyncAnswer.listing.sending.Reply (·.map SentEntry.entry) sent result front)
      (list path s) := by
  by_cases hp : Utf8.size path ≤ maxPath
  · rcases list_fits hs hp with ⟨entries, ending, hparts, hf⟩ | hd
    · refine hf.settled rfl fun verdict rest h => ?_
      cases ending with
      | whole verdict' rest' =>
        cases h
        obtain ⟨sent, front, hw, rfl, hu⟩ := SyncAnswer.listing.sending.parts_whole.mp hparts
        exact ⟨front, ⟨sent, verdict', hw, rfl⟩, hu⟩
      | senseless e => cases h
      | cut => cases h
    · exact hd.settled
  · rw [list, checkPath_bind, if_pos (Nat.not_le.mp hp)]
    exact .untouched (.inl ⟨_, rfl⟩)

end SyncSession

namespace Transfer

theorem push_settled (cancelled : Cancelled) (reporting : Reporting) (source : Inflow)
    (path : String) (mode mtime : UInt32) {t : Transfer} (ht : t.session.isOpen = true)
    {out : Except Failure Nat × Inflow × Transfer}
    (h : push cancelled reporting source path mode mtime t = out) :
    SyncSession.Settled t.session (WholeRequest source path mode mtime)
      (Closing .okay 4 fun _ => source.bytes.length) (out.1, out.2.2.session) := by
  have hpushed := push_cases cancelled reporting source path mode mtime ht h
  obtain ⟨result, source', ⟨s', moment, reports⟩⟩ := out
  cases hpushed with
  | untouched he => exact .untouched (he.imp (fun h => ⟨_, h⟩) id)
  | closed hc => exact .closed hc
  | ended hwhole hfits =>
    refine hfits.settled hwhole fun verdict rest h => ?_
    cases hr : SyncAnswer.receipt.front t.session.unread with
    | whole verdict' rest' =>
      rw [hr] at h
      cases h
      obtain ⟨front, hclosing, hu⟩ := (SyncAnswer.front_closing (by decide)).mp hr
      exact ⟨front, hclosing.map fun _ => source.bytes.length, hu⟩
    | senseless e =>
      rw [hr] at h
      cases h
    | cut =>
      rw [hr] at h
      cases h

end Transfer

/-! ## Questions and pushes -/

namespace SyncAnswer

/-- A whole answer of one block does not break. -/
theorem Closing.not_breaks {command : SyncCommand} (hc : command ≠ .fail) {n : Nat}
    {value : Bytes → β} {expected : String} {verdict : Except Failure β} {front : Bytes}
    (h : Closing command n value verdict front) (rest : Bytes) (e : Failure) :
    ¬ (single command n value expected).Breaks (front ++ rest) e := by
  intro hb
  rw [breaks_iff, (front_closing hc).mpr ⟨front, h, rfl⟩] at hb
  cases hb

variable {γ : Type} {g : SyncAnswer (Option α)} (r : g.Sending γ)

/-- A whole answer of many blocks does not break. -/
theorem Sending.not_broken {xs xs' : List γ} {verdict : Except Failure Unit} {front : Bytes}
    (h : r.Whole xs verdict front) (rest : Bytes) (e : Failure) :
    ¬ r.Broken xs' (front ++ rest) e := by
  rintro ⟨hxs, tail, hu, hb⟩
  obtain ⟨ending, hp, he⟩ := r.parts_breaks.mpr ⟨xs', tail, hxs, rfl, hu, hb⟩
  obtain ⟨-, rfl⟩ := hp.unique (h.parts rest)
  cases he

theorem Sending.reply_malformed {value : List γ → β} {xs : List γ} {e : Failure} {front : Bytes}
    (h : r.Reply value xs (.error e) front) : ∃ text, e = .malformed text := by
  obtain ⟨ending, ⟨-, closing, hclosing, -⟩, he⟩ := h
  cases hclosing with
  | value hl => cases he
  | refusal hmax =>
    cases he
    exact ⟨_, rfl⟩

end SyncAnswer

namespace Transfer

/--
**Questions and pushes leave no open session out of step.**

Whatever the connection, the device, the source and the caller do: the operation closes the
session, or it wrote and read nothing, or it wrote its whole request and read one whole answer.
Failures of the connection and of the source, answers that break and cancelling on the way all close
the session.
-/
theorem stat_list_push_inStep {t : Transfer} (ht : t.session.isOpen = true) (path : String) :
    SyncSession.InStep t.session (· = SyncCommand.stat.block (Utf8.ofString path))
      (Closing .stat 12 FileStat.ofBytes) SyncAnswer.status.Breaks
      (SyncSession.stat path t.session) ∧
    SyncSession.InStep t.session (· = SyncCommand.list.block (Utf8.ofString path))
      (fun result front =>
        ∃ sent, SyncAnswer.listing.sending.Reply (·.map SentEntry.entry) sent result front)
      (fun bytes e => ∃ sent, SyncAnswer.listing.sending.Broken sent bytes e)
      (SyncSession.list path t.session) ∧
    ∀ (cancelled : Cancelled) (reporting : Reporting) (source : Inflow) (mode mtime : UInt32)
      (out : Except Failure Nat × Inflow × Transfer),
      push cancelled reporting source path mode mtime t = out →
      SyncSession.InStep t.session (WholeRequest source path mode mtime)
        (Closing .okay 4 fun _ => source.bytes.length) SyncAnswer.receipt.Breaks
        (out.1, out.2.2.session) := by
  refine ⟨?_, ?_, fun cancelled reporting source mode mtime out h => ?_⟩
  · refine (SyncSession.stat_settled ht path).inStep (fun e front ha => ha.malformed) ?_
    intro result front rest e ha
    exact SyncAnswer.Closing.not_breaks (by decide) ha rest e
  · refine (SyncSession.list_settled ht path).inStep ?_ ?_
    · rintro e front ⟨sent, ha⟩
      exact SyncAnswer.listing.sending.reply_malformed ha
    · rintro result front rest e ⟨sent, verdict, hw, -⟩ ⟨sent', hb⟩
      exact SyncAnswer.listing.sending.not_broken hw rest e hb
  · refine (push_settled cancelled reporting source path mode mtime ht h).inStep
      (fun e front ha => ha.malformed) ?_
    intro result front rest e ha
    exact SyncAnswer.Closing.not_breaks (by decide) (ha.map fun _ => ()) rest e

/-- A file is sent in one piece and refused, and the next answer stays unread. -/
theorem push_refused_inStep :
    ∃ (t : Transfer) (source : Inflow), t.session.isOpen = true ∧
      (t.session.unread = SyncCommand.fail.block [110, 111] ++ SyncCommand.okay.word 0) ∧
      SyncSession.Settled t.session (WholeRequest source "/f" 420 0)
        (Closing .okay 4 fun _ => source.bytes.length)
        ((push (fun _ => false) .alone source "/f" 420 0 t).1,
          (push (fun _ => false) .alone source "/f" 420 0 t).2.2.session) := by
  let inflow : Inflow := .ofBytes (SyncCommand.fail.block [110, 111] ++ SyncCommand.okay.word 0)
  refine ⟨{ session := { link := { inflow } } }, .ofBytes [97, 98], rfl, by decide, ?_⟩
  exact ((stat_list_push_inStep rfl "/f").2.2 (fun _ => false) .alone _ 420 0 _ rfl).settled

end Transfer

end DebugBridge
