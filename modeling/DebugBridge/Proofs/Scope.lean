import DebugBridge.Client
import DebugBridge.Network
import DebugBridge.Proofs.Frame
import DebugBridge.Proofs.Messages
import DebugBridge.Proofs.Sync.Calls

/-!
# Nothing is asked of the wrong device

An operation on a device has a connection of its own. It names the device and waits; only when the
server has accepted that, it sends its request and waits again; only when that is accepted too, it
goes on. So whatever the server sends, and wherever a read or a write fails, a request never goes
out on a connection that was not turned over to its device.

* `Exchange.ask_said` — one request and its reply
* `Exchange.openVia_opening` — two of them in a row
* `DeviceOperation.opens` — every operation starts with these two
* `DeviceOperation.scoped_run` — what a network sees of an operation
-/

namespace DebugBridge

variable {α β : Type}

/-- The frame of a text that is short enough. -/
def Frame.ofText (text : String) : Bytes :=
  lengthField text.utf8ByteSize ++ Utf8.ofString text

namespace Exchange

open Link (received)

/-! ## Listening -/

/-- A run that only reads. -/
def Listens (x : Exchange α) : Prop := ∀ link, ∃ inflow, (x link).2 = { link with inflow }

theorem listens_return (result : Except Failure α) :
    Listens (fun link => (result, link) : Exchange α) := fun link => ⟨link.inflow, rfl⟩

theorem Listens.bind {x : Exchange α} {f : α → Exchange β} (hx : Listens x)
    (hf : ∀ a, Listens (f a)) : Listens (x >>= f) := by
  intro link
  obtain ⟨inflow, h⟩ := hx link
  rw [Run.bind_apply]
  split
  · next a link' hr =>
    rw [hr] at h
    obtain ⟨inflow', h'⟩ := hf a link'
    refine ⟨inflow', ?_⟩
    rw [h', show link' = { link with inflow } from h]
  · next e link' hr =>
    rw [hr] at h
    exact ⟨inflow, h⟩

theorem listens_fill? (size : Nat) : Listens (fill? size) := by
  intro link
  rcases fill?_received size link with ⟨-, inflow, hr, -⟩ | ⟨-, result, inflow, hr, -⟩
  · exact ⟨inflow, by rw [hr]⟩
  · exact ⟨inflow, by rw [hr]⟩

theorem listens_text? : Listens text? := by
  refine (listens_fill? 4).bind fun field => ?_
  split
  · exact listens_return (.ok none)
  · refine Listens.bind (listens_return _) fun size => ?_
    exact (listens_fill? size).bind fun payload => listens_return (.ok _)

theorem listens_reply (withText : Bool) : Listens (reply withText) := by
  refine (listens_fill? 4).bind fun status => ?_
  split
  · exact listens_return (.ok Reply.lost)
  · split
    · exact listens_return (.ok (Reply.okay ""))
    · refine listens_text?.bind fun text => ?_
      split
      · exact listens_return (.ok Reply.lost)
      · exact listens_return (.ok _)

/-- A reply that accepts was the four letters in front. -/
theorem reply_okay_received {link link' : Link} {text : String}
    (h : reply false link = (.ok (.okay text), link')) :
    link.received.take 4 = Reply.okayStatus ∧ link'.received = link.received.drop 4 := by
  have hokay : okay link = (.ok (), link') := by
    rw [okay, Run.bind_apply, h]
    rfl
  rcases okay_received link with ⟨hs, inflow, hr, hleft⟩ | ⟨-, e, he⟩
  · rw [hokay] at hr
    obtain ⟨-, rfl⟩ := Prod.mk.inj hr
    exact ⟨hs, hleft⟩
  · rw [hokay] at he
    cases he

/-! ## One request -/

/-- What became of a request with one reply. -/
structure Asked (text : String) (link : Link) (out : Except Failure Unit × Link) : Prop where
  /-- A front of its frame was written. -/
  said : ∃ k, out.2.written.toList = link.written.toList ++ (Frame.ofText text).take k
  /-- It is accepted only if its frame was written whole and the next four bytes are `OKAY`. -/
  accepted : out.1 = .ok () →
    out.2.written.toList = link.written.toList ++ Frame.ofText text ∧
      link.received.take 4 = Reply.okayStatus ∧ out.2.received = link.received.drop 4
  /-- It is not written at all if it is too long. -/
  refused : Frame.maxSize < text.utf8ByteSize → ∃ e, out = (.error e, link)

/-- What sending a request that is short enough comes to. -/
theorem send_eq {request : Request} (h : request.text.utf8ByteSize ≤ Frame.maxSize) (link : Link) :
    send request link = (writeAll (Frame.ofText request.text) >>= fun _ => flush) link := by
  rw [send, sendText, Frame.encode_eq, if_pos h]
  rfl

/-- A request that was sent was written whole. -/
theorem send_said (request : Request) (link : Link) :
    (∃ k, (send request link).2.written.toList =
      link.written.toList ++ (Frame.ofText request.text).take k) ∧
    ((send request link).1 = .ok () →
      (send request link).2.written.toList = link.written.toList ++ Frame.ofText request.text) := by
  by_cases hfits : request.text.utf8ByteSize ≤ Frame.maxSize
  · rw [send_eq hfits, Run.bind_apply, writeAll, call]
    have hfront := Link.written_writeAll_take (Frame.ofText request.text) link
    cases hw : link.writeAll (Frame.ofText request.text) with
    | mk result left =>
      rw [hw] at hfront
      cases result with
      | ok u => exact ⟨hfront, fun _ => Link.written_writeAll hw⟩
      | error e => exact ⟨hfront, fun h => by cases h⟩
  · rw [send, Frame.sendText_long (Nat.lt_of_not_le hfits)]
    exact ⟨⟨0, (List.append_nil _).symm⟩, fun h => by cases h⟩

/-- A judge of replies does not touch the link, and accepts only an acceptance. -/
structure Judges (judge : Reply → Exchange Unit) : Prop where
  still : ∀ reply link, (judge reply link).2 = link
  strict : ∀ reply link, (judge reply link).1 = .ok () → ∃ text, reply = .okay text

theorem Judges.answer {judge : Reply → Exchange Unit} (h : Judges judge) {link left : Link}
    (hok : (reply false >>= judge) link = (.ok (), left)) :
    link.received.take 4 = Reply.okayStatus ∧ left.received = link.received.drop 4 := by
  rw [Run.bind_apply] at hok
  cases hr : reply false link with
  | mk result link₁ =>
    rw [hr] at hok
    cases result with
    | error e => cases hok
    | ok answer =>
      have hsame := h.still answer link₁
      have hstrict := h.strict answer link₁
      rw [show judge answer link₁ = (.ok (), left) from hok] at hsame hstrict
      obtain ⟨text, rfl⟩ := hstrict rfl
      obtain rfl : left = link₁ := hsame
      exact reply_okay_received hr

theorem Judges.listens {judge : Reply → Exchange Unit} (h : Judges judge) :
    Listens (reply false >>= judge) :=
  (listens_reply false).bind fun answer link => ⟨link.inflow, h.still answer link⟩

/-- **A request is written before its reply is read.** -/
theorem ask_said {request : Request} {judge : Reply → Exchange Unit} (h : Judges judge)
    (link : Link) :
    Asked request.text link ((send request >>= fun _ => reply false >>= judge) link) := by
  obtain ⟨⟨k, hk⟩, hwhole⟩ := send_said request link
  have hkept := (send_kept request link).received
  rw [Run.bind_apply]
  cases hs : send request link with
  | mk result left =>
    rw [hs] at hk hwhole hkept
    have hlong : Frame.maxSize < request.text.utf8ByteSize →
        ∃ e, (result, left) = (.error e, link) := by
      intro hlong
      rw [← hs, send, Frame.sendText_long hlong]
      exact ⟨_, rfl⟩
    cases result with
    | error e =>
      refine ⟨⟨k, hk⟩, nofun, fun hsize => ?_⟩
      obtain ⟨e', he⟩ := hlong hsize
      cases he
      exact ⟨e, rfl⟩
    | ok u =>
      show Asked request.text link ((reply false >>= judge) left)
      -- what follows only reads, so what was written stays
      obtain ⟨inflow, hi⟩ := h.listens left
      refine ⟨⟨k, by rw [hi]; exact hk⟩, fun hok => ⟨by rw [hi]; exact hwhole rfl, ?_⟩,
        fun hsize => ?_⟩
      · rw [← hkept]
        exact h.answer (Prod.ext hok rfl)
      · obtain ⟨e, he⟩ := hlong hsize
        cases he

theorem scopeTo_said (serial : String) (link : Link) :
    Asked (Request.transport serial).text link (scopeTo serial link) := by
  refine ask_said ⟨fun answer link => ?_, fun answer link hok => ?_⟩ link
  · cases answer with
    | lost => rfl
    | okay text => rfl
    | refused text =>
      simp only
      split
      · rfl
      · rfl
  · cases answer with
    | lost => cases hok
    | okay text => exact ⟨text, rfl⟩
    | refused text =>
      simp only at hok
      split at hok
      · cases hok
      · cases hok

theorem openStream_said (request : Request) (link : Link) :
    Asked request.text link (openStream request link) := by
  refine ask_said ⟨fun answer link => rfl, fun answer link hok => ?_⟩ link
  cases answer with
  | lost => cases hok
  | okay text => exact ⟨text, rfl⟩
  | refused text => cases hok

/-! ## Two requests in a row -/

/-- How far opening a stream on a device has come. -/
inductive Opening (serial : String) (request : Request) (link : Link) :
    Except Failure Unit × Link → Prop
  /-- The connection was not turned over. -/
  | unscoped {e : Failure} {left : Link} {front : Bytes} :
      left.written.toList = link.written.toList ++ front →
      front <+: Frame.ofText (Request.transport serial).text →
      (Frame.maxSize < (Request.transport serial).text.utf8ByteSize → front = []) →
      Opening serial request link (.error e, left)
  /-- It was, and the request was not accepted. -/
  | unopened {e : Failure} {left : Link} {front : Bytes} :
      left.written.toList =
        link.written.toList ++ Frame.ofText (Request.transport serial).text ++ front →
      front <+: Frame.ofText request.text →
      (Frame.maxSize < request.text.utf8ByteSize → front = []) →
      (Request.transport serial).text.utf8ByteSize ≤ Frame.maxSize →
      Reply.okayStatus <+: link.received →
      Opening serial request link (.error e, left)
  /-- Both were accepted. -/
  | opened {left : Link} :
      left.written.toList = link.written.toList ++ Frame.ofText (Request.transport serial).text ++
        Frame.ofText request.text →
      (Request.transport serial).text.utf8ByteSize ≤ Frame.maxSize →
      request.text.utf8ByteSize ≤ Frame.maxSize →
      Reply.okayStatus ++ Reply.okayStatus <+: link.received →
      Opening serial request link (.ok (), left)

/-- A request that was accepted is short enough. -/
theorem Asked.fits {text : String} {link left : Link} (h : Asked text link (.ok (), left)) :
    text.utf8ByteSize ≤ Frame.maxSize := by
  refine Nat.le_of_not_lt fun hlong => ?_
  obtain ⟨e, he⟩ := h.refused hlong
  cases he

/-- A request that is too long is not written at all. -/
theorem Asked.front {text : String} {link : Link} {out : Except Failure Unit × Link}
    (h : Asked text link out) :
    ∃ front, out.2.written.toList = link.written.toList ++ front ∧ front <+: Frame.ofText text ∧
      (Frame.maxSize < text.utf8ByteSize → front = []) := by
  by_cases hlong : Frame.maxSize < text.utf8ByteSize
  · obtain ⟨e, rfl⟩ := h.refused hlong
    exact ⟨[], (List.append_nil _).symm, List.nil_prefix, fun _ => rfl⟩
  · obtain ⟨k, hk⟩ := h.said
    exact ⟨_, hk, List.take_prefix k _, fun hsize => absurd hsize hlong⟩

/-- **The second request is written after the first was accepted.** -/
theorem openVia_opening (serial : String) (request : Request) (link : Link) :
    Opening serial request link (openVia (some serial) request link) := by
  have hscope := scopeTo_said serial link
  rw [openVia]
  simp only
  rw [Run.bind_apply]
  cases hs : scopeTo serial link with
  | mk result turned =>
    rw [hs] at hscope
    cases result with
    | error e =>
      obtain ⟨front, hwritten, hfront, hlong⟩ := hscope.front
      exact .unscoped hwritten hfront hlong
    | ok u =>
      obtain ⟨hwhole, hokay, hleft⟩ := hscope.accepted rfl
      have hconfirmed : Reply.okayStatus <+: link.received := by
        rw [← hokay]
        exact List.take_prefix 4 _
      have hask := openStream_said request turned
      show Opening serial request link (openStream request turned)
      cases ho : openStream request turned with
      | mk result left =>
        rw [ho] at hask
        cases result with
        | error e =>
          obtain ⟨front, hwritten, hfront, hlong⟩ := hask.front
          rw [hwhole] at hwritten
          exact .unopened hwritten hfront hlong hscope.fits hconfirmed
        | ok u =>
          obtain ⟨hwritten, hokay', -⟩ := hask.accepted rfl
          rw [hwhole] at hwritten
          refine .opened hwritten hscope.fits hask.fits ?_
          -- the four letters behind the first four
          rw [hleft] at hokay'
          rw [← List.take_append_drop 4 link.received, hokay]
          refine List.prefix_append_right_inj _ |>.mpr ?_
          rw [← hokay']
          exact List.take_prefix 4 _

end Exchange

/-! ## Connections of their own -/

/-- Using a connection of its own makes one attempt, whatever comes of it. -/
theorem Network.use_eq (f : Link → Except Failure α × Link) (net : Network) :
    Network.use f net = match net.coming with
      | [] => (.error net.beyond, { net with past := net.past.push none })
      | .error e :: rest => (.error e, { net with coming := rest, past := net.past.push none })
      | .ok link :: rest =>
        ((f link).1, { net with coming := rest, past := net.past.push (some (f link).2) }) := by
  obtain ⟨coming, beyond, past⟩ := net
  cases coming with
  | nil => rfl
  | cons attempt rest =>
    cases attempt with
    | error e => rfl
    | ok link =>
      rw [use, Run.bind_apply, dial]
      simp only
      rw [Run.bind_apply]
      rcases f link with ⟨e | a, left⟩
      · rfl
      · rfl

/-! ## Operations on a device -/

/-- An operation on a device; a sync session is a row of calls, and is dropped behind them. -/
inductive DeviceOperation : Type 1 where
  | reboot (target : String)
  | shell {σ : Type} (receiver : Receiver σ) (state : σ) (cancelled : Shell.Cancelled)
    (command : String) (idle : Option Nat)
  | shellStream (command : String)
  | exec (command : String)
  | sync (calls : List SyncCall)

namespace DeviceOperation

open Exchange (Opening openVia)
open SyncAct (performAll)

/-- The request that goes to the device. -/
def request : DeviceOperation → Request
  | .reboot target => .reboot target
  | .shell _ _ _ command _ => .shell command
  | .shellStream command => .shell command
  | .exec command => .exec command
  | .sync _ => .sync

/-- Does an operation on a connection. -/
def onLink (serial : String) : DeviceOperation → Link → Except Failure Unit × Link
  | .reboot target => Client.reboot serial target
  | .shell receiver state cancelled command idle => fun link =>
    let (result, left) := Client.shell receiver cancelled serial command idle state link
    (result.1, left)
  | .shellStream command => Client.stream serial (.shell command)
  | .exec command => Client.stream serial (.exec command)
  | .sync calls => Client.session serial fun s => (.ok (), SyncCall.runAll calls s)

/-- Does an operation over the network. -/
def run (serial : String) (operation : DeviceOperation) : NetworkRun Unit :=
  Network.use (operation.onLink serial)

/-- The bytes of a row of frames that a session writes one after another. A frame whose write fails
is cut, and then the session hangs up: it tries to write `QUIT`. -/
def SyncBytes (bytes : Bytes) : Prop :=
  ∃ (frames : List Bytes) (cut last : Bytes), (∀ frame ∈ frames, SyncFrame frame) ∧
    (∃ frame, SyncFrame frame ∧ cut <+: frame) ∧ last <+: SyncCommand.quit.word 0 ∧
    bytes = frames.flatten ++ cut ++ last

/-- What an operation may write behind its request. -/
def Behind : DeviceOperation → Bytes → Prop
  | .sync _ => SyncBytes
  | _ => fun bytes => bytes = []

/-! ### What comes behind the request -/

/-- What a row of acts writes. -/
theorem written_performAll {acts : List SyncAct} (h : ∀ act ∈ acts, act.Framed) (link : Link) :
    ∃ (frames : List Bytes) (cut : Bytes), (∀ frame ∈ frames, SyncFrame frame) ∧
      (∃ frame, SyncFrame frame ∧ cut <+: frame) ∧
      (performAll acts link).2.written.toList = link.written.toList ++ (frames.flatten ++ cut) := by
  have hnone : ∃ frame, SyncFrame frame ∧ [] <+: frame := ⟨_, .done 0, List.nil_prefix⟩
  induction acts generalizing link with
  | nil => exact ⟨[], [], fun _ h => absurd h List.not_mem_nil, hnone, (List.append_nil _).symm⟩
  | cons act acts ih =>
    obtain ⟨hact, hacts⟩ := List.forall_mem_cons.mp h
    rw [SyncAct.performAll, Run.bind_apply]
    cases act with
    | read size =>
      obtain ⟨inflow, hi⟩ := SyncAct.perform_read size link
      cases hp : (SyncAct.read size).perform link with
      | mk result left =>
        rw [hp] at hi
        obtain rfl : left = { link with inflow } := hi
        cases result with
        | ok u => exact ih hacts { link with inflow }
        | error e => exact ⟨[], [], fun _ h => absurd h List.not_mem_nil, hnone, (List.append_nil _).symm⟩
    | send frame =>
      obtain ⟨k, hk⟩ := link.written_writeAll_take frame
      rw [SyncAct.perform, Exchange.writeAll, Exchange.call]
      cases hw : link.writeAll frame with
      | mk result left =>
        rw [hw] at hk
        cases result with
        | ok u =>
          obtain ⟨frames, cut, hframes, hcut, hwritten⟩ := ih hacts left
          refine ⟨frame :: frames, cut, List.forall_mem_cons.mpr ⟨hact, hframes⟩, hcut, ?_⟩
          rw [List.flatten_cons, List.append_assoc, ← List.append_assoc, ← Link.written_writeAll hw]
          exact hwritten
        | error e =>
          exact ⟨[], frame.take k, fun _ h => absurd h List.not_mem_nil,
            ⟨frame, hact, List.take_prefix k frame⟩, hk⟩

/-- **A sync session writes sync frames.** -/
theorem written_session (calls : List SyncCall) (link : Link) :
    ∃ behind, SyncBytes behind ∧
      (SyncCall.runAll calls ⟨link, true⟩).abort.link.written.toList =
        link.written.toList ++ behind := by
  obtain ⟨acts, hframed, hcourse⟩ := SyncCall.runAll_lived calls link
  obtain ⟨frames, cut, hframes, hcut, hwritten⟩ := written_performAll hframed link
  obtain ⟨k, hk⟩ := (performAll acts link).2.written_writeAll_take (SyncCommand.quit.word 0)
  refine ⟨_, ⟨frames, cut, (SyncCommand.quit.word 0).take k, hframes, hcut, List.take_prefix k _,
    rfl⟩, ?_⟩
  rw [hcourse.abort]
  show (((performAll acts link).2.writeAll (SyncCommand.quit.word 0)).2).written.toList = _
  rw [hk, hwritten, List.append_assoc]

/-- What follows the acceptance of a shell command: its output is read, and nothing is written. -/
def readOutput {σ : Type} (receiver : Receiver σ) (state : σ) (cancelled : Shell.Cancelled)
    (command : String) (idle : Option Nat) : Exchange Unit := do
  Exchange.setDeadline .reading idle
  fun link =>
    let scan := if receiver.readsFailures then none else some { command := command.toList }
    let (result, p) := Shell.Progress.run receiver cancelled
      { stream := { inner := link.inflow }, scan, state }
    (result, { link with inflow := p.stream.inner, closed := link.closed || p.closed })

theorem shell_eq {σ : Type} (receiver : Receiver σ) (state : σ) (cancelled : Shell.Cancelled)
    (command : String) (idle : Option Nat) (serial : String) :
    (DeviceOperation.shell receiver state cancelled command idle).onLink serial =
      (openVia (some serial) (.shell command) >>= fun _ =>
        readOutput receiver state cancelled command idle) := by
  funext link
  have hstart : ∀ (link : Link), ExceptT.run (do
      Exchange.openStream (.shell command)
      Exchange.setDeadline .reading idle) link =
        match Exchange.openStream (.shell command) link with
        | (.ok _, left) => Exchange.setDeadline .reading idle left
        | (.error e, left) => (.error e, left) := by
    intro link
    rw [ExceptT.run, Run.bind_apply]
    rcases Exchange.openStream (.shell command) link with ⟨e | u, left⟩
    · rfl
    · rfl
  rw [onLink, openVia]
  simp only [Client.shell, Shell.run, hstart, bind_assoc]
  rw [Run.bind_apply]
  rcases Exchange.scopeTo serial link with ⟨e | u, turned⟩
  · rfl
  · simp only
    rw [Run.bind_apply]
    rcases Exchange.openStream (.shell command) turned with ⟨e | u, left⟩
    · rfl
    · simp only [readOutput]
      rw [Run.bind_apply]
      rcases Exchange.setDeadline .reading idle left with ⟨e | u, last⟩
      · rfl
      · rfl

theorem written_readOutput {σ : Type} (receiver : Receiver σ) (state : σ)
    (cancelled : Shell.Cancelled) (command : String) (idle : Option Nat) (link : Link) :
    (readOutput receiver state cancelled command idle link).2.written = link.written := by
  have hdeadline : (Exchange.setDeadline .reading idle link).2.written = link.written := rfl
  rw [readOutput, Run.bind_apply]
  split
  · next left h =>
    rw [h] at hdeadline
    exact hdeadline
  · next e left h =>
    rw [h] at hdeadline
    exact hdeadline

/-- **Every operation starts with the two requests**, and goes on only behind both acceptances. -/
theorem opens (operation : DeviceOperation) (serial : String) :
    ∃ after : Exchange Unit,
      operation.onLink serial = (openVia (some serial) operation.request >>= fun _ => after) ∧
      ∀ left, ∃ behind, operation.Behind behind ∧
        (after left).2.written.toList = left.written.toList ++ behind := by
  cases operation with
  | reboot target =>
    refine ⟨pure (), ?_, fun left => ⟨[], rfl, (List.append_nil _).symm⟩⟩
    rw [bind_pure]
    rfl
  | shell receiver state cancelled command idle =>
    refine ⟨_, shell_eq receiver state cancelled command idle serial, fun left => ⟨[], rfl, ?_⟩⟩
    rw [written_readOutput, List.append_nil]
  | shellStream command =>
    refine ⟨pure (), ?_, fun left => ⟨[], rfl, (List.append_nil _).symm⟩⟩
    rw [bind_pure]
    rfl
  | exec command =>
    refine ⟨pure (), ?_, fun left => ⟨[], rfl, (List.append_nil _).symm⟩⟩
    rw [bind_pure]
    rfl
  | sync calls =>
    refine ⟨fun left => (.ok (), (SyncCall.runAll calls ⟨left, true⟩).abort.link), ?_, ?_⟩
    · funext link
      have hstart : (do Exchange.scopeTo serial; SyncSession.start) =
          openVia (some serial) .sync := rfl
      rw [Run.bind_apply]
      simp only [onLink, Client.session, hstart, request]
      rcases openVia (some serial) .sync link with ⟨e | u, left⟩
      · rfl
      · rfl
    · exact fun left => written_session calls left

/-! ### What a connection and a network see -/

/-- What an operation on the device `serial` may do on a connection on which `heard` can be read:
`said` is what it writes, and `opened` whether it succeeds. -/
structure Scoped (operation : DeviceOperation) (serial : String) (heard said : Bytes)
    (opened : Prop) : Prop where
  ordered : ∃ behind, operation.Behind behind ∧
    said <+: Frame.ofText (Request.transport serial).text ++
      Frame.ofText operation.request.text ++ behind
  /-- Nothing is written behind the first frame unless it was written whole and accepted. -/
  confirmed : (Frame.ofText (Request.transport serial).text).length < said.length →
    Frame.ofText (Request.transport serial).text <+: said ∧ Reply.okayStatus <+: heard
  /-- Nothing is written behind the second frame, and nothing is opened, unless it was written whole
  and accepted too. -/
  accepted : (Frame.ofText (Request.transport serial).text ++
      Frame.ofText operation.request.text).length < said.length ∨ opened →
    Frame.ofText (Request.transport serial).text ++ Frame.ofText operation.request.text <+: said ∧
      Reply.okayStatus ++ Reply.okayStatus <+: heard
  /-- A request that is too long is refused, and none of its bytes is written. -/
  unasked : Frame.maxSize < operation.request.text.utf8ByteSize →
    said <+: Frame.ofText (Request.transport serial).text ∧ ¬ opened
  /-- For a serial that is too long nothing is written. -/
  unscoped : Frame.maxSize < (Request.transport serial).text.utf8ByteSize →
    said = [] ∧ ¬ opened

/-- Every operation may write nothing behind its request. -/
theorem behind_nil (operation : DeviceOperation) : operation.Behind [] := by
  cases operation with
  | sync calls =>
    exact ⟨[], [], [], fun _ h => absurd h List.not_mem_nil, ⟨_, .done 0, List.nil_prefix⟩,
      List.nil_prefix, rfl⟩
  | reboot target => rfl
  | shell receiver state cancelled command idle => rfl
  | shellStream command => rfl
  | exec command => rfl

/-- **An operation is scoped on every connection.** -/
theorem onLink_scoped (operation : DeviceOperation) (serial : String) (link : Link) :
    ∃ said, (operation.onLink serial link).2.written.toList = link.written.toList ++ said ∧
      operation.Scoped serial link.received said ((operation.onLink serial link).1 = .ok ()) := by
  obtain ⟨after, hop, hafter⟩ := operation.opens serial
  have hopening := Exchange.openVia_opening serial operation.request link
  rw [hop, Run.bind_apply]
  generalize openVia (some serial) operation.request link = out at hopening
  cases hopening with
  | unscoped hwritten hfront hlong =>
    have hle := hfront.length_le
    refine ⟨_, hwritten, ⟨[], operation.behind_nil, ?_⟩, fun h => ?_, fun h => ?_, fun _ => ?_,
      fun h => ⟨hlong h, nofun⟩⟩
    · rw [List.append_assoc]
      exact hfront.trans (List.prefix_append _ _)
    · exact absurd h (Nat.not_lt.mpr hle)
    · rcases h with h | h
      · rw [List.length_append] at h
        omega
      · cases h
    · exact ⟨hfront, nofun⟩
  | unopened hwritten hfront hlong hfits hokay =>
    rw [List.append_assoc] at hwritten
    have hle := hfront.length_le
    refine ⟨_, hwritten, ⟨[], operation.behind_nil, ?_⟩, fun _ => ⟨List.prefix_append _ _, hokay⟩,
      fun h => ?_, fun h => ?_, fun h => absurd h (Nat.not_lt.mpr hfits)⟩
    · rw [List.append_nil]
      exact (List.prefix_append_right_inj _).mpr hfront
    · rcases h with h | h
      · rw [List.length_append, List.length_append] at h
        omega
      · cases h
    · rw [hlong h, List.append_nil]
      exact ⟨List.prefix_refl _, nofun⟩
  | @opened left hwritten hfits hfits' hokay =>
    obtain ⟨behind, hbehind, hmore⟩ := hafter left
    refine ⟨Frame.ofText (Request.transport serial).text ++ Frame.ofText operation.request.text ++
      behind, ?_, ⟨behind, hbehind, List.prefix_refl _⟩, fun _ => ⟨?_, ?_⟩,
      fun _ => ⟨List.prefix_append _ _, hokay⟩, fun h => absurd h (Nat.not_lt.mpr hfits'),
      fun h => absurd h (Nat.not_lt.mpr hfits)⟩
    · simp only
      rw [hmore, hwritten]
      simp only [List.append_assoc]
    · rw [List.append_assoc]
      exact List.prefix_append _ _
    · exact (List.prefix_append _ _).trans hokay

/-- **No device command runs on a connection that was not turned over to its device.** An operation
makes one attempt to connect. On the connection it gets, whatever that brings and wherever it fails,
it writes a front of the frame that names the device, of the frame of its request, and of what may
stand behind that; and each only after what stands before it was written whole and accepted. -/
theorem scoped_run (operation : DeviceOperation) (serial : String) (net : Network) :
    match net.coming with
    | [] => operation.run serial net =
      (.error net.beyond, { net with past := net.past.push none })
    | .error e :: rest => operation.run serial net =
      (.error e, { net with coming := rest, past := net.past.push none })
    | .ok link :: rest => ∃ left said,
      (operation.run serial net).2 =
        { net with coming := rest, past := net.past.push (some left) } ∧
      left.written.toList = link.written.toList ++ said ∧
      operation.Scoped serial link.received said ((operation.run serial net).1 = .ok ()) := by
  rw [run, Network.use_eq]
  split
  · rfl
  · rfl
  · next link rest _ =>
    obtain ⟨said, hwritten, hscoped⟩ := operation.onLink_scoped serial link
    exact ⟨_, said, rfl, hwritten, hscoped⟩

/-- A device that is gone: the request to restart it is not sent. -/
theorem scoped_run_gone :
    let net : Network :=
      { coming := [.ok { inflow := .ofBytes (Utf8.ofString "FAIL0010device not found") }]
        beyond := Network.unreachable }
    ∃ left : Link, (DeviceOperation.run "emulator-5554" (.reboot "") net).2.past = #[some left] ∧
      left.written.toList <+: Utf8.ofString "001Chost:transport:emulator-5554" := by
  intro net
  obtain ⟨left, said, hnet, hwritten, hscoped⟩ := scoped_run (.reboot "") "emulator-5554" net
  refine ⟨left, congrArg Network.past hnet, ?_⟩
  obtain ⟨behind, rfl, hordered⟩ := hscoped.ordered
  have hle : said.length ≤ (Frame.ofText (Request.transport "emulator-5554").text).length := by
    refine Nat.le_of_not_lt fun hlt => ?_
    exact absurd (hscoped.confirmed hlt).2 (by decide)
  have hframe : Frame.ofText (Request.transport "emulator-5554").text =
      Utf8.ofString "001Chost:transport:emulator-5554" := by decide
  rw [hwritten, ← hframe]
  rw [List.append_assoc] at hordered
  exact List.prefix_of_prefix_length_le hordered (List.prefix_append _ _) hle

end DeviceOperation

end DebugBridge
