import DebugBridge.Proofs.Link
import DebugBridge.Reply

/-!
# Replies and framed texts by the bytes that can be got

What an exchange makes of the server's bytes depends on the bytes that reads can get, not on the
pieces in which they arrive, nor on what fails behind them. A framed text is read exactly if a whole
frame stands in front, and a reply accepts exactly if its four letters do.

* `Frame.front?_eq_some_iff` — what a whole frame is
* `Frame.bodies` — the bodies of the whole frames in front, up to a frame that is cut or malformed;
  `Frame.bodies_frames`, that these are the frames as they were put together
* `Exchange.text_received`, `Exchange.okay_received` — what is read, and what is left
* `Exchange.send_kept` — sending a request leaves all of that alone
-/

namespace DebugBridge

namespace Frame

/-- The body of the frame in front of a byte string, and what stands behind that frame. -/
def front? (bytes : Bytes) : Option (Bytes × Bytes) :=
  match length? (bytes.take 4) with
  | some size =>
    if (bytes.drop 4).length < size then none
    else some ((bytes.drop 4).take size, (bytes.drop 4).drop size)
  | none => none

theorem length_of_length? {field : Bytes} {size : Nat} (h : length? field = some size) :
    field.length = 4 := by
  unfold length? at h
  split at h
  · rfl
  · cases h

/-- **A frame is a length field and as many bytes as it says.** -/
theorem front?_eq_some_iff {bytes body rest : Bytes} :
    front? bytes = some (body, rest) ↔
      ∃ field, length? field = some body.length ∧ bytes = field ++ body ++ rest := by
  unfold front?
  constructor
  · intro h
    split at h
    · next size hs =>
      split at h
      · cases h
      · next hlt =>
        cases h
        refine ⟨bytes.take 4, ?_, ?_⟩
        · rw [hs, List.length_take, Nat.min_eq_left (Nat.le_of_not_lt hlt)]
        · rw [List.append_assoc, List.take_append_drop, List.take_append_drop]
    · cases h
  · rintro ⟨field, hf, rfl⟩
    have hl := length_of_length? hf
    have htake : (field ++ body ++ rest).take 4 = field := by
      rw [List.append_assoc, ← hl, List.take_left]
    have hdrop : (field ++ body ++ rest).drop 4 = body ++ rest := by
      rw [List.append_assoc, ← hl, List.drop_left]
    have hle : ¬ (body ++ rest).length < body.length := by
      rw [List.length_append]
      omega
    rw [htake, hdrop, hf]
    simp only [if_neg hle, List.take_left, List.drop_left]

/-- The bodies of the whole frames in front of a byte string. -/
def bodies (bytes : Bytes) : List Bytes :=
  match h : front? bytes with
  | none => []
  | some (body, rest) =>
    have : rest.length < bytes.length := by
      obtain ⟨field, hf, rfl⟩ := front?_eq_some_iff.mp h
      have := length_of_length? hf
      simp only [List.length_append]
      omega
    body :: bodies rest
termination_by bytes.length

theorem bodies_of_none {bytes : Bytes} (h : front? bytes = none) : bodies bytes = [] := by
  rw [bodies]
  split
  · rfl
  · next heq =>
    rw [h] at heq
    cases heq

theorem bodies_of_some {bytes body rest : Bytes} (h : front? bytes = some (body, rest)) :
    bodies bytes = body :: bodies rest := by
  rw [bodies]
  split
  · next heq =>
    rw [h] at heq
    cases heq
  · next heq =>
    rw [h] at heq
    cases heq
    rfl

/-- **The frames are all read, up to the bytes in front of which there is no whole one.** Each is a
length field and a body. -/
theorem bodies_frames (frames : List (Bytes × Bytes)) {tail : Bytes}
    (hframes : ∀ frame ∈ frames, length? frame.1 = some frame.2.length)
    (htail : front? tail = none) :
    bodies (frames.flatMap (fun frame => frame.1 ++ frame.2) ++ tail) = frames.map (·.2) := by
  induction frames with
  | nil => exact bodies_of_none htail
  | cons frame frames ih =>
    obtain ⟨hframe, hframes⟩ := List.forall_mem_cons.mp hframes
    rw [List.flatMap_cons, List.append_assoc,
      bodies_of_some (front?_eq_some_iff.mpr ⟨frame.1, hframe, rfl⟩), ih hframes]
    rfl

end Frame

namespace Exchange

open Link (received)

/-! ## Reading -/

/-- What an exchange that only reads has done: it gives `a` and leaves `rest` of what can be got,
and nothing but the stream has changed. -/
def Reads {α : Type} (link : Link) (a : α) (rest : Bytes)
    (out : Except Failure α × Link) : Prop :=
  ∃ inflow, out = (.ok a, { link with inflow }) ∧ { link with inflow }.received = rest

/-- An exchange that only reads has failed. -/
def Fails {α : Type} (link : Link) (out : Except Failure α × Link) : Prop :=
  ∃ e inflow, out = (.error e, { link with inflow })

theorem fill_received (n : Nat) (during : String) (link : Link) :
    (n ≤ link.received.length ∧
      Reads link (link.received.take n) (link.received.drop n) (fill n during link)) ∨
    (link.received.length < n ∧ Fails link (fill n during link)) := by
  unfold fill
  rcases link.readExact_received n with ⟨hle, inflow, hr, hleft⟩ | ⟨hlt, e, inflow, hr⟩
  · rw [hr]
    exact .inl ⟨hle, inflow, rfl, hleft⟩
  · rw [hr]
    exact .inr ⟨hlt, _, inflow, rfl⟩

theorem fill?_received (n : Nat) (link : Link) :
    (n ≤ link.received.length ∧
      Reads link (some (link.received.take n)) (link.received.drop n) (fill? n link)) ∨
    (link.received.length < n ∧ ∃ result inflow, fill? n link = (result, { link with inflow }) ∧
      (result = .ok none ∨ ∃ e, result = .error e)) := by
  unfold fill?
  rcases link.readExact_received n with ⟨hle, inflow, hr, hleft⟩ | ⟨hlt, e, inflow, hr⟩
  · rw [hr]
    exact .inl ⟨hle, inflow, rfl, hleft⟩
  · rw [hr]
    refine .inr ⟨hlt, _, inflow, rfl, ?_⟩
    by_cases he : e.isDeadline = true
    · rw [if_pos he]
      exact .inr ⟨_, rfl⟩
    · rw [if_neg he]
      exact .inl rfl

/-- What a framed text is behind its length field. -/
theorem text_of_field {field : Bytes} {link link' : Link}
    (h : fill 4 "reading length prefix" link = (.ok field, link')) :
    text link = match Frame.parseLength field with
      | .error e => (.error e, link')
      | .ok size => (fill size "reading length-prefixed payload" >>= fun payload =>
          (pure (String.ofList payload.latin1) : Exchange String)) link' := by
  rw [text, Run.bind_apply, h]
  simp only
  rw [Run.bind_apply]
  cases Frame.parseLength field with
  | error e => rfl
  | ok size => rfl

/-- **A framed text is read exactly if a whole frame stands in front.** -/
theorem text_received (link : Link) :
    (∃ body rest, Frame.front? link.received = some (body, rest) ∧
      Reads link (String.ofList body.latin1) rest (text link)) ∨
    (Frame.front? link.received = none ∧ Fails link (text link)) := by
  rw [Frame.front?]
  rcases fill_received 4 "reading length prefix" link with
    ⟨-, inflow, hr, hleft⟩ | ⟨hlt, e, inflow, hr⟩
  · rw [text_of_field hr, Frame.parseLength]
    cases Frame.length? (link.received.take 4) with
    | none => exact .inr ⟨rfl, _, inflow, rfl⟩
    | some size =>
      simp only
      rw [Run.bind_apply]
      rcases fill_received size "reading length-prefixed payload" { link with inflow } with
        ⟨hle', inflow', hr', hleft'⟩ | ⟨hlt', e, inflow', hr'⟩
      · rw [hleft] at hle' hr' hleft'
        rw [hr', if_neg (Nat.not_lt.mpr hle')]
        exact .inl ⟨_, _, rfl, inflow', rfl, hleft'⟩
      · rw [hleft] at hlt'
        rw [hr', if_pos hlt']
        exact .inr ⟨rfl, e, inflow', rfl⟩
  · rw [text, Run.bind_apply, hr]
    -- a length field has four bytes, and so many there are not
    have hnone : Frame.length? (link.received.take 4) = none := by
      cases hs : Frame.length? (link.received.take 4) with
      | none => rfl
      | some size =>
        have hl := Frame.length_of_length? hs
        rw [List.length_take] at hl
        omega
    rw [hnone]
    exact .inr ⟨rfl, e, inflow, rfl⟩

/-- **A reply accepts exactly if its four letters do.** -/
theorem okay_received (link : Link) :
    (link.received.take 4 = Reply.okayStatus ∧ Reads link () (link.received.drop 4) (okay link)) ∨
    (link.received.take 4 ≠ Reply.okayStatus ∧ ∃ e, (okay link).1 = .error e) := by
  have hlength : Reply.okayStatus.length = 4 := rfl
  unfold okay reply
  rw [Run.bind_apply, Run.bind_apply]
  rcases fill?_received 4 link with ⟨hle, inflow, hr, hleft⟩ | ⟨hlt, result, inflow, hr, hnone⟩
  · rw [hr]
    simp only
    by_cases hs : link.received.take 4 = Reply.okayStatus
    · refine .inl ⟨hs, inflow, ?_, hleft⟩
      rw [hs]
      rfl
    · -- whatever comes behind other letters, it is no acceptance
      refine .inr ⟨hs, ?_⟩
      simp only [hs, decide_false, Bool.false_and, Bool.false_eq_true, if_false]
      rw [Run.bind_apply]
      rcases text? { link with inflow } with ⟨e | _ | text, link'⟩
      · exact ⟨e, rfl⟩
      · exact ⟨_, rfl⟩
      · exact ⟨_, rfl⟩
  · have hs : link.received.take 4 ≠ Reply.okayStatus := by
      intro hs
      have := congrArg List.length hs
      rw [List.length_take, hlength] at this
      omega
    rw [hr]
    refine .inr ⟨hs, ?_⟩
    rcases hnone with rfl | ⟨e, rfl⟩
    · exact ⟨_, rfl⟩
    · exact ⟨e, rfl⟩

/-! ## Sending -/

/-- What sending leaves alone. -/
structure Kept (link link' : Link) : Prop where
  received : link'.received = link.received
  flushFailure : link'.flushFailure = link.flushFailure
  deadlineFailure : link'.deadlineFailure = link.deadlineFailure

theorem kept_writeAll (bytes : Bytes) (link : Link) : Kept link (link.writeAll bytes).2 := by
  obtain ⟨written, turns, hframe⟩ := link.writeAll_frame bytes
  rw [hframe]
  exact ⟨rfl, rfl, rfl⟩

theorem send_kept (request : Request) (link : Link) : Kept link (send request link).2 := by
  have hrefl : Kept link link := ⟨rfl, rfl, rfl⟩
  unfold send sendText
  cases Frame.encode request.text with
  | error e => exact hrefl
  | ok frame =>
    show Kept link ((writeAll frame >>= fun _ => flush) link).2
    have hkept := kept_writeAll frame link
    rw [Run.bind_apply, writeAll, call]
    cases hw : link.writeAll frame with
    | mk result link' =>
      rw [hw] at hkept
      cases result with
      | error e => exact hkept
      | ok u => exact hkept

/-- A link that takes all writes takes a request that is short enough. -/
theorem send_writable {request : Request} {link : Link} {frame : Bytes}
    (hframe : Frame.encode request.text = .ok frame) (hw : link.Writable)
    (hflush : link.flushFailure = none) : (send request link).1 = .ok () := by
  have hok := (hw.writeAll frame).1
  have hkept := (kept_writeAll frame link).flushFailure
  unfold send sendText
  rw [hframe]
  show ((writeAll frame >>= fun _ => flush) link).1 = .ok ()
  rw [Run.bind_apply, writeAll, call]
  cases hall : link.writeAll frame with
  | mk result link' =>
    rw [hall] at hok hkept
    cases hok
    have hnone : link'.flush = .ok () := by
      rw [Link.flush, hkept.trans hflush]
    show (link'.flush.mapError Failure.ofConnection) = .ok ()
    rw [hnone]
    rfl

end Exchange

end DebugBridge
