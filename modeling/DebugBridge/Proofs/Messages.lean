import DebugBridge.Proofs.Frame

/-!
# Messages of the server, one after another

A reading that is meant for a message takes exactly the bytes of that message off the stream. So a
row of readings gives what the messages say, and leaves what stands behind the last one; a stream
that is opened there gives these bytes and no others. A message that the end of the connection cuts
short is never taken for one: the reading says that the connection is lost.

* `Link.Brings` — the bytes in front of a link, with nothing in their way, and those behind them
* `Reading.run_brings`, `readAll_brings` — what a reading, and a row of readings, gives and leaves
* `Reading.run_cut` — what a reading makes of the start of a message
* `readEach_delivers`, `openVia_bytes` — a stream gives what stands behind the acceptance
* `messages_exact` — all of this together
-/

namespace DebugBridge

/-! ## Messages and readings -/

/-- A text in a frame: four digits, and as many bytes as they announce. -/
structure FramedText where
  field : Bytes
  body : Bytes
  announced : Frame.Announces field body.length

namespace FramedText

/-- The bytes of the frame. -/
def bytes (frame : FramedText) : Bytes := frame.field ++ frame.body

/-- The text, one character per byte. -/
def text (frame : FramedText) : String := String.ofList frame.body.latin1

theorem length_field (frame : FramedText) : frame.field.length = 4 := frame.announced.length

theorem length?_field (frame : FramedText) :
    Frame.length? frame.field = some frame.body.length :=
  Frame.length?_eq_some_iff.mpr frame.announced

end FramedText

/-- What the server sends at a time. -/
inductive Message where
  /-- It accepts, and says no more. -/
  | accepted
  /-- Four letters that accept or refuse, and a text. -/
  | status (letters : Bytes) (four : letters.length = 4) (frame : FramedText)
  /-- A text alone. -/
  | text (frame : FramedText)

/-- The bytes of a message. -/
def Message.bytes : Message → Bytes
  | .accepted => Reply.okayStatus
  | .status letters _ frame => letters ++ frame.bytes
  | .text frame => frame.bytes

/-- What a reading gives. -/
inductive Heard where
  | reply (reply : Reply)
  | text (text : String)

/-- What a message says; only the letters of acceptance accept. -/
def Message.heard : Message → Heard
  | .accepted => .reply (.okay "")
  | .status letters _ frame =>
    .reply (if letters = Reply.okayStatus then .okay frame.text else .refused frame.text)
  | .text frame => .text frame.text

/-- A way to read a message. -/
inductive Reading where
  /-- A reply; `withText` says that an accepting one brings a text too. -/
  | reply (withText : Bool)
  | text

namespace Reading

/-- Reads a message. -/
def run : Reading → Exchange Heard
  | .reply withText => do
    let reply ← Exchange.reply withText
    pure (.reply reply)
  | .text => do
    let text ← Exchange.text
    pure (.text text)

/-- Reads one message after another. -/
def runAll (readings : List Reading) : Exchange (List Heard) := readings.mapM run

/-- The messages that a reading is meant for. A refusal always brings its text. -/
inductive For : Reading → Message → Prop
  | accepted : For (.reply false) .accepted
  | okay {four : Reply.okayStatus.length = 4} {frame : FramedText} :
      For (.reply true) (.status Reply.okayStatus four frame)
  | refused {withText : Bool} {letters : Bytes} {four : letters.length = 4} {frame : FramedText} :
      letters ≠ Reply.okayStatus → For (.reply withText) (.status letters four frame)
  | text {frame : FramedText} : For .text (.text frame)

/-- A reading found that the connection is lost. -/
inductive Lost : Reading → Except Failure Heard → Prop
  | reply {withText : Bool} : Lost (.reply withText) (.ok (.reply .lost))
  | text {message : String} : Lost .text (.error (.connection ⟨.unexpectedEof, message⟩))

end Reading

namespace Link

/-! ## Bytes that are there -/

/-- A link brings the bytes `front` before anything can fail, and then `tail`. -/
structure Brings (link : Link) (front tail : Bytes) : Prop where
  isOpen : link.closed = false
  bytes : link.inflow.bytes = front ++ tail
  got : front <+: link.received

/-- A calm link brings all of its bytes. -/
theorem Calm.brings {link : Link} (h : link.Calm) {front tail : Bytes}
    (hbytes : link.inflow.bytes = front ++ tail) : link.Brings front tail :=
  ⟨h.closed, hbytes, by rw [h.received, hbytes]; exact List.prefix_append _ _⟩

/-- **Bytes that a link brings are read**, and it still brings those behind them. -/
theorem Brings.readExact {link : Link} {front more tail : Bytes}
    (h : link.Brings (front ++ more) tail) :
    ∃ inflow, link.readExact front.length = (.ok front, { link with inflow }) ∧
      { link with inflow }.Brings more tail := by
  obtain ⟨behind, hgot⟩ := h.got
  rw [List.append_assoc] at hgot
  rcases link.readExact_received front.length with ⟨-, inflow, hr, hleft⟩ | ⟨hlt, -⟩
  · rw [← hgot, List.take_left] at hr
    rw [← hgot, List.drop_left] at hleft
    obtain ⟨-, inflow', heq, hbytes⟩ := bytes_readExact hr
    have hinflow : inflow = inflow' := congrArg Link.inflow heq
    subst hinflow
    refine ⟨inflow, hr, h.isOpen, ?_, ?_⟩
    · rw [h.bytes, List.append_assoc] at hbytes
      exact List.append_cancel_left hbytes
    · rw [hleft]
      exact List.prefix_append _ _
  · rw [← hgot, List.length_append] at hlt
    omega

/-! ## Bytes that are cut short -/

/-- No read on a link runs into a deadline. -/
def Timely (link : Link) : Prop :=
  ∀ e, .failure e ∈ link.inflow.arrivals ∨ link.inflow.ending = some e → e.isDeadline = false

/-- A stream in one piece brings no failure. -/
theorem timely_ofBytes (bytes : Bytes) : Timely { inflow := .ofBytes bytes } := by
  rintro e (he | he)
  · cases List.mem_singleton.mp he
  · cases he

end Link

namespace Inflow

/-- A read that fails does so by a failure of the stream, or for want of bytes. -/
theorem readExactly_error {ending : Option IoFailure} {n : Nat} {arrivals rest : List Arrival}
    {e : IoFailure} (h : readExactly ending n arrivals = (.error e, rest)) :
    .failure e ∈ arrivals ∨ ending = some e ∨ e = shortRead := by
  fun_induction readExactly ending n arrivals generalizing rest with
  | case1 arrivals => cases h
  | case2 n =>
    cases h
    cases ending with
    | none => exact .inr (.inr rfl)
    | some e => exact .inr (.inl rfl)
  | case3 n e' rest' hi ih => exact (ih h).imp (List.mem_cons_of_mem _) id
  | case4 n e' rest' hi =>
    cases h
    exact .inl List.mem_cons_self
  | case5 n piece rest' hd more rest'' hr ih => cases h
  | case6 n piece rest' hd e' rest'' hr ih =>
    cases h
    exact (ih hr).imp (List.mem_cons_of_mem _) id
  | case7 n piece rest' hd => cases h

end Inflow

namespace Link

theorem Timely.readExact {link : Link} (h : link.Timely) (n : Nat) :
    (link.readExact n).2.Timely := by
  unfold Link.readExact
  split
  · exact h
  · exact fun e he => h e (he.imp Inflow.mem_readExactly id)

theorem Timely.not_deadline {link : Link} (h : link.Timely) {n : Nat} {e : IoFailure}
    (he : (link.readExact n).1 = .error e) : e.isDeadline = false := by
  unfold Link.readExact at he
  split at he
  · split at he
    · cases he
    · cases he
      rfl
  · rcases Inflow.readExactly_error (Prod.ext he rfl) with hmem | hend | rfl
    · exact h e (.inl hmem)
    · exact h e (.inr hend)
    · rfl

/-- **What comes is the start of `front ++ behind`**, of which `more` is missing. Then a read of
`front` finds that bytes are missing, or it gives `front` and what comes is the start of
`behind`. -/
theorem Timely.readExact_cut {link : Link} (h : link.Timely) {front behind more : Bytes}
    (hcut : link.received ++ more = front ++ behind) :
    (∃ e inflow, link.readExact front.length = (.error e, { link with inflow }) ∧
      e.isDeadline = false) ∨
    (∃ inflow, link.readExact front.length = (.ok front, { link with inflow }) ∧
      { link with inflow }.Timely ∧ { link with inflow }.received ++ more = behind) := by
  rcases link.readExact_received front.length with ⟨hle, inflow, hr, hleft⟩ | ⟨-, e, inflow, hr⟩
  · have htimely := h.readExact front.length
    rw [hr] at htimely
    rw [← List.take_append_drop front.length link.received, List.append_assoc] at hcut
    have hlength : (link.received.take front.length).length = front.length := by
      rw [List.length_take, Nat.min_eq_left hle]
    obtain ⟨hfront, hbehind⟩ := List.append_inj hcut hlength
    rw [hfront] at hr
    exact .inr ⟨inflow, hr, htimely, by rw [hleft, hbehind]⟩
  · exact .inl ⟨e, inflow, hr, h.not_deadline (congrArg Prod.fst hr)⟩

end Link

namespace Exchange

/-! ## One message -/

section Brings

variable {link : Link} {tail more : Bytes}

theorem fill?_brings {front : Bytes} (h : link.Brings (front ++ more) tail) :
    ∃ inflow, fill? front.length link = (.ok (some front), { link with inflow }) ∧
      { link with inflow }.Brings more tail := by
  obtain ⟨inflow, hr, hbrings⟩ := h.readExact
  refine ⟨inflow, ?_, hbrings⟩
  rw [fill?, hr]

theorem fill_brings {front : Bytes} (during : String) (h : link.Brings (front ++ more) tail) :
    ∃ inflow, fill front.length during link = (.ok front, { link with inflow }) ∧
      { link with inflow }.Brings more tail := by
  obtain ⟨inflow, hr, hbrings⟩ := h.readExact
  refine ⟨inflow, ?_, hbrings⟩
  rw [fill, hr]

/-- **A framed text is read to its last byte and no further.** -/
theorem text?_brings (frame : FramedText) (h : link.Brings (frame.bytes ++ more) tail) :
    ∃ inflow, text? link = (.ok (some frame.text), { link with inflow }) ∧
      { link with inflow }.Brings more tail := by
  rw [FramedText.bytes, List.append_assoc] at h
  obtain ⟨inflow, hr, hbrings⟩ := fill?_brings h
  obtain ⟨inflow', hr', hbrings'⟩ := fill?_brings hbrings
  rw [frame.length_field] at hr
  refine ⟨inflow', ?_, hbrings'⟩
  rw [text?, Run.bind_apply, hr]
  simp only [Frame.parseLength, frame.length?_field]
  show (fill? frame.body.length >>= fun payload => _) { link with inflow } = _
  rw [Run.bind_apply, hr']
  rfl

theorem text_brings (frame : FramedText) (h : link.Brings (frame.bytes ++ more) tail) :
    ∃ inflow, text link = (.ok frame.text, { link with inflow }) ∧
      { link with inflow }.Brings more tail := by
  rw [FramedText.bytes, List.append_assoc] at h
  obtain ⟨inflow, hr, hbrings⟩ := fill_brings "reading length prefix" h
  obtain ⟨inflow', hr', hbrings'⟩ := fill_brings "reading length-prefixed payload" hbrings
  rw [frame.length_field] at hr
  refine ⟨inflow', ?_, hbrings'⟩
  rw [text_of_field hr, Frame.parseLength, frame.length?_field]
  simp only
  rw [Run.bind_apply, hr']
  rfl

/-- An acceptance alone is read without looking at what stands behind it. -/
theorem reply_accepted (h : link.Brings (Reply.okayStatus ++ more) tail) :
    ∃ inflow, reply false link = (.ok (.okay ""), { link with inflow }) ∧
      { link with inflow }.Brings more tail := by
  obtain ⟨inflow, hr, hbrings⟩ := fill?_brings h
  refine ⟨inflow, ?_, hbrings⟩
  rw [reply, Run.bind_apply]
  rw [show Reply.okayStatus.length = 4 from rfl] at hr
  rw [hr]
  rfl

/-- A status with a text is read with its text, unless it accepts and no text is asked for. -/
theorem reply_status (withText : Bool) {letters : Bytes} (four : letters.length = 4)
    (frame : FramedText) (hasked : (letters = Reply.okayStatus && !withText) = false)
    (h : link.Brings (letters ++ frame.bytes ++ more) tail) :
    ∃ inflow, reply withText link =
        (.ok (if letters = Reply.okayStatus then .okay frame.text else .refused frame.text),
          { link with inflow }) ∧
      { link with inflow }.Brings more tail := by
  rw [List.append_assoc] at h
  obtain ⟨inflow, hr, hbrings⟩ := fill?_brings h
  obtain ⟨inflow', hr', hbrings'⟩ := text?_brings frame hbrings
  rw [four] at hr
  refine ⟨inflow', ?_, hbrings'⟩
  rw [reply, Run.bind_apply, hr]
  simp only [hasked, Bool.false_eq_true, if_false]
  rw [Run.bind_apply, hr']
  rfl

end Brings

/-! ### The start of a message -/

section Cut

variable {link : Link} {more : Bytes}

theorem fill?_cut (h : link.Timely) {front behind : Bytes}
    (hcut : link.received ++ more = front ++ behind) :
    (∃ inflow, fill? front.length link = (.ok none, { link with inflow })) ∨
    (∃ inflow, fill? front.length link = (.ok (some front), { link with inflow }) ∧
      { link with inflow }.Timely ∧ { link with inflow }.received ++ more = behind) := by
  rcases h.readExact_cut hcut with ⟨e, inflow, hr, he⟩ | ⟨inflow, hr, hleft⟩
  · refine .inl ⟨inflow, ?_⟩
    rw [fill?, hr]
    simp only [he, Bool.false_eq_true, if_false]
  · refine .inr ⟨inflow, ?_, hleft⟩
    rw [fill?, hr]

theorem fill_cut (during : String) (h : link.Timely) {front behind : Bytes}
    (hcut : link.received ++ more = front ++ behind) :
    (∃ inflow, fill front.length during link =
      (.error (.connectionClosed during), { link with inflow })) ∨
    (∃ inflow, fill front.length during link = (.ok front, { link with inflow }) ∧
      { link with inflow }.Timely ∧ { link with inflow }.received ++ more = behind) := by
  rcases h.readExact_cut hcut with ⟨e, inflow, hr, he⟩ | ⟨inflow, hr, hleft⟩
  · refine .inl ⟨inflow, ?_⟩
    rw [fill, hr]
    simp only [he, Bool.false_eq_true, if_false]
  · refine .inr ⟨inflow, ?_, hleft⟩
    rw [fill, hr]

/-- Nothing is missing where all has come. -/
theorem not_cut {received : Bytes} (hmore : more ≠ []) : received ++ more ≠ [] :=
  fun h => hmore (List.append_eq_nil_iff.mp h).2

/-- **The start of a framed text is no text.** -/
theorem text?_cut (frame : FramedText) (h : link.Timely) (hmore : more ≠ [])
    (hcut : link.received ++ more = frame.bytes) : (text? link).1 = .ok none := by
  rw [text?, Run.bind_apply]
  rcases fill?_cut h hcut with ⟨inflow, hr⟩ | ⟨inflow, hr, htimely, hleft⟩
  · rw [frame.length_field] at hr
    rw [hr]
    rfl
  · rw [frame.length_field] at hr
    rw [hr]
    simp only [Frame.parseLength, frame.length?_field]
    show ((fill? frame.body.length >>= fun payload => _) { link with inflow }).1 = _
    rw [Run.bind_apply]
    rw [← List.append_nil frame.body] at hleft
    rcases fill?_cut htimely hleft with ⟨inflow', hr'⟩ | ⟨_, -, -, hleft'⟩
    · rw [hr']
      rfl
    · exact absurd hleft' (not_cut hmore)

theorem text_cut (frame : FramedText) (h : link.Timely) (hmore : more ≠ [])
    (hcut : link.received ++ more = frame.bytes) :
    ∃ during, (text link).1 = .error (.connectionClosed during) := by
  rcases fill_cut "reading length prefix" h hcut with ⟨inflow, hr⟩ | ⟨inflow, hr, htimely, hleft⟩
  · rw [frame.length_field] at hr
    rw [text, Run.bind_apply, hr]
    exact ⟨_, rfl⟩
  · rw [frame.length_field] at hr
    rw [text_of_field hr, Frame.parseLength, frame.length?_field]
    simp only
    rw [Run.bind_apply]
    rw [← List.append_nil frame.body] at hleft
    rcases fill_cut "reading length-prefixed payload" htimely hleft with
      ⟨inflow', hr'⟩ | ⟨_, -, -, hleft'⟩
    · rw [hr']
      exact ⟨_, rfl⟩
    · exact absurd hleft' (not_cut hmore)

/-- The start of an acceptance is no reply. -/
theorem reply_accepted_cut (withText : Bool) (h : link.Timely) (hmore : more ≠ [])
    (hcut : link.received ++ more = Reply.okayStatus) :
    (reply withText link).1 = .ok .lost := by
  rw [← List.append_nil Reply.okayStatus] at hcut
  rw [reply, Run.bind_apply]
  rcases fill?_cut h hcut with ⟨inflow, hr⟩ | ⟨_, -, -, hleft⟩
  · rw [show Reply.okayStatus.length = 4 from rfl] at hr
    rw [hr]
    rfl
  · exact absurd hleft (not_cut hmore)

/-- The start of a status with a text is no reply. -/
theorem reply_status_cut (withText : Bool) {letters : Bytes} (four : letters.length = 4)
    (frame : FramedText) (hasked : (letters = Reply.okayStatus && !withText) = false)
    (h : link.Timely) (hmore : more ≠ [])
    (hcut : link.received ++ more = letters ++ frame.bytes) :
    (reply withText link).1 = .ok .lost := by
  rw [reply, Run.bind_apply]
  rcases fill?_cut h hcut with ⟨inflow, hr⟩ | ⟨inflow, hr, htimely, hleft⟩
  · rw [four] at hr
    rw [hr]
    rfl
  · rw [four] at hr
    rw [hr]
    simp only [hasked, Bool.false_eq_true, if_false]
    have htext := text?_cut frame htimely hmore hleft
    rw [Run.bind_apply]
    cases hout : text? { link with inflow } with
    | mk result link' =>
      rw [hout] at htext
      obtain rfl : result = .ok none := htext
      rfl

end Cut

end Exchange

namespace Reading

/-- A status that a reply is meant for brings a text that is asked for. -/
theorem asked_of_refused {letters : Bytes} {withText : Bool} (h : letters ≠ Reply.okayStatus) :
    (letters = Reply.okayStatus && !withText) = false := by
  rw [decide_eq_false h, Bool.false_and]

/-- **A reading takes the message that it is meant for**, and no byte behind it. -/
theorem run_brings {reading : Reading} {message : Message} (hfor : For reading message)
    {link : Link} {more tail : Bytes} (h : link.Brings (message.bytes ++ more) tail) :
    ∃ inflow, reading.run link = (.ok message.heard, { link with inflow }) ∧
      { link with inflow }.Brings more tail := by
  cases hfor with
  | accepted =>
    obtain ⟨inflow, hr, hbrings⟩ := Exchange.reply_accepted h
    exact ⟨inflow, by rw [run, Run.bind_apply, hr]; rfl, hbrings⟩
  | @okay four frame =>
    obtain ⟨inflow, hr, hbrings⟩ := Exchange.reply_status true four frame rfl h
    exact ⟨inflow, by rw [run, Run.bind_apply, hr]; rfl, hbrings⟩
  | @refused withText letters four frame hne =>
    obtain ⟨inflow, hr, hbrings⟩ := Exchange.reply_status withText four frame (asked_of_refused hne) h
    exact ⟨inflow, by rw [run, Run.bind_apply, hr]; rfl, hbrings⟩
  | @text frame =>
    obtain ⟨inflow, hr, hbrings⟩ := Exchange.text_brings frame h
    exact ⟨inflow, by rw [run, Run.bind_apply, hr]; rfl, hbrings⟩

/-- **The start of a message is taken for a lost connection**, never for a message. -/
theorem run_cut {reading : Reading} {message : Message} (hfor : For reading message) {link : Link}
    (h : link.Timely) {more : Bytes} (hmore : more ≠ [])
    (hcut : link.received ++ more = message.bytes) : Lost reading (reading.run link).1 := by
  have hreply : ∀ {withText : Bool}, (Exchange.reply withText link).1 = .ok .lost →
      Lost (.reply withText) ((Reading.reply withText).run link).1 := by
    intro withText hlost
    cases hout : Exchange.reply withText link with
    | mk result link' =>
      rw [hout] at hlost
      obtain rfl : result = .ok .lost := hlost
      rw [run, Run.bind_apply, hout]
      exact .reply
  cases hfor with
  | accepted => exact hreply (Exchange.reply_accepted_cut false h hmore hcut)
  | @okay four frame =>
    exact hreply (Exchange.reply_status_cut true four frame rfl h hmore hcut)
  | @refused withText letters four frame hne =>
    exact hreply (Exchange.reply_status_cut withText four frame (asked_of_refused hne) h hmore hcut)
  | @text frame =>
    obtain ⟨during, hlost⟩ := Exchange.text_cut frame h hmore hcut
    cases hout : Exchange.text link with
    | mk result link' =>
      rw [hout] at hlost
      obtain rfl : result = .error (.connectionClosed during) := hlost
      rw [run, Run.bind_apply, hout]
      exact .text

end Reading

/-! ## A row of messages -/

/-- **A row of readings gives what the messages say**, in order, and leaves what stands behind. -/
theorem readAll_brings (row : List (Reading × Message)) {tail : Bytes} {link : Link}
    (hfor : ∀ p ∈ row, Reading.For p.1 p.2)
    (h : link.Brings (row.flatMap fun p => p.2.bytes) tail) :
    ∃ inflow, Reading.runAll (row.map Prod.fst) link =
        (.ok (row.map fun p => p.2.heard), { link with inflow }) ∧
      { link with inflow }.Brings [] tail := by
  induction row generalizing link with
  | nil => exact ⟨link.inflow, rfl, h⟩
  | cons p row ih =>
    obtain ⟨hp, hrow⟩ := List.forall_mem_cons.mp hfor
    rw [List.flatMap_cons] at h
    obtain ⟨inflow, hr, hbrings⟩ := Reading.run_brings hp h
    obtain ⟨inflow', hr', hbrings'⟩ := ih hrow hbrings
    refine ⟨inflow', ?_, hbrings'⟩
    rw [Reading.runAll, List.map_cons, List.mapM_cons, Run.bind_apply, hr]
    show (Reading.runAll (row.map Prod.fst) >>= fun rest => _) { link with inflow } = _
    rw [Run.bind_apply, hr']
    rfl

/-! ## Streams -/

namespace Inflow

theorem readSome_delivers (n : Nat) (ending : Option IoFailure) (arrivals : List Arrival) :
    (readSome n ending arrivals).1.toOption.getD [] ++ bytesOf (readSome n ending arrivals).2 =
      bytesOf arrivals := by
  cases hr : readSome n ending arrivals with
  | mk result rest =>
    cases result with
    | ok out => exact bytesOf_readSome hr
    | error e =>
      fun_induction readSome n ending arrivals with
      | case1 => cases hr
      | case2 e' => cases hr; rfl
      | case3 e' rest' => cases hr; rfl
      | case4 rest' ih => exact ih hr
      | case5 b piece rest' hd => cases hr
      | case6 b piece rest' hd => cases hr

end Inflow

namespace Link

/-- Single reads of the given sizes, one after another. -/
def readEach : List Nat → Link → List (Except IoFailure Bytes) × Link
  | [], link => ([], link)
  | size :: sizes, link =>
    let (out, link) := link.read size
    let (outs, link) := readEach sizes link
    (out :: outs, link)

/-- The bytes that reads gave; a read that failed gave none. -/
def delivered (outs : List (Except IoFailure Bytes)) : Bytes :=
  outs.flatMap fun out => out.toOption.getD []

theorem read_delivers {link : Link} (h : link.closed = false) (size : Nat) :
    (link.read size).1.toOption.getD [] ++ (link.read size).2.inflow.bytes = link.inflow.bytes ∧
      (link.read size).2.closed = false := by
  rw [Link.read, if_neg (by rw [h]; exact Bool.false_ne_true)]
  cases size with
  | zero => exact ⟨rfl, h⟩
  | succ n => exact ⟨Inflow.readSome_delivers n link.inflow.ending link.inflow.arrivals, h⟩

/-- **Single reads take bytes off the stream in order**, whatever their sizes and failures. -/
theorem readEach_delivers {link : Link} (h : link.closed = false) (sizes : List Nat) :
    delivered (link.readEach sizes).1 ++ (link.readEach sizes).2.inflow.bytes =
        link.inflow.bytes ∧
      (link.readEach sizes).2.closed = false := by
  induction sizes generalizing link with
  | nil => exact ⟨rfl, h⟩
  | cons size sizes ih =>
    obtain ⟨hbytes, hopen⟩ := read_delivers h size
    obtain ⟨hrest, hopen'⟩ := ih hopen
    refine ⟨?_, hopen'⟩
    rw [readEach, delivered, List.flatMap_cons, List.append_assoc]
    rw [delivered] at hrest
    rw [hrest, hbytes]

/-- A read with room finds nothing only where nothing is left. -/
theorem read_eq_nil {link : Link} (h : link.closed = false) {n : Nat}
    (hr : (link.read (n + 1)).1 = .ok []) : link.inflow.bytes = [] := by
  rw [Link.read, if_neg (by rw [h]; exact Bool.false_ne_true)] at hr
  exact (Inflow.readSome_ok hr).2 rfl

end Link

namespace Exchange

/-! ### Opening a stream -/

/-- Opens a stream, on the device of a serial if one is given. -/
def openVia (serial : Option String) (request : Request) : Exchange Unit := do
  match serial with
  | none => pure ()
  | some serial => scopeTo serial
  openStream request

/-- What the server says while a stream is opened. -/
def acceptances : Option String → Bytes
  | none => Reply.okayStatus
  | some _ => Reply.okayStatus ++ Reply.okayStatus

theorem send_inflow (request : Request) (link : Link) :
    (send request link).2.inflow = link.inflow ∧ (send request link).2.closed = link.closed := by
  unfold send sendText
  cases Frame.encode request.text with
  | error e => exact ⟨rfl, rfl⟩
  | ok frame =>
    show ((writeAll frame >>= fun _ => flush) link).2.inflow = _ ∧
      ((writeAll frame >>= fun _ => flush) link).2.closed = _
    have hinflow := Link.inflow_writeAll frame link
    have hclosed := Link.closed_writeAll frame link
    rw [Run.bind_apply, writeAll, call]
    cases hw : link.writeAll frame with
    | mk result link' =>
      rw [hw] at hinflow hclosed
      cases result with
      | error e => exact ⟨hinflow, hclosed⟩
      | ok u => exact ⟨hinflow, hclosed⟩

/-- A reply that accepts without a text has taken its four letters off the stream. -/
theorem reply_okay_bytes {link link' : Link} {text : String}
    (h : reply false link = (.ok (.okay text), link')) :
    link.inflow.bytes = Reply.okayStatus ++ link'.inflow.bytes ∧ link'.closed = link.closed := by
  rw [reply, Run.bind_apply, fill?] at h
  cases hr : link.readExact 4 with
  | mk result link₁ =>
    rw [hr] at h
    cases result with
    | error e =>
      simp only at h
      split at h
      · next he =>
        split at he
        · cases he
        · cases he
          cases h
      · cases h
    | ok status =>
      simp only at h
      by_cases hs : status = Reply.okayStatus
      · subst hs
        obtain ⟨-, inflow, rfl, hbytes⟩ := Link.bytes_readExact hr
        cases h
        exact ⟨hbytes.symm, rfl⟩
      · simp only [hs, decide_false, Bool.false_and, Bool.false_eq_true, if_false] at h
        rw [Run.bind_apply] at h
        split at h
        · next hout =>
          split at h
          · cases h
          · cases h
        · cases h

/-- A request that was sent and accepted has brought an acceptance; `judge` says what becomes of the
reply. -/
theorem ask_bytes {request : Request} {judge : Reply → Exchange Unit}
    (hjudge : ∀ reply {link link' : Link}, judge reply link = (.ok (), link') →
      (∃ text, reply = .okay text) ∧ link' = link) {link link' : Link}
    (h : (send request >>= fun _ => reply false >>= judge) link = (.ok (), link')) :
    link.inflow.bytes = Reply.okayStatus ++ link'.inflow.bytes ∧ link'.closed = link.closed := by
  have hsend := send_inflow request link
  rw [Run.bind_apply] at h
  cases hs : send request link with
  | mk result link₁ =>
    rw [hs] at h hsend
    rw [← hsend.1, ← hsend.2]
    cases result with
    | error e => cases h
    | ok u =>
      simp only at h
      rw [Run.bind_apply] at h
      cases hr : reply false link₁ with
      | mk result link₂ =>
        rw [hr] at h
        cases result with
        | error e => cases h
        | ok answer =>
          obtain ⟨⟨text, rfl⟩, rfl⟩ := hjudge answer h
          exact reply_okay_bytes hr

/-- A connection that was turned over has brought an acceptance. -/
theorem scopeTo_bytes {serial : String} {link link' : Link}
    (h : scopeTo serial link = (.ok (), link')) :
    link.inflow.bytes = Reply.okayStatus ++ link'.inflow.bytes ∧ link'.closed = link.closed := by
  refine ask_bytes (fun answer link link' hanswer => ?_) h
  cases answer with
  | lost => cases hanswer
  | okay text =>
    cases hanswer
    exact ⟨⟨text, rfl⟩, rfl⟩
  | refused text =>
    simp only at hanswer
    split at hanswer
    · cases hanswer
    · cases hanswer

/-- A stream that was opened has brought an acceptance. -/
theorem openStream_bytes {request : Request} {link link' : Link}
    (h : openStream request link = (.ok (), link')) :
    link.inflow.bytes = Reply.okayStatus ++ link'.inflow.bytes ∧ link'.closed = link.closed := by
  refine ask_bytes (fun answer link link' hanswer => ?_) h
  cases answer with
  | lost => cases hanswer
  | okay text =>
    cases hanswer
    exact ⟨⟨text, rfl⟩, rfl⟩
  | refused text => cases hanswer

/-- **A stream that was opened goes on behind the acceptances.** -/
theorem openVia_bytes {serial : Option String} {request : Request} {link link' : Link}
    (h : openVia serial request link = (.ok (), link')) :
    link.inflow.bytes = acceptances serial ++ link'.inflow.bytes ∧
      link'.closed = link.closed := by
  cases serial with
  | none => exact openStream_bytes h
  | some serial =>
    rw [openVia, Run.bind_apply] at h
    cases hs : scopeTo serial link with
    | mk result link₁ =>
      simp only [hs] at h
      cases result with
      | error e => cases h
      | ok u =>
        obtain ⟨hbytes, hclosed⟩ := scopeTo_bytes hs
        obtain ⟨hbytes', hclosed'⟩ := openStream_bytes h
        exact ⟨by rw [hbytes, hbytes', acceptances, List.append_assoc], hclosed'.trans hclosed⟩

/-- A link takes all that is sent, and brings `front` and then `tail`. -/
structure Ready (link : Link) (front tail : Bytes) : Prop extends
    Link.Writable link, Link.Brings link front tail where
  flushes : link.flushFailure = none

section Ready

variable {link : Link} {more tail : Bytes}

theorem send_ready {request : Request} (hfits : request.text.toUTF8.size ≤ Frame.maxSize)
    (h : Ready link more tail) :
    ∃ link', send request link = (.ok (), link') ∧ Ready link' more tail := by
  have hframe : Frame.encode request.text = .ok _ := (Frame.encode_eq _).trans (if_pos hfits)
  have hok := send_writable hframe h.toWritable h.flushes
  have hkept := send_kept request link
  have hinflow := send_inflow request link
  have hwritable : (send request link).2.Writable := by
    have hw := (h.toWritable.writeAll (Frame.lengthField request.text.utf8ByteSize ++
      Utf8.ofString request.text))
    unfold send sendText
    rw [hframe]
    show ((writeAll _ >>= fun _ => flush) link).2.Writable
    rw [Run.bind_apply, writeAll, call]
    cases hall : link.writeAll (Frame.lengthField request.text.utf8ByteSize ++
        Utf8.ofString request.text) with
    | mk result link' =>
      rw [hall] at hw
      obtain rfl : result = .ok () := hw.1
      exact hw.2
  refine ⟨(send request link).2, Prod.ext hok rfl, hwritable, ⟨?_, ?_, ?_⟩, ?_⟩
  · rw [hinflow.2, h.isOpen]
  · rw [hinflow.1, h.bytes]
  · rw [hkept.received]
    exact h.got
  · rw [hkept.flushFailure, h.flushes]

theorem reply_ready (h : Ready link (Reply.okayStatus ++ more) tail) :
    ∃ link', reply false link = (.ok (.okay ""), link') ∧ Ready link' more tail := by
  obtain ⟨inflow, hr, hbrings⟩ := reply_accepted h.toBrings
  exact ⟨_, hr, ⟨h.closed, h.unlimited, h.moves, h.turns⟩, hbrings, h.flushes⟩

theorem ask_ready {request : Request} {judge : Reply → Exchange Unit}
    (hjudge : ∀ link, judge (.okay "") link = (.ok (), link))
    (hfits : request.text.toUTF8.size ≤ Frame.maxSize)
    (h : Ready link (Reply.okayStatus ++ more) tail) :
    ∃ link', (send request >>= fun _ => reply false >>= judge) link = (.ok (), link') ∧
      Ready link' more tail := by
  obtain ⟨link₁, hs, h₁⟩ := send_ready hfits h
  obtain ⟨link₂, hr, h₂⟩ := reply_ready h₁
  refine ⟨link₂, ?_, h₂⟩
  rw [Run.bind_apply, hs]
  simp only
  rw [Run.bind_apply, hr]
  exact hjudge link₂

theorem scopeTo_ready {serial : String}
    (hfits : (Request.transport serial).text.toUTF8.size ≤ Frame.maxSize)
    (h : Ready link (Reply.okayStatus ++ more) tail) :
    ∃ link', scopeTo serial link = (.ok (), link') ∧ Ready link' more tail :=
  ask_ready (fun _ => rfl) hfits h

theorem openStream_ready {request : Request}
    (hfits : request.text.toUTF8.size ≤ Frame.maxSize)
    (h : Ready link (Reply.okayStatus ++ more) tail) :
    ∃ link', openStream request link = (.ok (), link') ∧ Ready link' more tail :=
  ask_ready (fun _ => rfl) hfits h

/-- **A stream is opened** on a link that takes the requests and brings the acceptances. -/
theorem openVia_ready {serial : Option String} {request : Request}
    (hserial : ∀ s, serial = some s → (Request.transport s).text.toUTF8.size ≤ Frame.maxSize)
    (hfits : request.text.toUTF8.size ≤ Frame.maxSize)
    (h : Ready link (acceptances serial ++ more) tail) :
    ∃ link', openVia serial request link = (.ok (), link') ∧ Ready link' more tail := by
  cases serial with
  | none => exact openStream_ready hfits h
  | some serial =>
    rw [acceptances, List.append_assoc] at h
    obtain ⟨link₁, hs, h₁⟩ := scopeTo_ready (hserial serial rfl) h
    obtain ⟨link₂, ho, h₂⟩ := openStream_ready hfits h₁
    refine ⟨link₂, ?_, h₂⟩
    rw [openVia, Run.bind_apply]
    simp only [hs]
    exact ho

end Ready

end Exchange

/-! ## All together -/

/-- **Framed readings take exactly their messages.** For every row of messages and any bytes behind
it, the readings meant for them give what they say, in order, and leave exactly these bytes. A
stream that is opened, on a device or not, then gives exactly what stands behind the acceptances, to
reads of any sizes, and it is opened if the link takes the requests. And the start of a message, on
a connection that ends or breaks there, is taken for a lost connection. -/
theorem messages_exact :
    (∀ (row : List (Reading × Message)) (tail : Bytes) (link : Link),
      (∀ p ∈ row, Reading.For p.1 p.2) →
      link.Brings (row.flatMap fun p => p.2.bytes) tail →
      ∃ inflow, Reading.runAll (row.map Prod.fst) link =
          (.ok (row.map fun p => p.2.heard), { link with inflow }) ∧
        inflow.bytes = tail) ∧
    (∀ (serial : Option String) (request : Request) (link link' : Link),
      link.closed = false → Exchange.openVia serial request link = (.ok (), link') →
      ∃ tail, link.inflow.bytes = Exchange.acceptances serial ++ tail ∧
        ∀ sizes,
          Link.delivered (link'.readEach sizes).1 ++ (link'.readEach sizes).2.inflow.bytes =
            tail ∧
          ∀ n, ((link'.readEach sizes).2.read (n + 1)).1 = .ok [] →
            Link.delivered (link'.readEach sizes).1 = tail) ∧
    (∀ (serial : Option String) (request : Request) (tail : Bytes) (link : Link),
      (∀ s, serial = some s → (Request.transport s).text.toUTF8.size ≤ Frame.maxSize) →
      request.text.toUTF8.size ≤ Frame.maxSize →
      Exchange.Ready link (Exchange.acceptances serial) tail →
      ∃ link', Exchange.openVia serial request link = (.ok (), link') ∧
        link'.inflow.bytes = tail) ∧
    (∀ (reading : Reading) (message : Message) (more : Bytes) (link : Link),
      Reading.For reading message → more ≠ [] → link.received ++ more = message.bytes →
      link.Timely → Reading.Lost reading (reading.run link).1) := by
  refine ⟨fun row tail link hfor h => ?_, fun serial request link link' hopen h => ?_,
    fun serial request tail link hserial hfits h => ?_,
    fun reading message more link hfor hmore hcut h => Reading.run_cut hfor h hmore hcut⟩
  · obtain ⟨inflow, hr, hbrings⟩ := readAll_brings row hfor h
    exact ⟨inflow, hr, hbrings.bytes⟩
  · obtain ⟨hbytes, hclosed⟩ := Exchange.openVia_bytes h
    refine ⟨link'.inflow.bytes, hbytes, fun sizes => ?_⟩
    obtain ⟨hdelivered, hopen'⟩ := Link.readEach_delivers (hclosed.trans hopen) sizes
    refine ⟨hdelivered, fun n hend => ?_⟩
    rw [Link.read_eq_nil hopen' hend, List.append_nil] at hdelivered
    exact hdelivered
  · rw [← List.append_nil (Exchange.acceptances serial)] at h
    obtain ⟨link', hr, hready⟩ := Exchange.openVia_ready hserial hfits h
    exact ⟨link', hr, hready.bytes⟩

/-- Four messages that arrive in pieces with an interruption between them; a stream that is opened
on a device; and a refusal that is cut short. -/
theorem messages_exact_in_pieces :
    (∃ inflow, Reading.runAll [.reply false, .reply false, .reply true, .text]
        { inflow := { arrivals := [.bytes (Utf8.ofString "OKAYFA"),
          .failure ⟨.interrupted, "interrupted"⟩, .bytes (Utf8.ofString "IL000ano device!OKAY00"),
          .bytes (Utf8.ofString "000003abctail")] } } =
      (.ok [.reply (.okay ""), .reply (.refused "no device!"), .reply (.okay ""), .text "abc"],
        { inflow }) ∧ inflow.bytes = Utf8.ofString "tail") ∧
    (∃ link', Exchange.openVia (some "S1") .sync
        { inflow := .ofBytes (Utf8.ofString "OKAYOKAYtail") } = (.ok (), link') ∧
      ∀ sizes, Link.delivered (link'.readEach sizes).1 ++ (link'.readEach sizes).2.inflow.bytes =
        Utf8.ofString "tail") ∧
    Reading.Lost (.reply false) ((Reading.reply false).run
      { inflow := .ofBytes (Utf8.ofString "FAIL000ano dev") }).1 := by
  let refusal : FramedText :=
    ⟨Utf8.ofString "000a", Utf8.ofString "no device!", Frame.length?_eq_some_iff.mp rfl⟩
  let empty : FramedText := ⟨Utf8.ofString "0000", [], Frame.length?_eq_some_iff.mp rfl⟩
  let abc : FramedText :=
    ⟨Utf8.ofString "0003", Utf8.ofString "abc", Frame.length?_eq_some_iff.mp rfl⟩
  let row : List (Reading × Message) :=
    [(.reply false, .accepted), (.reply false, .status (Utf8.ofString "FAIL") rfl refusal),
      (.reply true, .status Reply.okayStatus rfl empty), (.text, .text abc)]
  have hrefused : Reading.For (.reply false) (.status (Utf8.ofString "FAIL") rfl refusal) :=
    .refused (by decide)
  refine ⟨?_, ?_, ?_⟩
  · have hfor : ∀ p ∈ row, Reading.For p.1 p.2 :=
      List.forall_mem_cons.mpr ⟨.accepted, List.forall_mem_cons.mpr ⟨hrefused,
        List.forall_mem_cons.mpr ⟨.okay, List.forall_mem_singleton.mpr .text⟩⟩⟩
    exact messages_exact.1 row (Utf8.ofString "tail") _ hfor ⟨rfl, rfl, ⟨Utf8.ofString "tail", rfl⟩⟩
  · have hready : Exchange.Ready { inflow := .ofBytes (Utf8.ofString "OKAYOKAYtail") }
        (Exchange.acceptances (some "S1")) (Utf8.ofString "tail") :=
      ⟨(Link.calm_ofBytes _).toWritable, (Link.calm_ofBytes _).brings rfl, rfl⟩
    obtain ⟨link', hr, -⟩ := messages_exact.2.2.1 (some "S1") .sync _ _
      (fun s hs => by cases hs; decide) (by decide) hready
    obtain ⟨tail, hbytes, hstream⟩ := messages_exact.2.1 _ _ _ _ rfl hr
    obtain rfl : Utf8.ofString "tail" = tail :=
      List.append_cancel_left (hready.bytes.symm.trans hbytes)
    exact ⟨link', hr, fun sizes => (hstream sizes).1⟩
  · exact messages_exact.2.2.2 (.reply false) _ (Utf8.ofString "ice!") _ hrefused (by decide) rfl
      (Link.timely_ofBytes _)

end DebugBridge
