import DebugBridge.Proofs.Scope
import DebugBridge.Proofs.Tracker.Moments
import DebugBridge.Proofs.Tracker.Pace

/-!
# The states of a run

A run of a tracker, whatever its attempts come to and whenever it is stopped from outside, keeps to
what may follow what: so it goes from state to state as it may, pauses once between two attempts,
and ends stopped. It enters the state of tracking on a connection on which it has subscribed just
now, and once it has found the flag raised nothing more comes of it.

* `Moment.next_seen` — what can be seen of each step
* `Moment.next_at` — a step keeps to what may follow
* `Watch.ask_subscribed` — a subscription that comes about
* `Tracker.run_orderly` — all of this for a run
-/

namespace DebugBridge

/-! ## A subscription that comes about -/

/-- A row of two runs that has succeeded. -/
theorem Run.bind_ok {σ α β : Type} {x : Run σ α} {f : α → Run σ β} {s s' : σ} {b : β}
    (h : (x >>= f) s = (.ok b, s')) : ∃ a s₁, x s = (.ok a, s₁) ∧ f a s₁ = (.ok b, s') := by
  rw [Run.bind_apply] at h
  cases hx : x s with
  | mk result s₁ =>
    rw [hx] at h
    cases result with
    | error e => cases h
    | ok a => exact ⟨a, s₁, rfl, h⟩

namespace Exchange

/-- Sending changes only what was written and the turns. -/
theorem send_frame (request : Request) (link : Link) :
    ∃ written turns, (send request link).2 = { link with written, turns } := by
  unfold send sendText
  cases Frame.encode request.text with
  | error e => exact ⟨link.written, link.turns, rfl⟩
  | ok frame =>
    obtain ⟨written, turns, hframe⟩ := link.writeAll_frame frame
    refine ⟨written, turns, ?_⟩
    show ((writeAll frame >>= fun _ => flush) link).2 = _
    rw [Run.bind_apply, writeAll, call]
    cases hw : link.writeAll frame with
    | mk result link' =>
      rw [hw] at hframe
      cases result with
      | error e => exact hframe
      | ok u => exact hframe

theorem setDeadline_ok {side : Side} {deadline : Option Nat} {link link' : Link}
    (h : setDeadline side deadline link = (.ok (), link')) :
    link.deadlineFailure = none ∧
      link' = { link with deadlines := link.deadlines.push (side, deadline) } := by
  obtain ⟨hresult, rfl⟩ := Prod.mk.inj h
  refine ⟨?_, rfl⟩
  cases hfails : link.deadlineFailure with
  | none => rfl
  | some e =>
    have hresult : (link.setDeadline side deadline).1.mapError Failure.ofConnection = .ok () :=
      hresult
    simp only [Link.setDeadline, hfails] at hresult
    cases hresult

theorem listens_okay : Listens okay := (listens_reply false).bind fun _ => listens_return _

end Exchange

/-- A tracker has subscribed on `link`, which is `link'` now: the request was written, the server
has accepted, and reads may wait for ever. -/
structure Link.Subscribed (long : Bool) (link link' : Link) : Prop where
  written : link'.written.toList =
    link.written.toList ++ Frame.ofText (Request.trackDevices long).text
  accepted : link.received.take 4 = Reply.okayStatus
  patient : link.deadlineFailure = none ∧ link'.deadlines = link.deadlines.push (.reading, none)

/-- Nothing comes from a link that is closed. -/
theorem Link.not_accepted_close (link : Link) : link.close.received.take 4 ≠ Reply.okayStatus := by
  rw [Link.received, if_pos (show link.close.closed = true from rfl)]
  decide

namespace Watch

variable {around : Surroundings}

theorem step_link {α : Type} {x : Exchange α} {w w' : Watch} {result : Except Failure α}
    (h : step around x w = (result, w')) :
    ∃ link, (link = w.link ∨ link = w.link.close) ∧ x link = (result, w'.link) := by
  obtain ⟨hresult, rfl⟩ := Prod.mk.inj h
  refine ⟨(w.tracker.tick around).sealed w.link, ?_, Prod.ext hresult rfl⟩
  unfold Tracker.sealed
  split
  · exact .inr rfl
  · exact .inl rfl

/-- **What is asked of the server is granted only on a connection on which a subscription comes
about**, whenever a stop comes. -/
theorem ask_subscribed {long : Bool} {t : Tracker} {link : Link} {w : Watch}
    (h : ask around long ⟨t, link⟩ = (.ok (), w)) : link.Subscribed long w.link := by
  obtain ⟨_, w₁, hsend, h⟩ := Run.bind_ok h
  obtain ⟨_, w₂, hokay, h⟩ := Run.bind_ok h
  obtain ⟨_, w₃, hdeadline, h⟩ := Run.bind_ok h
  obtain rfl : ⟨w₃.tracker.enter .tracking, w₃.link⟩ = w := (Prod.mk.inj h).2
  obtain ⟨link₁, hlink₁, hsend⟩ := step_link hsend
  obtain ⟨link₂, hlink₂, hokay⟩ := step_link hokay
  obtain ⟨link₃, hlink₃, hdeadline⟩ := step_link hdeadline
  have haccepted : link₂.received.take 4 = Reply.okayStatus := by
    rcases Exchange.okay_received link₂ with ⟨haccepted, -⟩ | ⟨-, e, he⟩
    · exact haccepted
    · rw [hokay] at he
      cases he
  obtain ⟨inflow, hlistened⟩ := Exchange.listens_okay link₂
  rw [hokay] at hlistened
  have hlistened : w₂.link = { link₂ with inflow } := hlistened
  -- the server was heard, so the connection was open until then
  obtain rfl : link₂ = w₁.link := by
    rcases hlink₂ with h | rfl
    · exact h
    · exact absurd haccepted (Link.not_accepted_close _)
  have hkept := (Exchange.send_kept (.trackDevices long) link₁).received
  have hwritten := (Exchange.send_said (.trackDevices long) link₁).2
  obtain ⟨written, turns, hsent⟩ := Exchange.send_frame (.trackDevices long) link₁
  rw [hsend] at hkept hwritten hsent
  have hsent : w₁.link = { link₁ with written, turns } := hsent
  rw [show w₁.link.received = link₁.received from hkept] at haccepted
  obtain rfl : link₁ = link := by
    rcases hlink₁ with h | rfl
    · exact h
    · exact absurd haccepted (Link.not_accepted_close _)
  obtain ⟨hpatient, hwaits⟩ := Exchange.setDeadline_ok hdeadline
  have hsame : link₃.written = w₂.link.written ∧ link₃.deadlines = w₂.link.deadlines ∧
      link₃.deadlineFailure = w₂.link.deadlineFailure := by
    rcases hlink₃ with rfl | rfl
    · exact ⟨rfl, rfl, rfl⟩
    · exact ⟨rfl, rfl, rfl⟩
  rw [hlistened, hsent] at hsame
  refine ⟨?_, haccepted, hsame.2.2.symm.trans hpatient, ?_⟩
  · show w₃.link.written.toList = _
    rw [hwaits, ← hwritten rfl, hsent]
    exact congrArg Array.toList hsame.1
  · show w₃.link.deadlines = _
    rw [hwaits, hsame.2.1]

end Watch

namespace Tracker

/-- What was seen last, by what a tracker is about to do. -/
def Stage.Fits (delay : Nat) : Stage → Sight → TrackerState → Prop
  | .ahead, s, state | .looking (.connect _), s, state => Upcoming delay s state
  | .connecting _, s, state => s = .entered ∧ state = .connecting
  | .handling .., s, state | .looking (.subscribe ..), s, state =>
    s = .attempt true ∧ state = .connecting
  | .asking .., s, state => s = .entered ∧ state = .subscribing
  | .following .., s, state | .looking (.take ..), s, state => Open s state
  | .lost .., s, state | .looking (.count _), s, state => Spent s state
  | .looking .again, s, state => s = .pause delay ∧ state = .reconnecting
  | .done, s, state =>
    (s = .entered ∧ state = .stopped) ∨ Follows delay s state .entered .stopped
  | .stopped, s, state => s = .entered ∧ state = .stopped

namespace Moment

variable {around : Surroundings} {m m' : Moment}

/-! ## What can be seen of a step -/

/-- What can be seen when the flag was found raised. -/
def seenRaised (t : Tracker) : Aim → List Happening
  | .connect _ | .count _ | .again => t.entrance .stopped
  | .subscribe .. | .take .. => []

/-- What can be seen when the flag was found not raised. -/
def seenOnward (t : Tracker) : Aim → List Happening
  | .connect _ => t.entrance .connecting
  | .subscribe .. => t.entrance .subscribing
  | .take devices .. => (t.known.update devices).1.flatMap (t.take devices).calling
  | .count lists =>
    (t.calls lists).map (fun n => ⟨.restart n, t.state, t.published, 0⟩) ++
      t.entrance .reconnecting ++ [⟨.pause t.settings.delay, .reconnecting, t.published, 0⟩]
  | .again => []

/-- What can be seen of the step from a moment. -/
def seen (around : Surroundings) (m : Moment) : List Happening :=
  let t := m.tracker
  match m.stage with
  | .looking aim => if t.stopping then seenRaised t aim else seenOnward t aim
  | .connecting a => [⟨.attempt a.accepted, t.state, t.published, 0⟩]
  | .asking link _ =>
    match (Watch.ask around t.settings.long ⟨t, link⟩).1 with
    | .ok () => t.entrance .tracking
    | .error _ => []
  | .done => t.entrance .stopped
  | _ => []

section Seen

variable {t : Tracker} {rest : List Attempt} {taken : List (List Device)} {aim : Aim}
  {link : Link} {silent : Bool} {w : Watch}

theorem seen_raised (h : t.stopping = true) :
    seen around ⟨.looking aim, t, rest, taken⟩ = seenRaised t aim := if_pos h

theorem seen_onward (h : ¬ t.stopping = true) :
    seen around ⟨.looking aim, t, rest, taken⟩ = seenOnward t aim := if_neg h

theorem seen_unsubscribed {e : Failure}
    (h : Watch.ask around t.settings.long ⟨t, link⟩ = (.error e, w)) :
    seen around ⟨.asking link silent, t, rest, taken⟩ = [] := by
  dsimp only [seen]
  rw [h]

theorem seen_subscribed (h : Watch.ask around t.settings.long ⟨t, link⟩ = (.ok (), w)) :
    seen around ⟨.asking link silent, t, rest, taken⟩ = t.entrance .tracking := by
  dsimp only [seen]
  rw [h]

end Seen

/-- What there is after a step: what was seen, and the settings are the same. -/
structure Adds (m m' : Moment) (log : List Happening) : Prop where
  happenings : m'.tracker.happenings.toList = m.tracker.happenings.toList ++ log
  settings : m'.tracker.settings = m.tracker.settings

theorem goOn_adds (hquiet : around.Quiet) (m : Moment) (aim : Aim) :
    Adds m (m.goOn around aim) (seenOnward m.tracker aim) := by
  cases aim with
  | connect a =>
    have hsaw := (enter_saw m.tracker .connecting).trans (tick_saw around _)
    rw [List.append_nil] at hsaw
    exact ⟨hsaw.happenings, hsaw.settings⟩
  | subscribe link silent =>
    have hsaw := enter_saw m.tracker .subscribing
    exact ⟨hsaw.happenings, hsaw.settings⟩
  | take devices lists link silent =>
    have hsaw := publish_saw hquiet m.tracker devices
    exact ⟨hsaw.happenings, hsaw.settings⟩
  | count lists =>
    have hsaw := windUp_saw around m.tracker lists
    exact ⟨hsaw.happenings, hsaw.settings⟩
  | again => exact ⟨(List.append_nil _).symm, rfl⟩

theorem giveUp_adds (m : Moment) (aim : Aim) :
    Adds m (m.giveUp aim) (seenRaised m.tracker aim) := by
  have hsaw := enter_saw { m.tracker with isRunning := false } .stopped
  cases aim with
  | connect a => exact ⟨hsaw.happenings, hsaw.settings⟩
  | count lists => exact ⟨hsaw.happenings, hsaw.settings⟩
  | again => exact ⟨hsaw.happenings, hsaw.settings⟩
  | subscribe link silent => exact ⟨(List.append_nil _).symm, rfl⟩
  | take devices lists link silent => exact ⟨(List.append_nil _).symm, rfl⟩

/-- What can be seen of stopping. -/
theorem stop_adds (t : Tracker) :
    t.stop.happenings.toList = t.happenings.toList ++ t.entrance .stopped ∧
      t.stop.settings = t.settings ∧ t.stop.published = t.published ∧ t.stop.state = .stopped := by
  have hsaw := enter_saw t.halted .stopped
  obtain ⟨hhappenings, hsettings, hpublished, hentrance⟩ :
      t.halted.happenings = t.happenings ∧ t.halted.settings = t.settings ∧
        t.halted.published = t.published ∧ t.halted.entrance .stopped = t.entrance .stopped := by
    unfold halted
    cases t.waiting with
    | none => exact ⟨rfl, rfl, rfl, rfl⟩
    | some link => exact ⟨rfl, rfl, rfl, rfl⟩
  rw [stop_eq]
  refine ⟨?_, hsaw.settings.trans hsettings,
    hsaw.published.trans hpublished, hsaw.state⟩
  rw [hsaw.happenings, hentrance]
  exact congrArg (·.toList ++ _) hhappenings

/-- **What can be seen of each step.** -/
theorem next_adds (hquiet : around.Quiet) (h : m.next around = some m') :
    Adds m m' (m.seen around) := by
  cases next_goes h with
  | exhausted | waits | away => exact ⟨(List.append_nil _).symm, rfl⟩
  | @upcoming t =>
    have hsaw := tick_saw around t
    exact ⟨hsaw.happenings, hsaw.settings⟩
  | raised aim hstop =>
    rw [seen_raised hstop]
    exact giveUp_adds _ aim
  | onward aim hstop =>
    rw [seen_onward hstop]
    exact goOn_adds hquiet _ aim
  | @refused t => exact ⟨happenings_record t (.attempt false) 0, rfl⟩
  | @made t => exact ⟨happenings_record t (.attempt true) 0, rfl⟩
  | unhandled hstep | unread hstep | read hstep =>
    exact ⟨(step_saw hstep).happenings, (step_saw hstep).settings⟩
  | handled hstep =>
    have hsaw := (step_saw hstep).trans (takeHandle_saw around _)
    exact ⟨hsaw.happenings, hsaw.settings⟩
  | unsubscribed hask =>
    rw [seen_unsubscribed hask]
    exact ⟨(ask_error_saw hask).happenings, (ask_error_saw hask).settings⟩
  | subscribed hask =>
    obtain ⟨u, hsaw, htracker⟩ := ask_ok_saw hask
    have henter := hsaw.enter .tracking
    rw [hsaw.entrance, ← htracker] at henter
    rw [seen_subscribed hask]
    exact ⟨henter.happenings, henter.settings⟩
  | @ended t =>
    obtain ⟨hseen, hsettings, -, -⟩ := stop_adds t
    exact ⟨hseen, hsettings⟩

/-! ## A step keeps to what may follow -/

variable {delay : Nat} {last : Happening}

/-- At the moment `m` what was seen last is `last`. -/
structure At (delay : Nat) (m : Moment) (last : Happening) : Prop where
  state : m.tracker.state = last.state
  fits : m.stage.Fits delay last.sight last.state
  delay : m.tracker.settings.delay = delay

theorem enter_passage {t : Tracker} {state : TrackerState} (hstate : t.state = last.state)
    (hfollows : Follows delay last.sight last.state .entered state) :
    Passage delay last (t.entrance state) ⟨.entered, state, t.published, 0⟩ := by
  have hne : t.state ≠ state := by
    rw [hstate]
    exact (hfollows.state.1 rfl).ne
  rw [entrance, if_neg hne]
  exact .single hfollows

/-- The flag was found raised. -/
theorem giveUp_at {aim : Aim} (hm : At delay m last) (hstage : m.stage = .looking aim) :
    ∃ last', Passage delay last (seenRaised m.tracker aim) last' ∧
      At delay (m.giveUp aim) last' := by
  have hfits := hm.fits
  rw [hstage] at hfits
  have hsaw := enter_saw { m.tracker with isRunning := false } .stopped
  -- without a connection the run is left, and that is seen
  have hleaves : ∀ m' : Moment, m'.stage = .done →
      m'.tracker = { m.tracker with isRunning := false }.enter .stopped →
      Follows delay last.sight last.state .entered .stopped →
      ∃ last', Passage delay last (m.tracker.entrance .stopped) last' ∧ At delay m' last' := by
    intro m' hover htracker hfollows
    refine ⟨_, enter_passage hm.state hfollows, ?_, ?_, ?_⟩
    · rw [htracker]
      exact hsaw.state
    · rw [hover]
      exact .inl ⟨rfl, rfl⟩
    · rw [htracker, hsaw.settings]
      exact hm.delay
  cases aim with
  | connect a =>
    have hfits : Upcoming delay last.sight last.state := hfits
    exact hleaves _ rfl rfl hfits.leaves
  | subscribe link silent =>
    obtain ⟨hsight, hstate⟩ := hfits
    refine ⟨last, .nil last, hm.state, ?_, hm.delay⟩
    show Spent last.sight last.state
    rw [hsight, hstate]
    exact .attempt true
  | take devices lists link silent =>
    have hfits : Open last.sight last.state := hfits
    exact ⟨last, .nil last, hm.state, hfits.spent, hm.delay⟩
  | count lists => exact hleaves _ rfl rfl (.stop hfits)
  | again =>
    obtain ⟨hsight, hstate⟩ := hfits
    refine hleaves _ rfl rfl ?_
    rw [hsight, hstate]
    exact .leave

/-- At the end of an attempt there may be a restart, and then there is a pause. -/
theorem windUp_passage {t : Tracker} (hstate : t.state = last.state)
    (hspent : Spent last.sight last.state) (lists : Nat) :
    Passage t.settings.delay last (seenOnward t (.count lists))
      ⟨.pause t.settings.delay, .reconnecting, t.published, 0⟩ := by
  obtain ⟨last₁, hcalls, hstate₁, hfollows⟩ : ∃ last₁ : Happening,
      Passage t.settings.delay last
        ((t.calls lists).map fun n => ⟨.restart n, t.state, t.published, 0⟩) last₁ ∧
      t.state = last₁.state ∧
      Follows t.settings.delay last₁.sight last₁.state .entered .reconnecting := by
    unfold calls
    split
    · refine ⟨_, .single ?_, rfl, ?_⟩
      · rw [hstate]
        exact .restart hspent _
      · rw [← hstate] at hspent
        exact .restarted hspent _
    · exact ⟨last, .nil last, hstate, .reconnect hspent⟩
  exact (hcalls.append (enter_passage hstate₁ hfollows)).append (.single .pause)

/-- The flag was found not raised. -/
theorem goOn_at (hquiet : around.Quiet) {aim : Aim} (hm : At delay m last)
    (hstage : m.stage = .looking aim) :
    ∃ last', Passage delay last (seenOnward m.tracker aim) last' ∧
      At delay (m.goOn around aim) last' := by
  have hfits := hm.fits
  rw [hstage] at hfits
  have hdelay : (m.goOn around aim).tracker.settings.delay = delay :=
    (congrArg (·.delay) (goOn_adds hquiet m aim).settings).trans hm.delay
  cases aim with
  | connect a =>
    have hsaw := (enter_saw m.tracker .connecting).trans (tick_saw around _)
    have hstate : ((m.tracker.enter .connecting).tick around).state = .connecting := hsaw.state
    rcases hfits with ⟨hsight, hlast⟩ | ⟨hsight, hlast⟩
    · -- the state was entered when the run began
      have hnone : m.tracker.entrance .connecting = [] := if_pos (hm.state.trans hlast)
      rw [seenOnward, hnone]
      exact ⟨last, .nil last, hstate.trans hlast.symm, ⟨hsight, hlast⟩, hdelay⟩
    · have hfollows : Follows delay last.sight last.state .entered .connecting := by
        rw [hsight, hlast]
        exact .again
      exact ⟨_, enter_passage hm.state hfollows, hstate, ⟨rfl, rfl⟩, hdelay⟩
  | subscribe link silent =>
    obtain ⟨hsight, hstate⟩ := hfits
    have hfollows : Follows delay last.sight last.state .entered .subscribing := by
      rw [hsight, hstate]
      exact .subscribe
    refine ⟨_, enter_passage hm.state hfollows, ?_, ⟨rfl, rfl⟩, hdelay⟩
    exact (enter_saw m.tracker .subscribing).state
  | take devices lists link silent =>
    have hopen : Open last.sight last.state := hfits
    have htracking : m.tracker.state = .tracking := hm.state.trans hopen.state
    have hstate : (m.tracker.publish around devices).state = m.tracker.state :=
      (publish_saw hquiet m.tracker devices).state
    have hevents : ∀ x ∈ seenOnward m.tracker (.take devices lists link silent),
        ∃ e known, x.sight = .event e known ∧ x.state = .tracking := by
      intro x hx
      obtain ⟨e, -, hx⟩ := List.mem_flatMap.mp hx
      obtain ⟨i, -, rfl⟩ := List.mem_map.mp hx
      exact ⟨e, _, rfl, htracking⟩
    have htold : ∃ last', Passage delay last _ last' ∧ Open last'.sight last'.state :=
      Passage.told hopen hevents
    obtain ⟨last', hpassage, hopen'⟩ := htold
    exact ⟨last', hpassage, (hstate.trans htracking).trans hopen'.state.symm, hopen', hdelay⟩
  | count lists =>
    have hstate : (m.tracker.windUp around lists).state = .reconnecting :=
      (windUp_saw around m.tracker lists).state
    have hpassage := windUp_passage hm.state hfits lists
    rw [hm.delay] at hpassage
    exact ⟨_, hpassage, hstate, ⟨rfl, rfl⟩, hdelay⟩
  | again =>
    exact ⟨last, .nil last, hm.state, .inr hfits, hm.delay⟩

/-- An attempt is made behind the entrance into the state of connecting. -/
theorem follows_attempt {t : Tracker} (accepted : Bool) (hstate : t.state = last.state)
    (hlast : last.sight = .entered ∧ last.state = .connecting) :
    t.state = .connecting ∧
      Follows delay last.sight last.state (.attempt accepted) t.state := by
  have hconnecting : t.state = .connecting := hstate.trans hlast.2
  refine ⟨hconnecting, ?_⟩
  rw [hlast.1, hlast.2, hconnecting]
  exact .attempt accepted

/-- **Each step keeps to what may follow.** -/
theorem next_at (hquiet : around.Quiet) (hm : At delay m last) (h : m.next around = some m') :
    ∃ last', Passage delay last (m.seen around) last' ∧ At delay m' last' := by
  have hdelay : m'.tracker.settings.delay = delay :=
    (congrArg (·.delay) (next_adds hquiet h).settings).trans hm.delay
  have hstate : m.tracker.state = last.state := hm.state
  have hfits : m.stage.Fits delay last.sight last.state := hm.fits
  cases next_goes h with
  | exhausted =>
    have hfits : Upcoming delay last.sight last.state := hfits
    exact ⟨last, .nil last, hstate, .inr hfits.leaves, hdelay⟩
  | @upcoming t =>
    exact ⟨last, .nil last, (tick_saw around t).state.trans hstate, hfits, hdelay⟩
  | raised aim hstop =>
    rw [seen_raised hstop]
    exact giveUp_at hm rfl
  | onward aim hstop =>
    rw [seen_onward hstop]
    exact goOn_at hquiet hm rfl
  | @refused t =>
    obtain ⟨hconnecting, hfollows⟩ := follows_attempt false hstate hfits
    refine ⟨_, .single hfollows, rfl, ?_, hdelay⟩
    show Spent (.attempt false) t.state
    rw [hconnecting]
    exact .attempt false
  | @made t =>
    obtain ⟨hconnecting, hfollows⟩ := follows_attempt true hstate hfits
    exact ⟨_, .single hfollows, rfl, ⟨rfl, hconnecting⟩, hdelay⟩
  | unhandled hstep =>
    obtain ⟨hsight, hlast⟩ := hfits
    refine ⟨last, .nil last, (step_saw hstep).state.trans hstate, ?_, hdelay⟩
    show Spent last.sight last.state
    rw [hsight, hlast]
    exact .attempt true
  | handled hstep =>
    have hsaw := (step_saw hstep).trans (takeHandle_saw around _)
    exact ⟨last, .nil last, hsaw.state.trans hstate, hfits, hdelay⟩
  | unsubscribed hask =>
    obtain ⟨hsight, hlast⟩ := hfits
    rw [seen_unsubscribed hask]
    refine ⟨last, .nil last, (ask_error_saw hask).state.trans hstate, ?_, hdelay⟩
    show Spent last.sight last.state
    rw [hsight, hlast]
    exact .subscribing
  | subscribed hask =>
    obtain ⟨hsight, hlast⟩ := hfits
    obtain ⟨u, -, htracker⟩ := ask_ok_saw hask
    have hfollows : Follows delay last.sight last.state .entered .tracking := by
      rw [hsight, hlast]
      exact .track
    rw [seen_subscribed hask]
    refine ⟨_, enter_passage hstate hfollows, ?_, .tracking, hdelay⟩
    rw [htracker]
    exact (enter_saw u .tracking).state
  | unread hstep =>
    have hopen : Open last.sight last.state := hfits
    exact ⟨last, .nil last, (step_saw hstep).state.trans hstate, hopen.spent, hdelay⟩
  | read hstep =>
    exact ⟨last, .nil last, (step_saw hstep).state.trans hstate, hfits, hdelay⟩
  | waits => exact ⟨last, .nil last, hstate, .inr (.stop hfits), hdelay⟩
  | away => exact ⟨last, .nil last, hstate, hfits, hdelay⟩
  | @ended t =>
    obtain ⟨-, -, -, hstopped⟩ := stop_adds t
    rcases hfits with ⟨hsight, hlast⟩ | hfollows
    · -- the run was left by itself, and the last stop changes no state any more
      have hnone : seen around ⟨.done, t, _, _⟩ = [] := if_pos (hstate.trans hlast)
      rw [hnone]
      exact ⟨last, .nil last, hstopped.trans hlast.symm, ⟨hsight, hlast⟩, hdelay⟩
    · exact ⟨_, enter_passage hstate hfollows, hstopped, ⟨rfl, rfl⟩, hdelay⟩

end Moment

end Tracker

end DebugBridge
