import DebugBridge.Proofs.Tracker.Run
import Mathlib.Logic.Relation

/-!
# The moments of a run

`work`, `attempt` and `follow` say what a run of a tracker comes to. Here the same run goes from one
moment to the next, so that it can be told what holds all along: before each look at the flag, on
each connection, and whenever a list was taken. It takes place in any surroundings, so a stop may
come at any step.

* `Moment.next` — the moment that follows, and `Moment.Goes` — what a step can be
* `Saw` — what a step lets be seen, in any surroundings
* `Moment.reaches_stop` — the moments lead to what `start` and `stop` give
* `Moment.Reaches.keeps` — what every step keeps holds at every moment
-/

namespace DebugBridge

/-- The listeners stop nothing: a stop comes from outside. -/
def Surroundings.Quiet (around : Surroundings) : Prop := ∀ n, around.listenerStops n = false

namespace Tracker

/-- What a tracker goes on to when it has found the flag not raised. -/
inductive Aim where
  | connect (a : Attempt)
  /-- To subscribe on a connection. -/
  | subscribe (link : Link) (silent : Bool)
  /-- To take a list that has come behind `lists` others on this connection. -/
  | take (devices : List Device) (lists : Nat) (link : Link) (silent : Bool)
  /-- To count an attempt that has brought so many lists. -/
  | count (lists : Nat)
  /-- To begin anew. -/
  | again

/-- What a tracker is about to do. -/
inductive Stage where
  /-- To take up the next attempt. -/
  | ahead
  /-- To look at the flag. -/
  | looking (aim : Aim)
  | connecting (a : Attempt)
  /-- To get a handle to a connection. -/
  | handling (link : Link) (silent : Bool)
  /-- To ask for the lists. -/
  | asking (link : Link) (silent : Bool)
  /-- To read the next list on a connection that has brought so many. -/
  | following (lists : Nat) (link : Link) (silent : Bool)
  /-- To put a connection away. -/
  | lost (lists : Nat) (failure : Option Failure) (link : Link) (silent : Bool)
  /-- Nothing more: the run is over, or it waits on a connection that has fallen silent. -/
  | done
  /-- Nothing more: the run has come to its end. -/
  | stopped

/-- A moment of a run. -/
structure Moment where
  stage : Stage
  tracker : Tracker
  /-- The attempts that are still to be made. -/
  rest : List Attempt
  /-- The lists that the run has taken. -/
  taken : List (List Device) := []

/-- What a tracker does when it has got a handle. -/
def takeHandle (around : Surroundings) (t : Tracker) : Tracker :=
  { t with handled := true }.tick around

/-- What a tracker does at the end of an attempt. -/
def windUp (around : Surroundings) (t : Tracker) (lists : Nat) : Tracker :=
  let t := (t.count around lists).enter .reconnecting
  (t.record (.pause t.settings.delay)).tick around

namespace Moment

/-- The first moment of a run. -/
def first (t : Tracker) (attempts : List Attempt) : Moment where
  stage := .ahead
  tracker := t.fresh.enter .connecting
  rest := attempts

/-- The flag was found raised. -/
def giveUp (m : Moment) : Aim → Moment
  | .subscribe link silent => { m with stage := .lost 0 (some .cancelled) link.close silent }
  | .take _ lists link silent => { m with stage := .lost lists none link silent }
  | .connect a => { m with
      stage := .done
      tracker := { m.tracker with isRunning := false }.enter .stopped
      rest := a :: m.rest }
  | .count _ | .again =>
    { m with stage := .done, tracker := { m.tracker with isRunning := false }.enter .stopped }

/-- The flag was found not raised. -/
def goOn (around : Surroundings) (m : Moment) : Aim → Moment
  | .connect a =>
    { m with stage := .connecting a, tracker := (m.tracker.enter .connecting).tick around }
  | .subscribe link silent =>
    { m with stage := .asking link silent, tracker := m.tracker.enter .subscribing }
  | .take devices lists link silent => { m with
      stage := .following (lists + 1) link silent
      tracker := m.tracker.publish around devices
      taken := m.taken ++ [devices] }
  | .count lists => { m with stage := .looking .again, tracker := m.tracker.windUp around lists }
  | .again => { m with stage := .ahead }

/-- The moment that follows. -/
def next (around : Surroundings) (m : Moment) : Option Moment :=
  let t := m.tracker
  match m.stage with
  | .ahead =>
    match m.rest with
    | [] => some { m with stage := .done }
    | a :: rest => some { m with stage := .looking (.connect a), tracker := t.tick around, rest }
  | .looking aim => some (if t.stopping then m.giveUp aim else m.goOn around aim)
  | .connecting .refused =>
    let t := t.record (.attempt false)
    some { m with stage := .looking (.count 0), tracker := { t with links := t.links.push none } }
  | .connecting (.made link silent) =>
    some { m with stage := .handling link silent, tracker := t.record (.attempt true) }
  | .handling link silent =>
    match Watch.step around Exchange.needHandle ⟨t, link⟩ with
    | (.error e, w) =>
      some { m with stage := .lost 0 (some e) w.link silent, tracker := w.tracker }
    | (.ok (), w) => some { m with
        stage := .looking (.subscribe w.link silent)
        tracker := w.tracker.takeHandle around }
  | .asking link silent =>
    match Watch.ask around t.settings.long ⟨t, link⟩ with
    | (.error e, w) =>
      some { m with stage := .lost 0 (some e) w.link silent, tracker := w.tracker }
    | (.ok (), w) => some { m with stage := .following 0 w.link silent, tracker := w.tracker }
  | .following lists link silent =>
    match Watch.step around Exchange.text ⟨t, link⟩ with
    | (.error e, w) =>
      some { m with stage := .lost lists (some e) w.link silent, tracker := w.tracker }
    | (.ok body, w) => some { m with
        stage := .looking (.take (Device.parseList body) lists w.link silent)
        tracker := w.tracker }
  | .lost lists failure link silent =>
    if silent && Watch.waits ⟨t, link⟩ failure then
      some { m with stage := .done, tracker := { t with waiting := some link } }
    else some { m with stage := .looking (.count lists), tracker := t.putAway link }
  | .done => some { m with stage := .stopped, tracker := t.stop }
  | .stopped => none

end Moment

/-! ## Steps in any surroundings -/

/-- A tracker without what a stop, the clock and the calls of its listeners change, and without what
can be seen of it. -/
def lasting (t : Tracker) : Tracker :=
  { t with
    stopping := false, handled := false, cut := false, clock := 0, told := 0, happenings := #[] }

/-- From `t` to `t'` there is `log` to be seen, and nothing that lasts has changed. The flag may
have been raised. -/
structure Saw (t t' : Tracker) (log : List Happening) : Prop where
  lasting : t'.lasting = t.lasting
  happenings : t'.happenings.toList = t.happenings.toList ++ log
  stopping : t.stopping = true → t'.stopping = true

variable {around : Surroundings} {t t' t'' : Tracker} {log log' : List Happening}

theorem Saw.refl (t : Tracker) : Saw t t [] := ⟨rfl, (List.append_nil _).symm, id⟩

theorem Saw.trans (h : Saw t t' log) (h' : Saw t' t'' log') : Saw t t'' (log ++ log') where
  lasting := h'.lasting.trans h.lasting
  happenings := by rw [h'.happenings, h.happenings, List.append_assoc]
  stopping hstop := h'.stopping (h.stopping hstop)

theorem Saw.settings (h : Saw t t' log) : t'.settings = t.settings :=
  congrArg (·.settings) h.lasting

theorem Saw.state (h : Saw t t' log) : t'.state = t.state := congrArg (·.state) h.lasting

theorem Saw.published (h : Saw t t' log) : t'.published = t.published :=
  congrArg (·.published) h.lasting

theorem Saw.listeners (h : Saw t t' log) : t'.listeners = t.listeners :=
  congrArg (·.listeners) h.lasting

theorem Saw.waiting (h : Saw t t' log) : t'.waiting = t.waiting := congrArg (·.waiting) h.lasting

theorem tick_saw (around : Surroundings) (t : Tracker) : Saw t (t.tick around) [] := by
  rw [tick]
  by_cases hstops : around.stops t.clock = true
  · rw [if_pos hstops]
    exact ⟨rfl, (List.append_nil _).symm, fun _ => rfl⟩
  · rw [if_neg hstops]
    refine ⟨rfl, (List.append_nil _).symm, fun hstopping => ?_⟩
    show (around.raises t.clock || t.stopping) = true
    rw [hstopping, Bool.or_true]

theorem record_saw (t : Tracker) (sight : Sight) (listener : Nat) :
    Saw t (t.record sight listener) [⟨sight, t.state, t.published, listener⟩] :=
  ⟨rfl, happenings_record t sight listener, id⟩

theorem takeHandle_saw (around : Surroundings) (t : Tracker) : Saw t (t.takeHandle around) [] := by
  have hhandled : Saw t { t with handled := true } [] := ⟨rfl, (List.append_nil _).symm, id⟩
  exact hhandled.trans (tick_saw around _)

/-- What can be seen when a state is entered. -/
def entrance (t : Tracker) (state : TrackerState) : List Happening :=
  if t.state = state then [] else [⟨.entered, state, t.published, 0⟩]

theorem enter_saw (t : Tracker) (state : TrackerState) :
    Saw { t with state } (t.enter state) (t.entrance state) := by
  unfold enter entrance
  by_cases h : t.state = state
  · rw [if_pos h, if_pos h, ← h]
    exact .refl t
  · rw [if_neg h, if_neg h]
    exact record_saw { t with state } .entered 0

/-- What can be seen when the listeners are told of an event. -/
def calling (t : Tracker) (e : DeviceEvent) : List Happening :=
  (List.range t.listeners).map fun i => ⟨.event e t.published.length, t.state, t.published, i⟩

theorem call_saw (hquiet : around.Quiet) (t : Tracker) (e : DeviceEvent) (i : Nat) :
    Saw t (call around e t i) [⟨.event e t.published.length, t.state, t.published, i⟩] := by
  have htick := tick_saw around t
  have hcall : call around e t i =
      { (t.tick around).record (.event e t.published.length) i with
        told := (t.tick around).told + 1 } := by
    rw [call]
    simp only [hquiet _, Bool.false_eq_true, if_false]
    rfl
  rw [hcall]
  refine ⟨htick.lasting, ?_, htick.stopping⟩
  show ((t.tick around).record (.event e t.published.length) i).happenings.toList = _
  rw [happenings_record, htick.happenings, List.append_nil, htick.state, htick.published]

theorem tell_saw (hquiet : around.Quiet) (t : Tracker) (e : DeviceEvent) :
    Saw t (t.tell around e) (t.calling e) := by
  have hrow : ∀ (who : List Nat) (t : Tracker), Saw t (who.foldl (call around e) t)
      (who.map fun i => ⟨.event e t.published.length, t.state, t.published, i⟩) := by
    intro who
    induction who with
    | nil => exact fun t => .refl t
    | cons i who ih =>
      intro t
      have hcall := call_saw hquiet t e i
      have hrest := ih (call around e t i)
      rw [hcall.state, hcall.published] at hrest
      exact hcall.trans hrest
  exact hrow _ t

/-- **Listeners are told while nothing else changes.** -/
theorem foldl_tell_saw (hquiet : around.Quiet) (t : Tracker) (events : List DeviceEvent) :
    Saw t (events.foldl (tell around) t) (events.flatMap t.calling) := by
  induction events generalizing t with
  | nil => exact .refl t
  | cons e events ih =>
    have htell := tell_saw hquiet t e
    have hcalling : (t.tell around e).calling = t.calling := by
      funext f
      rw [calling, calling, htell.listeners, htell.state, htell.published]
    have hrest := ih (t.tell around e)
    rw [hcalling] at hrest
    exact htell.trans hrest

/-- A list is published, and then the listeners are told of its events. -/
theorem publish_saw (hquiet : around.Quiet) (t : Tracker) (devices : List Device) :
    Saw (t.take devices) (t.publish around devices)
      ((t.known.update devices).1.flatMap (t.take devices).calling) :=
  foldl_tell_saw hquiet (t.take devices) _

/-- An attempt is counted, and a restart may be asked for. -/
theorem count_saw (around : Surroundings) (t : Tracker) (lists : Nat) :
    Saw (t.counted lists) (t.count around lists)
      ((t.calls lists).map fun n => ⟨.restart n, t.state, t.published, 0⟩) := by
  have hif : (0 < t.settings.restartAfter &&
      t.settings.restartAfter ≤ (if lists > 0 then 0 else t.failed) + 1) = t.due lists := rfl
  have htick := tick_saw around t
  have hcan : (t.tick around).settings.canRestart = t.settings.canRestart :=
    congrArg (·.settings.canRestart) htick.lasting
  unfold count
  simp only [hif, counted, calls, hcan]
  cases hdue : t.due lists with
  | true =>
    simp only [if_true, Bool.true_and]
    cases hcan : t.settings.canRestart with
    | true =>
      refine ⟨?_, ?_, htick.stopping⟩
      · exact congrArg (fun u : Tracker => { u with failed := 0, restarts := u.restarts + 1 })
          htick.lasting
      · have hrestarts : (t.tick around).restarts = t.restarts :=
          congrArg (·.restarts) htick.lasting
        simp only [if_true, happenings_record, htick.happenings, List.append_nil, htick.state,
          htick.published, hrestarts]
        rfl
    | false =>
      refine ⟨congrArg (fun u : Tracker => { u with failed := 0 }) htick.lasting, ?_,
        htick.stopping⟩
      exact htick.happenings
  | false => exact ⟨rfl, (List.append_nil _).symm, id⟩

theorem Saw.enter (h : Saw t t' log) (state : TrackerState) :
    Saw { t with state } (t'.enter state) (log ++ t'.entrance state) := by
  have hstate : Saw { t with state } { t' with state } log :=
    ⟨congrArg (fun u : Tracker => { u with state }) h.lasting, h.happenings, h.stopping⟩
  exact hstate.trans (enter_saw t' state)

theorem Saw.entrance (h : Saw t t' log) (state : TrackerState) :
    t'.entrance state = t.entrance state := by
  rw [Tracker.entrance, Tracker.entrance, h.state, h.published]

/-- **An attempt ends with a restart, if it is one too many, and a pause**, also in any
surroundings. -/
theorem windUp_saw (around : Surroundings) (t : Tracker) (lists : Nat) :
    Saw { t.counted lists with state := .reconnecting } (t.windUp around lists)
      ((t.calls lists).map (fun n => ⟨.restart n, t.state, t.published, 0⟩) ++
        t.entrance .reconnecting ++
        [⟨.pause t.settings.delay, .reconnecting, t.published, 0⟩]) := by
  have hcount := count_saw around t lists
  have henter := hcount.enter .reconnecting
  have hentrance : (t.count around lists).entrance .reconnecting = t.entrance .reconnecting :=
    hcount.entrance .reconnecting
  rw [hentrance] at henter
  let t' := (t.count around lists).enter .reconnecting
  have hpause := (record_saw t' (.pause t'.settings.delay) 0).trans (tick_saw around _)
  rw [List.append_nil, show t'.settings = t.settings from henter.settings,
    show t'.state = .reconnecting from henter.state,
    show t'.published = t.published from henter.published] at hpause
  have hwindUp : t.windUp around lists =
      (t'.record (.pause t.settings.delay)).tick around := by
    rw [← show t'.settings = t.settings from henter.settings]
    rfl
  rw [hwindUp]
  exact henter.trans hpause

/-! A connection that a tracker waits on is left alone by all of this, whatever listeners do. -/

theorem waiting_enter (t : Tracker) (state : TrackerState) :
    (t.enter state).waiting = t.waiting := by
  unfold enter
  split
  · rfl
  · rfl

theorem waiting_call (around : Surroundings) (e : DeviceEvent) (t : Tracker) (i : Nat) :
    (call around e t i).waiting = t.waiting := by
  have htick : (t.tick around).waiting = t.waiting :=
    (tick_saw around t).waiting
  rw [call]
  split
  · rw [waiting_enter]
    exact htick
  · exact htick

theorem waiting_publish (around : Surroundings) (t : Tracker) (devices : List Device) :
    (t.publish around devices).waiting = t.waiting := by
  have htell : ∀ (t : Tracker) (e : DeviceEvent), (t.tell around e).waiting = t.waiting := by
    intro t e
    refine List.foldlRecOn (motive := fun u : Tracker => u.waiting = t.waiting) _ _ rfl ?_
    intro u hu i _
    exact (waiting_call around e u i).trans hu
  refine List.foldlRecOn (motive := fun u : Tracker => u.waiting = t.waiting) _ _ rfl ?_
  intro u hu e _
  exact (htell u e).trans hu

/-- A step on the connection is a step of the tracker. -/
theorem step_saw {α : Type} {x : Exchange α} {w w' : Watch} {result : Except Failure α}
    (h : Watch.step around x w = (result, w')) : Saw w.tracker w'.tracker [] := by
  obtain ⟨-, rfl⟩ := Prod.mk.inj h
  exact tick_saw around w.tracker

/-- Asking for the lists takes steps, and if it succeeds the tracker is tracking. -/
theorem ask_saw (around : Surroundings) (long : Bool) (w : Watch) :
    ∃ u, Saw w.tracker u [] ∧
      ((∃ e link, Watch.ask around long w = (.error e, ⟨u, link⟩)) ∨
        ∃ link, Watch.ask around long w = (.ok (), ⟨u.enter .tracking, link⟩)) := by
  unfold Watch.ask
  rw [Run.bind_apply]
  cases hsend : Watch.step around (Exchange.send (.trackDevices long)) w with
  | mk result w₁ =>
    have h₁ := step_saw hsend
    cases result with
    | error e => exact ⟨w₁.tracker, h₁, .inl ⟨e, w₁.link, rfl⟩⟩
    | ok u =>
      simp only
      rw [Run.bind_apply]
      cases hokay : Watch.step around Exchange.okay w₁ with
      | mk result w₂ =>
        have h₂ := h₁.trans (step_saw hokay)
        cases result with
        | error e => exact ⟨w₂.tracker, h₂, .inl ⟨e, w₂.link, rfl⟩⟩
        | ok u =>
          simp only
          rw [Run.bind_apply]
          cases hdeadline : Watch.step around (Exchange.setDeadline .reading none) w₂ with
          | mk result w₃ =>
            have h₃ := h₂.trans (step_saw hdeadline)
            cases result with
            | error e => exact ⟨w₃.tracker, h₃, .inl ⟨e, w₃.link, rfl⟩⟩
            | ok u => exact ⟨w₃.tracker, h₃, .inr ⟨w₃.link, rfl⟩⟩

theorem ask_error_saw {long : Bool} {w w' : Watch} {e : Failure}
    (h : Watch.ask around long w = (.error e, w')) : Saw w.tracker w'.tracker [] := by
  obtain ⟨u, hsaw, ⟨e', link, hask⟩ | ⟨link, hask⟩⟩ := ask_saw around long w
  · rw [hask] at h
    cases h
    exact hsaw
  · rw [hask] at h
    cases h

theorem ask_ok_saw {long : Bool} {w w' : Watch} (h : Watch.ask around long w = (.ok (), w')) :
    ∃ u, Saw w.tracker u [] ∧ w'.tracker = u.enter .tracking := by
  obtain ⟨u, hsaw, ⟨e', link, hask⟩ | ⟨link, hask⟩⟩ := ask_saw around long w
  · rw [hask] at h
    cases h
  · rw [hask] at h
    cases h
    exact ⟨u, hsaw, rfl⟩

namespace Moment

/-- The moments lead from one to another. -/
def Reaches (around : Surroundings) : Moment → Moment → Prop :=
  Relation.ReflTransGen fun m m' => m.next around = some m'

variable {around : Surroundings} {m m' m'' : Moment}

theorem Reaches.refl (m : Moment) : Reaches around m m := Relation.ReflTransGen.refl

theorem Reaches.step (h : m.next around = some m') (h' : Reaches around m' m'') :
    Reaches around m m'' := Relation.ReflTransGen.head h h'

theorem Reaches.trans (h : Reaches around m m') (h' : Reaches around m' m'') :
    Reaches around m m'' := Relation.ReflTransGen.trans h h'

/-- **What every step keeps holds at every moment.** -/
theorem Reaches.keeps {P : Moment → Prop} (h : Reaches around m m') (hm : P m)
    (hstep : ∀ m m', P m → m.next around = some m' → P m') : P m' := by
  induction h with
  | refl => exact hm
  | tail _ hnext ih => exact hstep _ _ ih hnext

/-! ## What a step can be -/

/-- What a step from a moment to the next one can be. -/
inductive Goes (around : Surroundings) : Moment → Moment → Prop
  | exhausted {t taken} : Goes around ⟨.ahead, t, [], taken⟩ ⟨.done, t, [], taken⟩
  | upcoming {t a rest taken} :
    Goes around ⟨.ahead, t, a :: rest, taken⟩
      ⟨.looking (.connect a), t.tick around, rest, taken⟩
  | raised {t rest taken} (aim : Aim) (hstop : t.stopping = true) :
    Goes around ⟨.looking aim, t, rest, taken⟩ (giveUp ⟨.looking aim, t, rest, taken⟩ aim)
  | onward {t rest taken} (aim : Aim) (hstop : ¬ t.stopping = true) :
    Goes around ⟨.looking aim, t, rest, taken⟩ (goOn around ⟨.looking aim, t, rest, taken⟩ aim)
  | refused {t rest taken} :
    Goes around ⟨.connecting .refused, t, rest, taken⟩
      ⟨.looking (.count 0),
        { t.record (.attempt false) with links := (t.record (.attempt false)).links.push none },
        rest, taken⟩
  | made {t rest taken link silent} :
    Goes around ⟨.connecting (.made link silent), t, rest, taken⟩
      ⟨.handling link silent, t.record (.attempt true), rest, taken⟩
  | unhandled {t rest taken link silent e w}
    (hstep : Watch.step around Exchange.needHandle ⟨t, link⟩ = (.error e, w)) :
    Goes around ⟨.handling link silent, t, rest, taken⟩
      ⟨.lost 0 (some e) w.link silent, w.tracker, rest, taken⟩
  | handled {t rest taken link silent w}
    (hstep : Watch.step around Exchange.needHandle ⟨t, link⟩ = (.ok (), w)) :
    Goes around ⟨.handling link silent, t, rest, taken⟩
      ⟨.looking (.subscribe w.link silent), w.tracker.takeHandle around, rest, taken⟩
  | unsubscribed {t rest taken link silent e w}
    (hask : Watch.ask around t.settings.long ⟨t, link⟩ = (.error e, w)) :
    Goes around ⟨.asking link silent, t, rest, taken⟩
      ⟨.lost 0 (some e) w.link silent, w.tracker, rest, taken⟩
  | subscribed {t rest taken link silent w}
    (hask : Watch.ask around t.settings.long ⟨t, link⟩ = (.ok (), w)) :
    Goes around ⟨.asking link silent, t, rest, taken⟩
      ⟨.following 0 w.link silent, w.tracker, rest, taken⟩
  | unread {t rest taken lists link silent e w}
    (hstep : Watch.step around Exchange.text ⟨t, link⟩ = (.error e, w)) :
    Goes around ⟨.following lists link silent, t, rest, taken⟩
      ⟨.lost lists (some e) w.link silent, w.tracker, rest, taken⟩
  | read {t rest taken lists link silent body w}
    (hstep : Watch.step around Exchange.text ⟨t, link⟩ = (.ok body, w)) :
    Goes around ⟨.following lists link silent, t, rest, taken⟩
      ⟨.looking (.take (Device.parseList body) lists w.link silent), w.tracker, rest, taken⟩
  | waits {t rest taken lists failure link silent}
    (hwaits : (silent && Watch.waits ⟨t, link⟩ failure) = true) :
    Goes around ⟨.lost lists failure link silent, t, rest, taken⟩
      ⟨.done, { t with waiting := some link }, rest, taken⟩
  | away {t rest taken lists failure link silent}
    (hwaits : ¬ (silent && Watch.waits ⟨t, link⟩ failure) = true) :
    Goes around ⟨.lost lists failure link silent, t, rest, taken⟩
      ⟨.looking (.count lists), t.putAway link, rest, taken⟩
  | ended {t rest taken} : Goes around ⟨.done, t, rest, taken⟩ ⟨.stopped, t.stop, rest, taken⟩

/-- **All that a step can be.** -/
theorem next_goes (h : m.next around = some m') : Goes around m m' := by
  obtain ⟨stage, t, rest, taken⟩ := m
  cases stage with
  | ahead =>
    cases rest with
    | nil =>
      cases h
      exact .exhausted
    | cons a rest =>
      cases h
      exact .upcoming
  | looking aim =>
    cases h
    dsimp only
    split
    · next hstop => exact .raised aim hstop
    · next hstop => exact .onward aim hstop
  | connecting a =>
    cases a with
    | refused =>
      cases h
      exact .refused
    | made link silent =>
      cases h
      exact .made
  | handling link silent =>
    simp only [next] at h
    split at h
    · next hstep =>
      cases h
      exact .unhandled hstep
    · next hstep =>
      cases h
      exact .handled hstep
  | asking link silent =>
    simp only [next] at h
    split at h
    · next hask =>
      cases h
      exact .unsubscribed hask
    · next hask =>
      cases h
      exact .subscribed hask
  | following lists link silent =>
    simp only [next] at h
    split at h
    · next hstep =>
      cases h
      exact .unread hstep
    · next hstep =>
      cases h
      exact .read hstep
  | lost lists failure link silent =>
    simp only [next] at h
    split at h
    · next hwaits =>
      cases h
      exact .waits hwaits
    · next hwaits =>
      cases h
      exact .away hwaits
  | done =>
    cases h
    exact .ended
  | stopped => cases h

/-! ## The moments are those of the run -/

section Run

variable {t u : Tracker} {link link' : Link} {silent : Bool} {rest : List Attempt}
  {taken : List (List Device)}

theorem next_raised {aim : Aim} (hstage : m.stage = .looking aim) (h : m.tracker.stopping = true) :
    m.next around = some (m.giveUp aim) := by
  simp only [next, hstage, h, if_true]

theorem next_not_raised {aim : Aim} (hstage : m.stage = .looking aim)
    (h : ¬ m.tracker.stopping = true) : m.next around = some (m.goOn around aim) := by
  simp only [next, hstage, if_neg h]

/-- Taking lists comes to what `follow` says. -/
theorem reaches_follow (lists : Nat) (w : Watch) (taken : List (List Device)) :
    ∃ taken', Reaches around ⟨.following lists w.link silent, w.tracker, rest, taken⟩
      ⟨.lost (w.follow around lists).1 (w.follow around lists).2.1
        (w.follow around lists).2.2.link silent, (w.follow around lists).2.2.tracker, rest,
        taken'⟩ := by
  fun_induction Watch.follow around lists w generalizing taken with
  | case1 lists w e w' h =>
    refine ⟨taken, .step ?_ (.refl _)⟩
    simp only [next, h]
  | case2 lists w body w' h hstop =>
    have hread : next around ⟨.following lists w.link silent, w.tracker, rest, taken⟩ =
        some ⟨.looking (.take (Device.parseList body) lists w'.link silent), w'.tracker, rest,
          taken⟩ := by
      simp only [next, h]
    exact ⟨taken, .step hread (.step (next_raised rfl hstop) (.refl _))⟩
  | case3 lists w body w' h hstop _ ih =>
    have hread : next around ⟨.following lists w.link silent, w.tracker, rest, taken⟩ =
        some ⟨.looking (.take (Device.parseList body) lists w'.link silent), w'.tracker, rest,
          taken⟩ := by
      simp only [next, h]
    obtain ⟨taken', ih⟩ := ih (taken ++ [Device.parseList body])
    exact ⟨taken', .step hread (.step (next_not_raised rfl hstop) ih)⟩

/-- Behind the handle a subscription looks at the flag, and asks. -/
theorem needRunning_ask (long : Bool) (w : Watch) :
    (Watch.needRunning >>= fun _ => Watch.change (·.enter .subscribing) >>= fun _ =>
        Watch.ask around long : Run Watch Unit) w =
      if w.tracker.stopping then (.error .cancelled, { w with link := w.link.close })
      else Watch.ask around long ⟨w.tracker.enter .subscribing, w.link⟩ := by
  rw [Run.bind_apply, Watch.needRunning]
  by_cases hstop : w.tracker.stopping = true
  · rw [if_pos hstop, if_pos hstop]
  · rw [if_neg hstop, if_neg hstop]
    rfl

/-- The moment behind a subscription. -/
def subscribed (silent : Bool) (rest : List Attempt) (taken : List (List Device)) :
    Except Failure Unit × Watch → Moment
  | (.error e, w) => ⟨.lost 0 (some e) w.link silent, w.tracker, rest, taken⟩
  | (.ok (), w) => ⟨.following 0 w.link silent, w.tracker, rest, taken⟩

theorem next_asking : next around ⟨.asking link silent, t, rest, taken⟩ =
    some (subscribed silent rest taken (Watch.ask around t.settings.long ⟨t, link⟩)) := by
  simp only [next]
  split
  · next h => rw [h]; rfl
  · next h => rw [h]; rfl

/-- Subscribing comes to what `subscribe` says. -/
theorem reaches_subscribe (t : Tracker) (link : Link) (silent : Bool) :
    Reaches around ⟨.handling link silent, t, rest, taken⟩
      (subscribed silent rest taken
        (Watch.subscribe around t.settings.long ⟨t, link⟩)) := by
  cases hneed : Watch.step around Exchange.needHandle ⟨t, link⟩ with
  | mk result w =>
    cases result with
    | error e =>
      rw [Watch.subscribe, Run.bind_apply, hneed]
      refine .step ?_ (.refl _)
      simp only [next, hneed]
      rfl
    | ok u =>
      let t' := w.tracker.takeHandle around
      have hsubscribe : Watch.subscribe around t.settings.long ⟨t, link⟩ =
          if t'.stopping then (.error .cancelled, ⟨t', w.link.close⟩)
          else Watch.ask around t.settings.long ⟨t'.enter .subscribing, w.link⟩ := by
        rw [Watch.subscribe, Run.bind_apply, hneed]
        simp only
        rw [Run.bind_apply, Watch.change]
        simp only
        rw [Run.bind_apply, Watch.change]
        exact needRunning_ask t.settings.long ⟨t', w.link⟩
      have hhandle : next around ⟨.handling link silent, t, rest, taken⟩ =
          some ⟨.looking (.subscribe w.link silent), t', rest, taken⟩ := by
        simp only [next, hneed]
        rfl
      refine .step hhandle ?_
      rw [hsubscribe]
      by_cases hstop : t'.stopping = true
      · rw [if_pos hstop]
        exact .step (next_raised rfl hstop) (.refl _)
      · rw [if_neg hstop]
        have hsettings : (t'.enter .subscribing).settings = t.settings := by
          exact (enter_saw t' .subscribing).settings.trans
            ((step_saw hneed).trans (takeHandle_saw around w.tracker)).settings
        rw [← hsettings]
        exact .step (next_not_raised rfl hstop) (.step next_asking (.refl _))

/-- Only a run that is over waits on a connection. -/
def Unwaited (m : Moment) : Prop :=
  m.stage = .done ∨ m.stage = .stopped ∨ m.tracker.waiting = none

theorem goOn_unwaited (aim : Aim) (hm : m.tracker.waiting = none) :
    (m.goOn around aim).Unwaited := by
  refine .inr (.inr ?_)
  cases aim with
  | connect a => exact (tick_saw around _).waiting.trans ((waiting_enter _ _).trans hm)
  | subscribe link silent => exact (waiting_enter _ _).trans hm
  | take devices lists link silent => exact (waiting_publish around _ _).trans hm
  | count lists => exact (windUp_saw around m.tracker lists).waiting.trans hm
  | again => exact hm

theorem giveUp_unwaited (aim : Aim) (hm : m.tracker.waiting = none) : (m.giveUp aim).Unwaited := by
  cases aim with
  | connect a => exact .inl rfl
  | subscribe link silent => exact .inr (.inr hm)
  | take devices lists link silent => exact .inr (.inr hm)
  | count lists => exact .inl rfl
  | again => exact .inl rfl

theorem next_unwaited (hm : m.Unwaited) (h : m.next around = some m') : m'.Unwaited := by
  -- before its end a run does not wait, and only a silent connection makes it wait
  by_cases hdone : m.stage = .done
  · rw [next, hdone] at h
    cases h
    exact .inr (.inl rfl)
  by_cases hstopped : m.stage = .stopped
  · rw [next, hstopped] at h
    cases h
  have hnone : m.tracker.waiting = none := (hm.resolve_left hdone).resolve_left hstopped
  cases next_goes h with
  | exhausted => exact .inl rfl
  | upcoming => exact .inr (.inr ((tick_saw around _).waiting.trans hnone))
  | raised aim => exact giveUp_unwaited aim hnone
  | onward aim => exact goOn_unwaited aim hnone
  | refused | made | away => exact .inr (.inr hnone)
  | unhandled hstep | unread hstep | read hstep =>
    exact .inr (.inr ((step_saw hstep).waiting.trans hnone))
  | handled hstep =>
    exact .inr (.inr (((step_saw hstep).trans (takeHandle_saw around _)).waiting.trans hnone))
  | unsubscribed hask => exact .inr (.inr ((ask_error_saw hask).waiting.trans hnone))
  | subscribed hask =>
    obtain ⟨u, hsaw, htracker⟩ := ask_ok_saw hask
    refine .inr (.inr ?_)
    rw [htracker, waiting_enter]
    exact hsaw.waiting.trans hnone
  | waits => exact .inl rfl
  | ended => exact absurd rfl hdone

/-! ### Attempts -/

/-- The work on a connection, until it is lost or falls silent. -/
theorem reaches_lost (t : Tracker) (link : Link) (silent : Bool) :
    ∃ (lists : Nat) (failure : Option Failure) (w : Watch) (taken' : List (List Device)),
      Reaches around ⟨.connecting (.made link silent), t, rest, taken⟩
        ⟨.lost lists failure w.link silent, w.tracker, rest, taken'⟩ ∧
      t.attempt around (.made link silent) =
        if silent && w.waits failure then (lists, { w.tracker with waiting := some w.link })
        else (lists, w.tracker.putAway w.link) := by
  have hfirst : next around ⟨.connecting (.made link silent), t, rest, taken⟩ =
      some ⟨.handling link silent, t.record (.attempt true), rest, taken⟩ := rfl
  have hsubscribe : Reaches around ⟨.handling link silent, t.record (.attempt true), rest, taken⟩
      _ := reaches_subscribe (t.record (.attempt true)) link silent
  unfold attempt
  cases hs : Watch.subscribe around (t.record (.attempt true)).settings.long
      ⟨t.record (.attempt true), link⟩ with
  | mk result w =>
    rw [hs] at hsubscribe
    cases result with
    | error e =>
      refine ⟨0, some e, w, taken, .step hfirst hsubscribe, ?_⟩
      simp only [hs]
    | ok u =>
      obtain ⟨taken', hfollow⟩ : ∃ taken', Reaches around
          ⟨.following 0 w.link silent, w.tracker, rest, taken⟩ _ := reaches_follow 0 w taken
      refine ⟨_, _, (w.follow around 0).2.2, taken', .step hfirst (hsubscribe.trans hfollow), ?_⟩
      simp only [hs]

/-- An attempt comes to what `attempt` says. -/
theorem reaches_attempt (a : Attempt) (ht : t.waiting = none) :
    ∃ taken', Reaches around ⟨.connecting a, t, rest, taken⟩
      ⟨if (t.attempt around a).2.waiting.isSome then .done
        else .looking (.count (t.attempt around a).1), (t.attempt around a).2, rest, taken'⟩ := by
  cases a with
  | refused =>
    have hnext : next around ⟨.connecting .refused, t, rest, taken⟩ =
        some ⟨.looking (.count 0), (t.attempt around .refused).2, rest, taken⟩ := rfl
    have hnone : (t.attempt around .refused).2.waiting = none := ht
    refine ⟨taken, .step hnext ?_⟩
    rw [hnone]
    exact .refl _
  | made link silent =>
    obtain ⟨lists, failure, w, taken', hlost, hattempt⟩ : ∃ lists failure w taken', Reaches around
        ⟨.connecting (.made link silent), t, rest, taken⟩
        ⟨.lost lists failure (Watch.link w) silent, w.tracker, rest, taken'⟩ ∧ _ :=
      reaches_lost t link silent
    have hunwaited : Unwaited ⟨.lost lists failure w.link silent, w.tracker, rest, taken'⟩ :=
      hlost.keeps (.inr (.inr ht)) fun _ _ => next_unwaited
    have hw : w.tracker.waiting = none := by
      rcases hunwaited with h | h | h
      · cases h
      · cases h
      · exact h
    refine ⟨taken', hlost.trans (.step ?_ (.refl _))⟩
    rw [hattempt]
    by_cases hwaits : (silent && w.waits failure) = true
    · simp only [next, if_pos hwaits]
      rfl
    · have haway : (w.tracker.putAway w.link).waiting = none := hw
      simp only [next, if_neg hwaits, haway]
      rfl

/-- One turn of a run. -/
theorem work_turn (around : Surroundings) (t : Tracker) (a : Attempt) (rest : List Attempt) :
    t.work around (a :: rest) =
      if (t.tick around).stopping then { t.tick around with isRunning := false }.enter .stopped
      else
        let (lists, u) := (((t.tick around).enter .connecting).tick around).attempt around a
        if u.waiting.isSome then u
        else if u.stopping then { u with isRunning := false }.enter .stopped
        else if (u.windUp around lists).stopping then
          { u.windUp around lists with isRunning := false }.enter .stopped
        else (u.windUp around lists).work around rest := by
  rw [work]
  rfl

/-- A run comes to what `work` says. -/
theorem reaches_work (attempts : List Attempt) (ht : t.waiting = none) :
    ∃ rest taken', Reaches around ⟨.ahead, t, attempts, taken⟩
      ⟨.done, t.work around attempts, rest, taken'⟩ := by
  induction attempts generalizing t taken with
  | nil => exact ⟨[], taken, .step rfl (.refl _)⟩
  | cons a rest ih =>
    have hlook : next around ⟨.ahead, t, a :: rest, taken⟩ =
        some ⟨.looking (.connect a), t.tick around, rest, taken⟩ := rfl
    rw [work_turn]
    by_cases hstop : (t.tick around).stopping = true
    · rw [if_pos hstop]
      exact ⟨a :: rest, taken, .step hlook (.step (next_raised rfl hstop) (.refl _))⟩
    rw [if_neg hstop]
    have hopen : (((t.tick around).enter .connecting).tick around).waiting = none :=
      (tick_saw around _).waiting.trans
        ((waiting_enter _ _).trans ((tick_saw around t).waiting.trans ht))
    obtain ⟨taken₁, hattempt⟩ : ∃ taken₁, Reaches around
        ⟨.connecting a, ((t.tick around).enter .connecting).tick around, rest, taken⟩ _ :=
      reaches_attempt a hopen
    have hmade := Reaches.step hlook (.step (next_not_raised rfl hstop) hattempt)
    cases hu : (((t.tick around).enter .connecting).tick around).attempt around a with
    | mk lists u =>
    rw [hu] at hmade
    dsimp only at hmade ⊢
    -- the flag is looked at twice more, behind the attempt and behind the pause
    by_cases hwaits : u.waiting.isSome = true
    · rw [if_pos hwaits] at hmade ⊢
      exact ⟨rest, taken₁, hmade⟩
    rw [if_neg hwaits] at hmade ⊢
    by_cases hover : u.stopping = true
    · rw [if_pos hover]
      exact ⟨rest, taken₁, hmade.trans (.step (next_raised rfl hover) (.refl _))⟩
    rw [if_neg hover]
    have hwound := hmade.trans (.step (next_not_raised rfl hover) (.refl _))
    by_cases hpaused : (u.windUp around lists).stopping = true
    · rw [if_pos hpaused]
      exact ⟨rest, taken₁, hwound.trans (.step (next_raised rfl hpaused) (.refl _))⟩
    rw [if_neg hpaused]
    have hu : u.waiting = none := by
      rwa [Bool.not_eq_true, Option.isSome_eq_false_iff, Option.isNone_iff_eq_none] at hwaits
    obtain ⟨rest', taken', hrest⟩ : ∃ rest' taken', Reaches around
        ⟨.ahead, u.windUp around lists, rest, taken₁⟩ ⟨.done, _, rest', taken'⟩ :=
      ih ((windUp_saw around u lists).waiting.trans hu)
    exact ⟨rest', taken', hwound.trans (.step (next_not_raised rfl hpaused) hrest)⟩

/-- **The moments of a run lead to what starting and stopping a tracker come to.** -/
theorem reaches_stop (attempts : List Attempt) (hrunning : t.isRunning = false)
    (ht : t.waiting = none) :
    ∃ rest taken, Reaches around (.first t attempts)
      ⟨.stopped, (t.start around attempts).stop, rest, taken⟩ := by
  have hstart : t.start around attempts = (t.fresh.enter .connecting).work around attempts := by
    rw [start, hrunning]
    rfl
  obtain ⟨rest, taken, hwork⟩ : ∃ rest taken, Reaches around
      (.first t attempts) ⟨.done, (t.fresh.enter .connecting).work around attempts, rest, taken⟩ :=
    reaches_work attempts ((waiting_enter _ _).trans ht)
  rw [hstart]
  exact ⟨rest, taken, hwork.trans (.step rfl (.refl _))⟩

/-- Every moment of a run comes before its end. -/
theorem Reaches.before_end {m₁ m₂ : Moment} (h : Reaches around m m₁) (hend : Reaches around m m₂)
    (hstopped : m₂.stage = .stopped) : Reaches around m₁ m₂ := by
  have hunique : Relator.RightUnique fun m m' : Moment => m.next around = some m' :=
    fun a b c hb hc => Option.some.inj (hb.symm.trans hc)
  rcases h.total_of_right_unique hunique hend with h | h
  · exact h
  · -- nothing comes behind the end
    cases h.cases_head with
    | inl heq => exact heq ▸ .refl _
    | inr hnext =>
      obtain ⟨m', hnext, -⟩ := hnext
      rw [next, hstopped] at hnext
      cases hnext

/-- A run has one end. -/
theorem Reaches.end_unique {m₁ m₂ : Moment} (h₁ : Reaches around m m₁) (h₂ : Reaches around m m₂)
    (hstopped₁ : m₁.stage = .stopped) (hstopped₂ : m₂.stage = .stopped) : m₁ = m₂ := by
  cases (h₁.before_end h₂ hstopped₂).cases_head with
  | inl heq => exact heq
  | inr hnext =>
    obtain ⟨m', hnext, -⟩ := hnext
    rw [next, hstopped₁] at hnext
    cases hnext

end Run

end Moment

end Tracker

end DebugBridge
