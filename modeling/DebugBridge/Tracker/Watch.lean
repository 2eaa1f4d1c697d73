import DebugBridge.Device.Line
import DebugBridge.Tracker.Basic

/-!
# Watching the device list

The work of a tracker: one attempt after the other, each of which subscribes on a new connection
and takes the lists that come until the connection is lost.
-/

namespace DebugBridge

/-- A tracker and its connection. -/
structure Watch where
  tracker : Tracker
  link : Link
  deriving Inhabited

namespace Watch

/-- A step on the connection. -/
def step {α : Type} (around : Surroundings) (x : Exchange α) : Run Watch α := fun w =>
  let tracker := w.tracker.tick around
  let (result, link) := x (tracker.sealed w.link)
  (result, ⟨tracker, link⟩)

/-- A change of the tracker. -/
def change (f : Tracker → Tracker) : Run Watch Unit := fun w =>
  (.ok (), { w with tracker := f w.tracker })

/-- Gives up if the tracker was told to stop before there was a handle. -/
def needRunning : Run Watch Unit := fun w =>
  if w.tracker.stopping then (.error .cancelled, { w with link := w.link.close }) else (.ok (), w)

/-- Subscribes to the device list. -/
def subscribe (around : Surroundings) (long : Bool) : Run Watch Unit := do
  step around Exchange.needHandle
  change fun t => { t with handled := true }
  change (Tracker.tick around)
  needRunning
  change (·.enter .subscribing)
  step around (Exchange.send (.trackDevices long))
  step around Exchange.okay
  step around (Exchange.setDeadline .reading none)
  change (·.enter .tracking)

theorem remaining_sealed (t : Tracker) (link : Link) :
    (t.sealed link).remaining = link.remaining := by
  unfold Tracker.sealed
  split <;> rfl

/-- Takes lists until the connection is lost or the tracker is told to stop: how many there were,
`lists` of them before, and how the connection was lost. -/
def follow (around : Surroundings) (lists : Nat) (w : Watch) : Nat × Option Failure × Watch :=
  match h : step around Exchange.text w with
  | (.error e, w') => (lists, some e, w')
  | (.ok body, w') =>
    if w'.tracker.stopping then (lists, none, w')
    else
      have : w'.link.remaining < w.link.remaining := by
        obtain ⟨hr, hw⟩ := Prod.mk.inj h
        have := Exchange.consumes_text ((w.tracker.tick around).sealed w.link) body w'.link
          (Prod.ext hr (congrArg Watch.link hw))
        rwa [remaining_sealed] at this
      follow around (lists + 1)
        { w' with tracker := w'.tracker.publish around (Device.parseList body) }
termination_by w.link.remaining

/-- Whether a read that failed like this would wait on a connection that falls silent. -/
def waits (w : Watch) : Option Failure → Bool
  | some (.connection e) =>
    e.kind = .unexpectedEof && !w.tracker.cut && !w.link.closed && w.link.inflow.arrivals.isEmpty
  | _ => false

end Watch

namespace Tracker

/-- Makes one attempt: how many lists it brought. The tracker may come to wait on the
connection. -/
def attempt (around : Surroundings) (t : Tracker) : Attempt → Nat × Tracker
  | .refused =>
    let t := t.record (.attempt false)
    (0, { t with links := t.links.push none })
  | .made link silent =>
    let t := t.record (.attempt true)
    let (lists, failure, w) :=
      match Watch.subscribe around t.settings.long ⟨t, link⟩ with
      | (.error e, w) => (0, some e, w)
      | (.ok (), w) => w.follow around 0
    if silent && w.waits failure then (lists, { w.tracker with waiting := some w.link })
    else (lists, w.tracker.putAway w.link)

/-- Makes attempts until there are no more, the tracker waits on a connection, or it was told to
stop. -/
def work (around : Surroundings) (t : Tracker) : List Attempt → Tracker
  | [] => t
  | a :: rest =>
    let t := t.tick around
    if t.stopping then { t with isRunning := false }.enter .stopped
    else
      let t := (t.enter .connecting).tick around
      let (lists, t) := t.attempt around a
      if t.waiting.isSome then t
      else if t.stopping then { t with isRunning := false }.enter .stopped
      else
        let t := (t.count around lists).enter .reconnecting
        let t := (t.record (.pause t.settings.delay)).tick around
        if t.stopping then { t with isRunning := false }.enter .stopped
        else work around t rest

/-- Starts a tracker that is not running: the attempts are what it will meet. -/
def start (around : Surroundings) (attempts : List Attempt) (t : Tracker) : Tracker :=
  if t.isRunning then t
  else
    let fresh := { t with
      isRunning := true, stopping := false, received := false, known := .empty, failed := 0 }
    (fresh.enter .connecting).work around attempts

/-- Stops a tracker and waits for its end. -/
def stop (t : Tracker) : Tracker :=
  let t := t.halt
  let t := match t.waiting with
    | some link => { t.putAway link with waiting := none }
    | none => t
  { t with isRunning := false }.enter .stopped

end Tracker

end DebugBridge
