import DebugBridge.Device.Set
import DebugBridge.Reply

/-!
# The device tracker

A tracker keeps a subscription to the device list of the server. When the subscription is lost or
cannot be had it waits and tries again; after some attempts without a list in a row it asks for
the server to be restarted.

Here stands what a tracker is and what it records: each step that can be seen from outside leaves a
`Happening`, together with the state that the tracker is in then.

A tracker may be told to stop at any step, by a listener or from outside. Stopping raises a flag and
then closes the connection if a handle to it was had, and the tracker ends at its next look at the
flag. *When* a stop comes is part of a tracker's `Surroundings`; a stop from outside may be seen
between its two parts.
-/

namespace DebugBridge

/-- The states of a tracker. -/
inductive TrackerState where
  | stopped | connecting | subscribing | tracking | reconnecting
  deriving DecidableEq, Repr, Inhabited

/-- The name of a state. -/
def TrackerState.name : TrackerState → String
  | .stopped => "stopped"
  | .connecting => "connecting"
  | .subscribing => "subscribing"
  | .tracking => "tracking"
  | .reconnecting => "reconnecting"

/-- How a tracker goes about its work. -/
structure TrackerSettings where
  /-- The milliseconds between two attempts. -/
  delay : Nat := 1000
  /-- How many attempts in a row may bring no list before a restart is asked for; zero stands for
  any number. A configuration gives a number of 32 bits. -/
  restartAfter : Nat := 10
  /-- Whether lists have the attributes of the devices. -/
  long : Bool := false
  /-- Whether there is someone who can restart the server. -/
  canRestart : Bool := false
  deriving DecidableEq, Repr, Inhabited

/-- When a tracker is told to stop. -/
structure Surroundings where
  /-- Whether a listener stops the tracker, by the number of times that listeners were told of an
  event before. -/
  listenerStops : Nat → Bool := fun _ => false
  /-- Whether a stop comes from outside, by the number of steps before. -/
  stops : Nat → Bool := fun _ => false
  /-- Whether a stop from outside has raised the flag and not gone on yet, by the number of steps
  before. -/
  raises : Nat → Bool := fun _ => false

/-- What becomes of an attempt to connect. -/
inductive Attempt where
  | refused
  /-- There is a connection. It may fall `silent` after its last byte, so that reads wait until it
  is closed. -/
  | made (link : Link) (silent : Bool)
  deriving Inhabited

/-- What can be seen of a tracker. -/
inductive Sight where
  | entered
  | attempt (accepted : Bool)
  /-- A listener is told of an event, while so many devices are published. -/
  | event (e : DeviceEvent) (known : Nat)
  /-- A restart is asked for, for the `count`-th time. -/
  | restart (count : Nat)
  /-- The wait between two attempts. -/
  | pause (milliseconds : Nat)
  deriving DecidableEq, Repr

/-- What can be seen, and how the tracker is at that time. -/
structure Happening where
  sight : Sight
  state : TrackerState
  /-- The devices that are published. -/
  shown : List Device := []
  /-- The listener that is told of an event, by its place among the listeners. -/
  listener : Nat := 0
  deriving DecidableEq, Repr

/-- A tracker. -/
structure Tracker where
  settings : TrackerSettings := {}
  /-- How many listeners were registered. -/
  listeners : Nat := 1
  state : TrackerState := .stopped
  /-- The last list, in ascending order of the serials. -/
  published : List Device := []
  /-- Whether there was a list since the start. -/
  received : Bool := false
  /-- How many restarts were asked for, without a bound. A count of 32 bits starts over at zero after
  2^32 of them; with the default settings, ten attempts to a restart and a pause of a second behind
  each attempt, that takes more than a thousand years. -/
  restarts : Nat := 0
  isRunning : Bool := false
  stopping : Bool := false
  /-- The devices of this run. -/
  known : DeviceSet := .empty
  /-- The attempts without a list in a row. They stay below `restartAfter`, and so within its 32 bits;
  if that is zero, they are compared with nothing. -/
  failed : Nat := 0
  /-- Whether there is a handle to the connection. -/
  handled : Bool := false
  /-- Whether the connection was closed through its handle. -/
  cut : Bool := false
  /-- The steps so far. -/
  clock : Nat := 0
  /-- How often a listener was told of an event so far. -/
  told : Nat := 0
  happenings : Array Happening := #[]
  /-- The connections that are over; none for one that was refused. -/
  links : Array (Option Link) := #[]
  /-- The connection on which the tracker waits for the next list. -/
  waiting : Option Link := none
  deriving Inhabited

namespace Tracker

/-- Records what can be seen. -/
def record (t : Tracker) (sight : Sight) (listener : Nat := 0) : Tracker :=
  { t with happenings := t.happenings.push ⟨sight, t.state, t.published, listener⟩ }

/-- Enters a state, unless the tracker is in it. -/
def enter (t : Tracker) (state : TrackerState) : Tracker :=
  if t.state = state then t else { t with state }.record .entered

/-- Raises the flag and closes the connection through its handle. -/
def halt (t : Tracker) : Tracker :=
  { t with stopping := true, cut := t.cut || t.handled, handled := false }

/-- Takes a step, before which a stop may come from outside. -/
def tick (around : Surroundings) (t : Tracker) : Tracker :=
  let next := { t with
    clock := t.clock + 1, stopping := around.raises t.clock || t.stopping }
  if around.stops t.clock then next.halt else next

/-- The connection as the handle has left it. -/
def sealed (t : Tracker) (link : Link) : Link := if t.cut then link.close else link

/-- Puts a connection away. -/
def putAway (t : Tracker) (link : Link) : Tracker :=
  { t with links := t.links.push (some (t.sealed link)), handled := false, cut := false }

/-- Tells one listener of an event. -/
def call (around : Surroundings) (e : DeviceEvent) (t : Tracker) (listener : Nat) : Tracker :=
  let t := (t.tick around).record (.event e t.published.length) listener
  let stops := around.listenerStops t.told
  let t := { t with told := t.told + 1 }
  if stops then t.halt.enter .stopped else t

/-- Tells the listeners of an event, one after another. -/
def tell (around : Surroundings) (t : Tracker) (e : DeviceEvent) : Tracker :=
  (List.range t.listeners).foldl (call around e) t

/-- Takes a list: publishes it, then tells the listeners what has changed. -/
def publish (around : Surroundings) (t : Tracker) (devices : List Device) : Tracker :=
  let (events, known) := t.known.update devices
  let t := { t with known, published := known.toList, received := true }
  events.foldl (tell around) t

/-- Counts an attempt that is over; asks for a restart when it was one too many without a list. -/
def count (around : Surroundings) (t : Tracker) (lists : Nat) : Tracker :=
  let failed := (if lists > 0 then 0 else t.failed) + 1
  if 0 < t.settings.restartAfter && t.settings.restartAfter ≤ failed then
    let t := { t.tick around with failed := 0 }
    if t.settings.canRestart then
      let t := { t with restarts := t.restarts + 1 }
      t.record (.restart t.restarts)
    else t
  else { t with failed }

end Tracker

end DebugBridge
