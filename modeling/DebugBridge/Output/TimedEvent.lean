import DebugBridge.Device.Json
import DebugBridge.Output.Calendar
import DebugBridge.Output.Color

/-!
# Events with their time

A change of the device list with the time at which it was noticed, in the three forms in which
changes are shown as they come.
-/

namespace DebugBridge

/-- A change and its time. -/
structure TimedEvent where
  /-- Seconds since the start of 1970. -/
  time : Int
  event : DeviceEvent
  deriving DecidableEq, Repr

namespace TimedEvent

/-- The color of a kind of event. -/
def color : DeviceEvent → Color
  | .connected _ => .green
  | .changed .. => .yellow
  | .disconnected _ => .red

/-- The state of the device; of a change both states. -/
def stateText : DeviceEvent → String
  | .changed previous current => previous.state.token ++ " -> " ++ current.state.token
  | e => e.device.state.token

/-- The line for readers. -/
def line (palette : Palette) (e : TimedEvent) : String :=
  Calendar.timeOfDay e.time ++ " " ++
    (color e.event).paint palette (Text.padRight 12 e.event.kind) ++ " " ++
    e.event.serial ++ " " ++ stateText e.event

/-- The line of plain text. -/
def plain (e : TimedEvent) : String :=
  "\t".intercalate
    [Calendar.stamp e.time, e.event.kind, e.event.serial, e.event.device.state.token]

/-- The event in JSON, its time first. -/
def toJson (e : TimedEvent) : Json :=
  .object (("time", .string (Calendar.stamp e.time)) :: e.event.jsonMembers)

end TimedEvent

end DebugBridge
