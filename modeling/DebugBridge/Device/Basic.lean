import DebugBridge.Device.State
import DebugBridge.Device.Features

/-!
# Devices

One entry of a device list. Devices are told apart by their serial; two entries of one serial are
equal when all their fields are, which is how a change is noticed.
-/

namespace DebugBridge

/-- A device. -/
structure Device where
  serial : String
  state : DeviceState
  product : Option String := none
  model : Option String := none
  /-- The name that the maker gave this kind of device. -/
  codename : Option String := none
  transportId : Option UInt32 := none
  usb : Option String := none
  features : Features := .empty
  /-- What the server adds about a device that is not usable. -/
  remark : Option String := none
  deriving DecidableEq, Repr, Inhabited

namespace Device

/-- Whether the device takes commands. -/
def isOnline (d : Device) : Bool := d.state = .online

/-- Whether the device names a feature. -/
def hasFeature (d : Device) (feature : String) : Bool := d.features.contains feature

/-- The device with one more feature. -/
def addFeature (d : Device) (feature : String) : Device :=
  { d with features := d.features.insert feature }

/-- How the device is named to a reader: its model before its serial, if the model is known. -/
def displayName (d : Device) : String :=
  match d.model with
  | some model => model ++ " (" ++ d.serial ++ ")"
  | none => d.serial

end Device

end DebugBridge
