import DebugBridge.Device.Set
import DebugBridge.Json.Value

/-!
# Devices in JSON

A device is an object whose members stand in a fixed order; what a device lacks is left out.
Reading takes the members in any order, and also an array of all fields in their order.
-/

namespace DebugBridge

namespace DeviceState

/-- The state in JSON. -/
def toJson (state : DeviceState) : Json := .string state.name

/-- Reads a state: its name, or an object with its name and `null`. -/
def ofJson? : Json → Option DeviceState
  | .string name => ofName? name
  | .object [(name, .null)] => ofName? name
  | _ => none

end DeviceState

namespace Device

/-- The names of the fields, in their order. -/
def fieldNames : List String :=
  ["serial", "state", "product", "model", "name", "transport_id", "usb", "features", "message"]

/-- The members of a device. -/
def jsonMembers (d : Device) : List (String × Json) :=
  [("serial", .string d.serial), ("state", d.state.toJson)] ++
    Json.optional "product" d.product ++
    Json.optional "model" d.model ++
    Json.optional "name" d.codename ++
    (d.transportId.map fun id => ("transport_id", .ofWord id)).toList ++
    Json.optional "usb" d.usb ++
    (if d.features.isEmpty then []
      else [("features", .array (d.features.toList.map .string))]) ++
    Json.optional "message" d.remark

/-- The device in JSON. -/
def toJson (d : Device) : Json := .object d.jsonMembers

/-- Reads a field that may be missing or `null`. -/
def optionalField? {α : Type} (read : Json → Option α) : Option Json → Option (Option α)
  | none => some none
  | some v => v.orNull? read

/-- Reads the features, which may be missing. -/
def featuresField? : Option Json → Option Features
  | none => some .empty
  | some (.array items) => (items.mapM Json.text?).map .ofList
  | some _ => none

/-- Reads a device. -/
def ofJson? (v : Json) : Option Device := do
  match ← v.fields? fieldNames with
  | [some serial, some state, product, model, codename, transportId, usb, features, remark] =>
    let serial ← serial.text?
    let state ← DeviceState.ofJson? state
    let product ← optionalField? Json.text? product
    let model ← optionalField? Json.text? model
    let codename ← optionalField? Json.text? codename
    let transportId ← optionalField? Json.word? transportId
    let usb ← optionalField? Json.text? usb
    let features ← featuresField? features
    let remark ← optionalField? Json.text? remark
    some { serial, state, product, model, codename, transportId, usb, features, remark }
  | _ => none

end Device

namespace DeviceEvent

/-- The members of an event: its kind, then the device's own, or both devices of a change. -/
def jsonMembers (e : DeviceEvent) : List (String × Json) :=
  ("event", .string e.kind) ::
    match e with
    | .connected d | .disconnected d => d.jsonMembers
    | .changed previous current => [("previous", previous.toJson), ("current", current.toJson)]

/-- The event in JSON. -/
def toJson (e : DeviceEvent) : Json := .object e.jsonMembers

end DeviceEvent

end DebugBridge
