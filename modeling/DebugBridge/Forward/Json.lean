import DebugBridge.Forward.Entry
import DebugBridge.Json.Value

/-!
# Forwards in JSON

A spec is the string of its written form; a forward is an object of a serial and two specs.
-/

namespace DebugBridge

namespace ForwardSpec

/-- The spec in JSON. -/
def toJson (spec : ForwardSpec) : Json := .string spec.render

/-- Reads a spec. -/
def ofJson? (v : Json) : Option ForwardSpec := v.text? >>= parse?

end ForwardSpec

namespace ForwardEntry

/-- The names of the fields, in their order. -/
def fieldNames : List String := ["serial", "local", "remote"]

/-- The forward in JSON. -/
def toJson (e : ForwardEntry) : Json :=
  .object [("serial", .string e.serial), ("local", e.localSpec.toJson),
    ("remote", e.remoteSpec.toJson)]

/-- Reads a forward. -/
def ofJson? (v : Json) : Option ForwardEntry := do
  match ← v.fields? fieldNames with
  | [some serial, some here, some there] =>
    let serial ← serial.text?
    let here ← ForwardSpec.ofJson? here
    let there ← ForwardSpec.ofJson? there
    some ⟨serial, here, there⟩
  | _ => none

end ForwardEntry

end DebugBridge
