import DebugBridge.Device.Json
import DebugBridge.Forward.Json
import DebugBridge.Output.Calendar
import DebugBridge.Output.Size
import DebugBridge.Output.Table
import DebugBridge.Sync.FileStat

/-!
# Things in lists

What is shown as a list comes in three forms: rows of a table, lines of plain text, and JSON.
-/

namespace DebugBridge

/-- Things that can be shown as a list. -/
class Listed (α : Type) where
  /-- The header of the table. -/
  header : List String
  /-- The cells of a row. -/
  row : α → List String
  /-- The line of plain text. -/
  plain : α → String
  /-- The thing in JSON. -/
  json : α → Json

/-- The table of a list. -/
def Listed.table {α : Type} [Listed α] (items : List α) : String :=
  Table.render (Listed.header α) (items.map Listed.row)

instance : Listed Device where
  header := ["SERIAL", "STATE", "MODEL", "PRODUCT", "TRANSPORT"]
  row d :=
    [d.serial, d.state.token, d.model.getD "", d.product.getD "",
      (d.transportId.map fun id => toString id.toNat).getD ""]
  plain d := d.serial ++ "\t" ++ d.state.token
  json := Device.toJson

/-- A device of which only the serial and the state are shown. -/
structure BriefDevice where
  serial : String
  state : DeviceState
  deriving DecidableEq, Repr

/-- The serial and the state of a device. -/
def Device.brief (d : Device) : BriefDevice := ⟨d.serial, d.state⟩

instance : Listed BriefDevice where
  header := ["SERIAL", "STATE"]
  row d := [d.serial, d.state.token]
  plain d := d.serial ++ "\t" ++ d.state.token
  json d := .object [("serial", .string d.serial), ("state", .string d.state.token)]

instance : Listed ForwardEntry where
  header := ["SERIAL", "LOCAL", "REMOTE"]
  row e := [e.serial, e.localSpec.render, e.remoteSpec.render]
  plain := ForwardEntry.render
  json := ForwardEntry.toJson

/-! ## Files -/

/-- The members of a file status. -/
def FileStat.jsonMembers (s : FileStat) : List (String × Json) :=
  [("mode", .ofWord s.mode), ("size", .ofWord s.size), ("mtime", .ofWord s.mtime)]

/-- The time of the last change, to the minute. -/
def FileStat.timeText (s : FileStat) : String := Calendar.minuteText s.mtime.toNat

instance : Listed FileEntry where
  header := ["MODE", "SIZE", "MODIFIED", "NAME"]
  row e :=
    [e.stat.permissionText, Size.text e.stat.size.toNat, e.stat.timeText,
      if e.stat.isDirectory then e.name ++ "/" else e.name]
  plain := FileEntry.name
  json e := .object (("name", .string e.name) :: e.stat.jsonMembers)

/-- The status of the file at a path. -/
structure PathStat where
  path : String
  stat : FileStat
  deriving DecidableEq, Repr

instance : Listed PathStat where
  header := ["PATH", "TYPE", "MODE", "SIZE", "MODIFIED"]
  row p :=
    if p.stat.isPresent then
      [p.path, p.stat.kind.name, Text.octal p.stat.permissions.toNat,
        toString p.stat.size.toNat, p.stat.timeText]
    else [p.path, "missing", "-", "-", "-"]
  plain p :=
    p.path ++ " " ++ Text.octal p.stat.mode.toNat ++ " " ++ toString p.stat.size.toNat ++ " " ++
      toString p.stat.mtime.toNat
  json p :=
    .object ([("path", .string p.path), ("exists", .bool p.stat.isPresent),
      ("file_type", .string p.stat.kind.name), ("permissions", .string p.stat.permissionText)] ++
      p.stat.jsonMembers)

end DebugBridge
