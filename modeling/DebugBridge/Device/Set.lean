import DebugBridge.Device.Basic

/-!
# Device sets

The devices that are known, one for each serial, and what changes when a new list of devices
takes their place. A set is kept as a list in ascending order of the serials, so that two sets
with the same devices are equal.
-/

namespace DebugBridge

/-- A change of the set of known devices. -/
inductive DeviceEvent where
  | connected (device : Device)
  | changed (previous current : Device)
  | disconnected (device : Device)
  deriving DecidableEq, Repr, Inhabited

namespace DeviceEvent

/-- The device as it is after the event; as it was, when it went away. -/
def device : DeviceEvent → Device
  | .connected d | .disconnected d => d
  | .changed _ current => current

/-- The serial of the device that the event is about. -/
def serial (e : DeviceEvent) : String := e.device.serial

/-- The name of the kind of event. -/
def kind : DeviceEvent → String
  | .connected _ => "connected"
  | .changed .. => "changed"
  | .disconnected _ => "disconnected"

end DeviceEvent

/-- The known devices. -/
structure DeviceSet where
  /-- The devices in ascending order of their serials. -/
  toList : List Device
  ascending : toList.Pairwise (·.serial < ·.serial)
  deriving DecidableEq, Repr

namespace DeviceSet

/-- No devices. -/
def empty : DeviceSet := ⟨[], .nil⟩

instance : Inhabited DeviceSet := ⟨empty⟩

/-- Puts a device at its place in an ascending list; it replaces one of the same serial. -/
def insertInto (d : Device) : List Device → List Device
  | [] => [d]
  | e :: rest =>
    if d.serial < e.serial then d :: e :: rest
    else if d.serial = e.serial then d :: rest
    else e :: insertInto d rest

theorem serial_mem_insertInto {d e : Device} {devices : List Device}
    (h : e ∈ insertInto d devices) : e = d ∨ e ∈ devices := by
  induction devices with
  | nil => simpa [insertInto] using h
  | cons first rest ih =>
    simp only [insertInto] at h
    split at h
    · simpa using h
    · split at h
      · rcases List.mem_cons.mp h with h | h
        · exact .inl h
        · exact .inr (List.mem_cons_of_mem _ h)
      · rcases List.mem_cons.mp h with h | h
        · exact .inr (h ▸ List.mem_cons_self)
        · exact (ih h).imp_right (List.mem_cons_of_mem _)

theorem ascending_insertInto (d : Device) {devices : List Device}
    (h : devices.Pairwise (·.serial < ·.serial)) :
    (insertInto d devices).Pairwise (·.serial < ·.serial) := by
  induction devices with
  | nil => simp [insertInto]
  | cons first rest ih =>
    obtain ⟨below, h⟩ := List.pairwise_cons.mp h
    simp only [insertInto]
    split
    · next lt =>
      refine List.pairwise_cons.mpr ⟨?_, List.pairwise_cons.mpr ⟨below, h⟩⟩
      intro other mem
      cases mem with
      | head => exact lt
      | tail _ mem => exact String.lt_trans lt (below other mem)
    · split
      · next eq => exact List.pairwise_cons.mpr ⟨fun e mem => eq ▸ below e mem, h⟩
      · next ge ne =>
        refine List.pairwise_cons.mpr ⟨?_, ih h⟩
        intro other mem
        rcases serial_mem_insertInto mem with rfl | mem
        · exact String.not_le.mp fun le => ne (String.le_antisymm le (String.not_lt.mp ge))
        · exact below other mem

/-- The set with a device put in; it replaces one of the same serial. -/
def insert (set : DeviceSet) (d : Device) : DeviceSet :=
  ⟨insertInto d set.toList, ascending_insertInto d set.ascending⟩

/-- The set of a list of devices; of two with one serial the later one counts. -/
def ofList (devices : List Device) : DeviceSet := devices.foldl insert empty

/-- The device of a serial. -/
def get? (set : DeviceSet) (serial : String) : Option Device :=
  set.toList.find? (·.serial = serial)

/-- Whether a serial is known. -/
def contains (set : DeviceSet) (serial : String) : Bool := (set.get? serial).isSome

/-- The set without the device of a serial. -/
def erase (set : DeviceSet) (serial : String) : DeviceSet :=
  ⟨set.toList.filter (·.serial ≠ serial), set.ascending.filter _⟩

/-- How many devices are known. -/
def size (set : DeviceSet) : Nat := set.toList.length

/-- The serials in ascending order. -/
def serials (set : DeviceSet) : List String := set.toList.map (·.serial)

/-- The changes that lead from one set to another: first the devices that went away, then those
that changed, then those that came, each group in ascending order. -/
def changes (old new : DeviceSet) : List DeviceEvent :=
  let gone := old.toList.filter fun d => !new.contains d.serial
  let altered := old.toList.filterMap fun d =>
    match new.get? d.serial with
    | some current => if current = d then none else some (.changed d current)
    | none => none
  let come := new.toList.filter fun d => !old.contains d.serial
  gone.map .disconnected ++ altered ++ come.map .connected

/-- The set after a list of devices took its place, and the changes. -/
def update (set : DeviceSet) (snapshot : List Device) : List DeviceEvent × DeviceSet :=
  let next := ofList snapshot
  (changes set next, next)

/-- The set after an event: the event's device is taken out or put in. -/
def replay (set : DeviceSet) : DeviceEvent → DeviceSet
  | .connected d => set.insert d
  | .changed _ current => set.insert current
  | .disconnected d => set.erase d.serial

end DeviceSet

end DebugBridge
