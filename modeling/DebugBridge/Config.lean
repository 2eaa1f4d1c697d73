import DebugBridge.Device.Basic
import DebugBridge.Endpoint
import DebugBridge.Text.Lowercase
import DebugBridge.Text.Utf8
import DebugBridge.Toml.Reader
import DebugBridge.Tracker.Basic

/-!
# Settings

The settings come from a file, each with a default, and from the environment, which goes before
the file. A file that cannot be read, or that says something unfit, counts as if it were not there.
-/

namespace DebugBridge

/-- How to reach and to run the server. -/
structure ServerSettings where
  host : String := Endpoint.localHost
  port : UInt16 := Endpoint.serverPort
  /-- The executable that starts and stops the server. -/
  adbPath : String := "adb"
  deriving DecidableEq, Repr, Inhabited

/-- Deadlines in milliseconds; a read or write deadline of zero stands for none. -/
structure DeadlineSettings where
  connect : Nat := 5000
  read : Nat := 5000
  write : Nat := 5000
  deriving DecidableEq, Repr, Inhabited

/-- How the tracker goes about its work. -/
structure WatchSettings where
  delay : Nat := 1000
  restartAfter : Nat := 10
  long : Bool := false
  deriving DecidableEq, Repr, Inhabited

/-- All settings. -/
structure Config where
  server : ServerSettings := {}
  deadlines : DeadlineSettings := {}
  watch : WatchSettings := {}
  /-- Commands that stand for others. -/
  aliases : List (String × String) := []
  /-- The devices that have settings, each with its name if it has one. -/
  devices : List (String × Option String) := []
  deriving DecidableEq, Repr, Inhabited

namespace Config

/-! ## The file -/

/-- A setting with its default. -/
def setting? {α : Type} (read : Toml → Option α) (standard : α) : Option Toml → Option α
  | none => some standard
  | some v => read v

/-- A number of milliseconds. -/
def milliseconds? : Toml → Option Nat := Toml.below? (Nat.pow 2 64)

/-- Reads how to reach and to run the server. -/
def server? (v : Toml) : Option ServerSettings := do
  match ← v.settings? ["host", "port", "adb_path"] with
  | [host, port, adbPath] =>
    let host ← setting? Toml.text? Endpoint.localHost host
    let port ← setting? (fun v => (v.below? UInt16.size).map UInt16.ofNat)
      Endpoint.serverPort port
    let adbPath ← setting? Toml.text? "adb" adbPath
    some { host, port, adbPath }
  | _ => none

/-- Reads the deadlines. -/
def deadlines? (v : Toml) : Option DeadlineSettings := do
  match ← v.settings? ["connect_ms", "read_ms", "write_ms"] with
  | [connect, read, write] =>
    let connect ← setting? milliseconds? 5000 connect
    let read ← setting? milliseconds? 5000 read
    let write ← setting? milliseconds? 5000 write
    some { connect, read, write }
  | _ => none

/-- Reads how the tracker goes about its work. -/
def watch? (v : Toml) : Option WatchSettings := do
  match ← v.settings? ["reconnect_delay_ms", "restart_after_attempts", "long_format"] with
  | [delay, restartAfter, long] =>
    let delay ← setting? milliseconds? 1000 delay
    let restartAfter ← setting? (Toml.below? (Nat.pow 2 32)) 10 restartAfter
    let long ← setting? Toml.truth? false long
    some { delay, restartAfter, long }
  | _ => none

/-- Reads a table whose entries are all read alike. -/
def entries? {α : Type} (read : Toml → Option α) (v : Toml) : Option (List (String × α)) :=
  v.entries? >>= fun entries => entries.mapM fun (key, v) => (read v).map fun a => (key, a)

/-- Reads the settings of a device. -/
def device? : Toml → Option (Option String)
  | .array [] => none
  | v => do
    match ← v.settings? ["name"] with
    | [some name] => name.text?.map some
    | _ => some none

/-- Reads all settings. -/
def ofToml? (v : Toml) : Option Config := do
  match ← v.settings? ["server", "timeouts", "tracker", "alias", "device"] with
  | [server, deadlines, watch, aliases, devices] =>
    let server ← setting? server? {} server
    let deadlines ← setting? deadlines? {} deadlines
    let watch ← setting? watch? {} watch
    let aliases ← setting? (entries? Toml.text?) [] aliases
    let devices ← setting? (entries? device?) [] devices
    some { server, deadlines, watch, aliases, devices }
  | _ => none

/-- The settings of a file. -/
def ofFile (file : Option Bytes) : Config :=
  let read : Option Config := do
    let bytes ← file
    match Utf8.decode bytes with
    | .ok cs => Toml.parse? (String.ofList cs) >>= ofToml?
    | .error _ => none
  read.getD {}

/-! ## The environment -/

/-- The variables that are set. -/
abbrev Environment := List (String × String)

/-- The value of a variable. -/
def valueOf? (env : Environment) (name : String) : Option String :=
  (env.find? (·.1 = name)).map (·.2)

/-- The port that the environment asks for; zero and texts that are no port do not count. -/
def environmentPort? (env : Environment) : Option UInt16 := do
  let text ← (valueOf? env "ADB_SERVER_PORT").orElse fun _ =>
    valueOf? env "ANDROID_ADB_SERVER_PORT"
  let port ← Text.word16? (Text.trim text.toList)
  if port = 0 then none else some port

/-- The settings with what the environment says. -/
def withEnvironment (c : Config) (env : Environment) : Config :=
  let host := ((valueOf? env "ADB_SERVER_HOST").filter (!·.isEmpty)).getD c.server.host
  let port := (environmentPort? env).getD c.server.port
  let adbPath := ((valueOf? env "ADB_PATH").filter (!·.isEmpty)).getD c.server.adbPath
  { c with server := { host, port, adbPath } }

/-- The settings of a file and the environment. -/
def load (file : Option Bytes) (env : Environment) : Config := (ofFile file).withEnvironment env

/-! ## What follows from the settings -/

/-- Where the server is. -/
def endpoint (c : Config) : Endpoint := ⟨c.server.host, c.server.port⟩

/-- A path with the home directory in place of a tilde that stands alone or before a slash. -/
def expandHome (home path : String) : String :=
  match path.toList with
  | ['~'] => home
  | '~' :: '/' :: rest => home ++ "/" ++ String.ofList rest
  | _ => path

/-- The executable that starts and stops the server. -/
def adbPath (c : Config) (home : String) : String := expandHome home c.server.adbPath

/-- The milliseconds that a connection may take, at least one. -/
def connectDeadline (c : Config) : Nat := max c.deadlines.connect 1

/-- A deadline, of which zero stands for none. -/
def deadline? (milliseconds : Nat) : Option Nat :=
  if milliseconds = 0 then none else some milliseconds

/-- The milliseconds that a read may take. -/
def readDeadline (c : Config) : Option Nat := deadline? c.deadlines.read

/-- The milliseconds that a write may take. -/
def writeDeadline (c : Config) : Option Nat := deadline? c.deadlines.write

/-- The command that a word stands for. -/
def resolveAlias (c : Config) (word : String) : String :=
  ((c.aliases.find? (·.1 = word)).map (·.2)).getD word

/-- The name of a device, whose serial is found without regard to case: the serial itself, or the
only one that starts with the text. -/
def deviceName? (c : Config) (serial : String) : Option String :=
  let wanted := Text.lower serial
  match c.devices.find? fun entry => Text.lower entry.1 = wanted with
  | some (_, name) => name
  | none =>
    match c.devices.filter fun entry =>
        wanted.toList.isPrefixOf (Text.lower entry.1).toList with
    | [(_, name)] => name
    | _ => none

/-! ## Choosing a device -/

/-- Whether a device's configured name is a text, without regard to case. -/
def hasName (lowered : String) (entry : String × Option String) : Bool :=
  entry.2.any fun name => Text.lower name = lowered

/-- The device that a text means: a serial, the name of a device in the settings, or the start of
one serial only. Without a text it is the only device that is online. -/
def chooseDevice (c : Config) (requested : Option String) (devices : List Device) :
    Except Failure String :=
  match requested with
  | none =>
    match devices.filter (·.isOnline) with
    | [] => .error .noDevicesFound
    | [d] => .ok d.serial
    | _ => .error .deviceIdRequired
  | some wanted =>
    if devices.any (·.serial = wanted) then .ok wanted
    else
      let lowered := Text.lower wanted
      match c.devices.find? (hasName lowered) with
      | some (serial, _) => .ok serial
      | none =>
        match devices.filter fun d =>
            lowered.toList.isPrefixOf (Text.lower d.serial).toList with
        | [] => .error (.deviceNotFound wanted)
        | [d] => .ok d.serial
        | _ => .error .deviceIdRequired

end Config

end DebugBridge
