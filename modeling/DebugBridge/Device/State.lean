/-!
# Device states

The state of a device as the server reports it. A state has two written forms: the token of the
device list and the name that structured output uses.
-/

namespace DebugBridge

/-- The state of a device. -/
inductive DeviceState where
  | online | offline | unauthorized | noPermissions | authorizing | bootloader | recovery | host
  | connecting | sideload | unknown
  deriving DecidableEq, Repr, Inhabited

namespace DeviceState

/-- All states. -/
def all : List DeviceState :=
  [.online, .offline, .unauthorized, .noPermissions, .authorizing, .bootloader, .recovery, .host,
    .connecting, .sideload, .unknown]

/-- The token of the device list. -/
def token : DeviceState → String
  | .online => "device"
  | .offline => "offline"
  | .unauthorized => "unauthorized"
  | .noPermissions => "no permissions"
  | .authorizing => "authorizing"
  | .bootloader => "bootloader"
  | .recovery => "recovery"
  | .host => "host"
  | .connecting => "connecting"
  | .sideload => "sideload"
  | .unknown => "unknown"

/-- The name in structured output. -/
def name : DeviceState → String
  | .online => "online"
  | .noPermissions => "nopermissions"
  | state => state.token

/-- The state of a token; a token that is none of the list gives `unknown`. -/
def ofToken (token : String) : DeviceState :=
  (all.find? (·.token = token)).getD .unknown

/-- The state of a name. -/
def ofName? (name : String) : Option DeviceState := all.find? (·.name = name)

end DeviceState

end DebugBridge
