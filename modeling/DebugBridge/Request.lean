import DebugBridge.Endpoint
import DebugBridge.Forward.Spec

/-!
# Requests

What a client may ask of the server. The text of a request is what stands inside its frame.
-/

namespace DebugBridge

/-- A request to the server, or through it to a device. -/
inductive Request where
  /-- The version of the server. -/
  | version
  /-- The list of devices; `long` asks for their attributes too. -/
  | devices (long : Bool)
  /-- The list of devices, and a new one each time it changes. -/
  | trackDevices (long : Bool)
  /-- Asks the server to end. -/
  | kill
  /-- Turns the connection over to a device. -/
  | transport (serial : String)
  /-- Runs a command in the shell of the device. -/
  | shell (command : String)
  /-- Runs a command whose output is not changed on the way. -/
  | exec (command : String)
  /-- Starts a sync session. -/
  | sync
  /-- Attaches a device over the network. -/
  | connect (address : Endpoint)
  /-- Detaches a device that was attached over the network. -/
  | disconnect (address : Endpoint)
  /-- Forwards a local end to a remote one; `noRebind` refuses a local end that is in use. -/
  | forward (serial : String) (localSpec remoteSpec : ForwardSpec) (noRebind : Bool)
  /-- The forwards of one device, or of all. -/
  | listForward (serial : Option String)
  /-- Takes one forward down. -/
  | killForward (serial : String) (localSpec : ForwardSpec)
  /-- Takes all forwards of a device down. -/
  | killForwardAll (serial : String)
  /-- Restarts the device; an empty target restarts it as usual. -/
  | reboot (target : String)
  deriving DecidableEq, Repr, Inhabited

namespace Request

/-- The text of a request. -/
def text : Request → String
  | .version => "host:version"
  | .devices false => "host:devices"
  | .devices true => "host:devices-l"
  | .trackDevices false => "host:track-devices"
  | .trackDevices true => "host:track-devices-l"
  | .kill => "host:kill"
  | .transport serial => "host:transport:" ++ serial
  | .shell command => "shell:" ++ command
  | .exec command => "exec:" ++ command
  | .sync => "sync:"
  | .connect address => "host:connect:" ++ address.render
  | .disconnect address => "host:disconnect:" ++ address.render
  | .forward serial here there noRebind =>
    "host-serial:" ++ serial ++ ":forward:" ++ (if noRebind then "norebind:" else "") ++
      here.render ++ ";" ++ there.render
  | .listForward (some serial) => "host-serial:" ++ serial ++ ":list-forward"
  | .listForward none => "host:list-forward"
  | .killForward serial here => "host-serial:" ++ serial ++ ":killforward:" ++ here.render
  | .killForwardAll serial => "host-serial:" ++ serial ++ ":killforward-all"
  | .reboot target => "reboot:" ++ target

end Request

end DebugBridge
