import DebugBridge.Client
import DebugBridge.CommandLine.Command
import DebugBridge.Host.Server
import DebugBridge.Network
import DebugBridge.Output.TimedEvent
import DebugBridge.Sync.Directory
import DebugBridge.Tracker.Watch

/-!
# Carrying out commands

What each command does at a workplace: the network, the local files, and the two outputs. Output
that was made before a failure stays.
-/

namespace DebugBridge

/-- What a command works with. -/
structure Workplace where
  network : Network
  tree : FileTree := {}
  /-- The home directory of the user. -/
  home : String := ""
  /-- The seconds since the start of 1970. -/
  time : Int := 0
  out : Array UInt8 := #[]
  err : Array UInt8 := #[]
  deriving Inhabited

/-- A run at a workplace. -/
abbrev CommandRun := Run Workplace

namespace Workplace

/-- Prints text. -/
def print (p : Printed) : CommandRun Unit := fun w =>
  (.ok (), { w with
    out := w.out.appendList (Utf8.ofString p.out)
    err := w.err.appendList (Utf8.ofString p.err) })

/-- A step on the network. -/
def onNetwork {α : Type} (x : NetworkRun α) : CommandRun α := fun w =>
  let (result, network) := x w.network
  (result, { w with network })

/-- An exchange on a connection of its own. -/
def exchange {α : Type} (x : Exchange α) : CommandRun α := onNetwork (Network.run x)

/-- Looks at the local files. -/
def look {α : Type} (f : FileTree → α) : CommandRun α := fun w => (.ok (f w.tree), w)

/-- The program that starts and stops the server on this host does something. -/
def order (c : Context) (f : LocalServer → FileTree → Except Failure Unit) : CommandRun Unit :=
  fun w => (f ⟨c.config.adbPath w.home, c.config.endpoint⟩ w.tree, w)

/-! ## Devices -/

/-- The serial of the device that the command is for. -/
def chooseDevice (c : Context) : CommandRun String := do
  let devices ← exchange Client.devices
  c.config.chooseDevice c.serial devices

/-- Steps of a sync session with a device, among the local files. -/
def session {α : Type} (serial : String) (x : FileRun α) : CommandRun α := fun w =>
  let work (s : SyncSession) : Except Failure (Except Failure α × FileTree) × SyncSession :=
    let (result, f) := x { transfer := { session := s }, tree := w.tree }
    (.ok (result, f.tree), f.transfer.session)
  match Network.use (Client.session serial work) w.network with
  | (.ok (result, tree), network) => (result, { w with network, tree })
  | (.error e, network) => (.error e, { w with network })

/-- Runs a command in the shell of a device; its output goes to the first output. -/
def shell (serial command : String) (idle : Option Nat) : CommandRun Unit := fun w =>
  let work (link : Link) : Except Failure (Except Failure Unit × Array UInt8) × Link :=
    let (result, link) :=
      Client.shell Receiver.keeping (fun _ => false) serial command idle w.out link
    (.ok result, link)
  match Network.use work w.network with
  | (.ok (result, out), network) => (result, { w with network, out })
  | (.error e, network) => (.error e, { w with network })

end Workplace

namespace Command

open Workplace

/-! ## Lists -/

/-- Prints the devices. -/
def listDevices (c : Context) (long : Bool) : CommandRun Unit := do
  let devices ← exchange Client.devices
  if devices.isEmpty && c.form ≠ .json then print (c.formatter.message "No devices attached")
  else if long then print (c.formatter.print c.form devices)
  else print (c.formatter.print c.form (devices.map Device.brief))

/-- Prints the entries of a directory on a device in ascending order of their names. -/
def listDirectory (c : Context) (path : String) (all : Bool) : CommandRun Unit := do
  let serial ← chooseDevice c
  let entries ← session serial (FileTransfer.onSession (SyncSession.list path))
  let shown := if all then entries else entries.filter fun e => e.name ≠ "." && e.name ≠ ".."
  print (c.formatter.print c.form (shown.mergeSort fun a b => a.name ≤ b.name))

/-- Prints the status of files on a device. -/
def statFiles (c : Context) (paths : List String) : CommandRun Unit := do
  let serial ← chooseDevice c
  let stats ← session serial <| FileTransfer.onSession <| paths.mapM fun path => do
    let stat ← SyncSession.stat path
    pure (⟨path, stat⟩ : PathStat)
  print (c.formatter.print c.form stats)

/-- Prints the forwards, of one device if one was asked for. -/
def printForwards (c : Context) : CommandRun Unit := do
  let serial ← match c.serial with
    | some _ => do
      let serial ← chooseDevice c
      pure (some serial)
    | none => pure none
  let entries ← exchange (Client.listForward serial)
  print (c.formatter.print c.form entries)

/-! ## Forwards -/

/-- Sets up a forward. -/
def setForward (c : Context) (here there : String) (noRebind : Bool) : CommandRun Unit := do
  let here ← ForwardSpec.parse here
  let there ← ForwardSpec.parse there
  let serial ← chooseDevice c
  match ← exchange (Client.forward serial here there noRebind) with
  | some port => print (c.formatter.message (toString port.toNat))
  | none =>
    print (c.formatter.success ("Forwarded " ++ here.render ++ " -> " ++ there.render))

/-- Takes one forward of a device down, or all of them. -/
def takeForward (c : Context) (here : Option String) (all : Bool) : CommandRun Unit := do
  let serial ← chooseDevice c
  match here.filter fun _ => !all with
  | some here =>
    let here ← ForwardSpec.parse here
    exchange (Client.removeForward serial here)
    print (c.formatter.success ("Removed forward " ++ here.render))
  | none =>
    exchange (Client.removeAllForwards serial)
    print (c.formatter.success "Removed all forwards")

/-! ## Files -/

/-- Where a source lands: in the target if that is a directory on the device or there are several
sources, else at the target itself. -/
def landing (several : Bool) (source target : String) : FileRun String := do
  let isInside ←
    if several then pure true
    else do
      let stat ← FileTransfer.onSession (SyncSession.stat target)
      pure stat.isDirectory
  pure (if isInside then Path.joinRemote target ((Path.lastName? source).getD "") else target)

/-- Sends a file or a directory. -/
def pushOne (several : Bool) (source target : String) : FileRun Summary := do
  let place ← landing several source target
  let tree ← FileTransfer.look .ok
  if tree.isDirectory source then FileTransfer.pushDirectory (fun _ => false) source place
  else if tree.isFile source then
    let bytes ← FileTransfer.pushFile (fun _ => false) .alone source place
    pure ⟨1, bytes⟩
  else throw (.fileNotFound source)

/-- Sends files and directories, after what `done` sums up. -/
def pushEach (several : Bool) (target : String) (done : Summary) : List String → FileRun Summary
  | [] => pure done
  | source :: rest => do
    let sent ← pushOne several source target
    pushEach several target (done.join sent) rest

/-- Fetches a file or a directory. -/
def pullOne (source target : String) : FileRun Summary := do
  let stat ← FileTransfer.onSession (SyncSession.stat source)
  if !stat.isPresent then throw (.fileNotFound source)
  let tree ← FileTransfer.look .ok
  let place := FileTransfer.destination tree source target
  if stat.isDirectory then FileTransfer.pullDirectory (fun _ => false) place source
  else
    let bytes ← FileTransfer.pullFile (fun _ => false) .alone place source
    pure ⟨1, bytes⟩

/-- How many files and bytes were moved, for readers. -/
def summaryText (s : Summary) (done : String) : String :=
  toString s.files ++ " file(s) " ++ done ++ ", " ++ Size.text s.bytes

/-- Sends files and directories to a device. -/
def pushAll (c : Context) (sources : List String) (target : String) : CommandRun Unit := do
  let serial ← chooseDevice c
  let sent ← session serial (pushEach (1 < sources.length) target {} sources)
  print (c.formatter.success (summaryText sent "pushed"))

/-- Fetches a file or a directory from a device. -/
def pullAll (c : Context) (source target : String) : CommandRun Unit := do
  let serial ← chooseDevice c
  let received ← session serial (pullOne source target)
  print (c.formatter.success (summaryText received "pulled"))

/-! ## The server and its devices -/

/-- The version of this program. -/
def programVersion : String := "0.1.0"

/-- Prints the version of this program and of the server. -/
def printVersion (c : Context) : CommandRun Unit := do
  let server ← exchange Client.version
  match c.form with
  | .json =>
    print (c.formatter.document
      (.object [("client", .string programVersion), ("server", .ofNat server)]))
  | .plain => print (c.formatter.message (toString server))
  | .table =>
    print (c.formatter.message ("adbhost " ++ programVersion))
    print (c.formatter.message ("ADB server version 1.0." ++ toString server))

/-- Asks the server for something about a network address and prints its answer. -/
def attach (c : Context) (ask : Endpoint → Exchange String) (address : String) :
    CommandRun Unit := do
  let address ← Endpoint.parse address Endpoint.devicePort
  let answer ← exchange (ask address)
  print (c.formatter.success answer)

/-- Restarts a device. -/
def restartDevice (c : Context) (target : Option RebootTarget) : CommandRun Unit := do
  let serial ← chooseDevice c
  exchange (Client.reboot serial ((target.map RebootTarget.name).getD ""))
  let into := (target.map fun t => " into " ++ t.name).getD ""
  print (c.formatter.success ("Rebooting " ++ serial ++ into))

/-- Runs words as one command in the shell of a device; a configured command may stand for it. -/
def runShell (c : Context) (words : List String) (idle : Option Nat) : CommandRun Unit := do
  let serial ← chooseDevice c
  Workplace.shell serial (c.config.resolveAlias (" ".intercalate words)) (idle.map (· * 1000))

/-- The version of the server, if there is one that answers. -/
def answeringServer : NetworkRun (Option Nat) := fun net =>
  match net.probe with
  | (false, net) => (.ok none, net)
  | (true, net) =>
    let (result, net) := Network.run Client.version net
    (.ok result.toOption, net)

/-- Does something to the server on this host. -/
def operate (c : Context) : ServerOperation → CommandRun Unit
  | .start => do
    print (c.formatter.message "Starting ADB server...")
    order c LocalServer.start
    print (c.formatter.success "ADB server started")
  | .stop => do
    print (c.formatter.message "Stopping ADB server...")
    exchange Client.kill
    print (c.formatter.success "ADB server stopped")
  | .restart => do
    print (c.formatter.message "Restarting ADB server...")
    order c LocalServer.restart
    print (c.formatter.success "ADB server restarted")
  | .status => do
    match ← onNetwork answeringServer with
    | some number =>
      print (c.formatter.message
        (Color.green.paint c.palette "●" ++ " ADB server 1.0." ++ toString number ++
          " is running on " ++ c.config.endpoint.render))
    | none =>
      print (c.formatter.message (Color.red.paint c.palette "●" ++ " ADB server is not running"))

/-- The line of an event. -/
def eventLine (c : Context) (e : TimedEvent) : String :=
  match c.form with
  | .table => e.line c.palette
  | .plain => e.plain
  | .json => e.toJson.compactText

/-- Prints the events of a tracker until the connections to come are used up. -/
def trackDevices (c : Context) (long : Bool) : CommandRun Unit := do
  print (c.formatter.message "Tracking devices, press Ctrl-C to stop")
  let lines ← fun w =>
    let settings : TrackerSettings :=
      { delay := c.config.watch.delay
        restartAfter := c.config.watch.restartAfter
        long := c.config.watch.long || long
        canRestart := true }
    let attempts := w.network.coming.map fun
      | .ok link => Attempt.made link true
      | .error _ => Attempt.refused
    let t := (Tracker.start {} attempts { settings }).stop
    let lines := t.happenings.toList.filterMap fun h =>
      match h.sight with
      | .event e _ => some (eventLine c ⟨w.time, e⟩)
      | _ => none
    (.ok lines, { w with
      network := { w.network with coming := [], past := w.network.past ++ t.links } })
  print { out := String.join (lines.map (· ++ "\n")) }

/-! ## All commands -/

/-- Carries out a command. -/
def run (c : Context) : Command → CommandRun Unit
  | .devices long => listDevices c long
  | .track long => trackDevices c long
  | .version => printVersion c
  | .shell words idle => runShell c words idle
  | .push sources target => pushAll c sources target
  | .pull source target => pullAll c source target
  | .list path all => listDirectory c path all
  | .stat paths => statFiles c paths
  | .listForwards => printForwards c
  | .addForward here there noRebind => setForward c here there noRebind
  | .removeForward here all => takeForward c here all
  | .connect address => attach c Client.connect address
  | .disconnect address => attach c Client.disconnect address
  | .reboot target => restartDevice c target
  | .server operation => operate c operation

end Command

end DebugBridge
