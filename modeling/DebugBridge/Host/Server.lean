import DebugBridge.Endpoint
import DebugBridge.Host.Program

/-!
# The server on this host

The server is started and stopped by a program of the host, which is told the port and what to do.
-/

namespace DebugBridge

/-- The server on this host. -/
structure LocalServer where
  /-- The program that starts and stops it. -/
  executable : String
  endpoint : Endpoint
  deriving DecidableEq, Repr, Inhabited

namespace LocalServer

/-- Has the program do something. -/
def order (server : LocalServer) (tree : FileTree) (action : String) : Except Failure Unit :=
  let arguments := ["-P", toString server.endpoint.port.toNat, action]
  match Program.run tree server.executable arguments with
  | .error e => .error (.server ("Failed to execute adb command: " ++ e.message))
  | .ok outcome =>
    if outcome.succeeded then .ok ()
    else
      let failures := String.ofList (Text.trim (Utf8.lenient outcome.failures))
      .error (.server ("adb " ++ action ++ " failed: " ++ failures))

/-- Starts the server. -/
def start (server : LocalServer) (tree : FileTree) : Except Failure Unit :=
  server.order tree "start-server"

/-- Stops the server. -/
def stop (server : LocalServer) (tree : FileTree) : Except Failure Unit :=
  server.order tree "kill-server"

/-- Starts the server anew; that stopping may fail does not matter. -/
def restart (server : LocalServer) (tree : FileTree) : Except Failure Unit :=
  match server.stop tree with
  | .ok () | .error _ => server.start tree

end LocalServer

end DebugBridge
