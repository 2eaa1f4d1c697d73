import DebugBridge.Failure
import DebugBridge.Text.Blank
import DebugBridge.Text.Number
import DebugBridge.Text.Quoted

/-!
# Endpoints

The network address of a server, or of a device that is reachable over the network. It is written
`host:port`; the host may itself contain colons, the port stands after the last one.
-/

namespace DebugBridge

/-- A host and a port. -/
structure Endpoint where
  host : String
  port : UInt16
  deriving DecidableEq, Repr, Inhabited

namespace Endpoint

/-- The port that the server listens on unless told otherwise. -/
def serverPort : UInt16 := 5037

/-- The port that a device listens on when it is reachable over the network. -/
def devicePort : UInt16 := 5555

/-- The address of this machine. -/
def localHost : String := "127.0.0.1"

/-- The server on this machine. -/
def standard : Endpoint := ⟨localHost, serverPort⟩

/-- The written form. -/
def render (e : Endpoint) : String := e.host ++ ":" ++ toString e.port.toNat

/-- Reads `host` or `host:port`; a text without a colon is a host at the default port. -/
def parse? (text : String) (defaultPort : UInt16) : Option Endpoint :=
  match Text.splitLast? ':' text.toList with
  | some (host, port) =>
    if host.isEmpty then none
    else (Text.word16? port).map fun port => ⟨String.ofList host, port⟩
  | none => if text.isEmpty then none else some ⟨text, defaultPort⟩

/-- Reads an endpoint, or says which text is none. -/
def parse (text : String) (defaultPort : UInt16) : Except Failure Endpoint :=
  match parse? text defaultPort with
  | some e => .ok e
  | none => .error (.malformed ("Invalid address: " ++ Text.quoted text))

end Endpoint

end DebugBridge
