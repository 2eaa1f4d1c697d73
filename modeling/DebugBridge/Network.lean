import DebugBridge.Link

/-!
# The network

The network as a value: what becomes of the next attempts to connect, and what has become of those
before. Every request of a client goes over a connection of its own.
-/

namespace DebugBridge

/-- What becomes of attempts to connect. -/
structure Network where
  /-- The next attempts: a connection, or the failure of the attempt. -/
  coming : List (Except Failure Link) := []
  /-- The failure of every attempt after them. -/
  beyond : Failure
  /-- The attempts so far; none for one that failed. -/
  past : Array (Option Link) := #[]
  deriving Inhabited

/-- A run that makes connections. -/
abbrev NetworkRun := Run Network

namespace Network

/-- The failure of an attempt when nothing can be reached. -/
def unreachable : Failure :=
  .connection (.ofSystem .networkUnreachable "Network is unreachable" 101)

/-- Opens a connection. -/
def dial : NetworkRun Link := fun net =>
  match net.coming with
  | [] => (.error net.beyond, { net with past := net.past.push none })
  | .error e :: rest => (.error e, { net with coming := rest, past := net.past.push none })
  | .ok link :: rest => (.ok link, { net with coming := rest })

/-- Puts a connection away. -/
def putAway (link : Link) : NetworkRun Unit := fun net =>
  (.ok (), { net with past := net.past.push (some link) })

/-- Uses a new connection, whatever comes of it, and puts it away. -/
def use {α : Type} (f : Link → Except Failure α × Link) : NetworkRun α := do
  let link ← dial
  let (result, link) := f link
  putAway link
  result

/-- Runs an exchange on a connection of its own. -/
def run {α : Type} (x : Exchange α) : NetworkRun α := use fun link => x link

/-- Whether a connection can be made; it is not used. -/
def probe (net : Network) : Bool × Network :=
  match dial net with
  | (.error _, net) => (false, net)
  | (.ok link, net) => (true, (putAway link net).2)

end Network

end DebugBridge
