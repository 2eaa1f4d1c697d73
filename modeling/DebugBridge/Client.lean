import DebugBridge.Device.Line
import DebugBridge.Forward.Entry
import DebugBridge.Reply
import DebugBridge.Shell.Run
import DebugBridge.Sync.Session

/-!
# The client

What a client asks of the server, each as an exchange on a connection of its own.
-/

namespace DebugBridge.Client

/-- Asks a question whose answer is one text. -/
def query (request : Request) : Exchange String := do
  Exchange.send request
  Exchange.okay
  Exchange.text

/-- Asks for something that is only accepted or refused. -/
def order (request : Request) : Exchange Unit := do
  Exchange.send request
  Exchange.okay

/-- The version of the server, which it gives in hexadecimal digits. -/
def version : Exchange Nat := do
  let text ← query .version
  match Text.unsigned? 16 UInt32.size (Text.trim text.toList) with
  | some n => pure n
  | none => throw (.malformed ("Invalid version reply: " ++ Text.quoted text))

/-- The devices with their attributes. -/
def devices : Exchange (List Device) := do
  let body ← query (.devices true)
  pure (Device.parseList body)

/-- Ends the server. -/
def kill : Exchange Unit := order .kill

/-- The words with which an answer starts when a device could not be attached or detached. -/
def failureWords : List String := ["unable", "failed", "cannot", "error", "no such device"]

/-- Whether an answer says that a device could not be attached or detached. -/
def saysFailed (text : String) : Bool :=
  failureWords.any fun word => word.toList.isPrefixOf (Text.asciiLower text.toList)

/-- Asks for a device to be attached or detached. The request is accepted in any case, the text of
the answer says how it went. -/
def attachment (request : Request) : Exchange String := do
  let text ← query request
  if saysFailed text then throw (.malformed text) else pure text

/-- Attaches a device over the network. -/
def connect (address : Endpoint) : Exchange String := attachment (.connect address)

/-- Detaches a device that was attached over the network. -/
def disconnect (address : Endpoint) : Exchange String := attachment (.disconnect address)

/-- Sets up a forward. The server accepts twice: the request, then the forward. For the local port
zero it picks a port and says which. -/
def forward (serial : String) (here there : ForwardSpec) (noRebind : Bool) :
    Exchange (Option UInt16) := do
  Exchange.send (.forward serial here there noRebind)
  Exchange.okay
  Exchange.okay
  if here = .tcp 0 then
    let text ← Exchange.text
    match Text.word16? (Text.trim text.toList) with
    | some port => pure (some port)
    | none => throw (.malformed ("Invalid forward port: " ++ Text.quoted text))
  else pure none

/-- The forwards of a device, or of all. -/
def listForward (serial : Option String) : Exchange (List ForwardEntry) := do
  let body ← query (.listForward serial)
  ForwardEntry.parseList body

/-- Takes a forward down. -/
def removeForward (serial : String) (here : ForwardSpec) : Exchange Unit :=
  order (.killForward serial here)

/-- Takes all forwards of a device down. -/
def removeAllForwards (serial : String) : Exchange Unit := order (.killForwardAll serial)

/-! ## Requests to a device -/

/-- Restarts a device. -/
def reboot (serial target : String) : Exchange Unit := do
  Exchange.scopeTo serial
  order (.reboot target)

/-- Opens a stream of bare bytes from a device. -/
def stream (serial : String) (request : Request) : Exchange Unit := do
  Exchange.scopeTo serial
  Exchange.openStream request

/-- Runs a command in the shell of a device and hands its output to a receiver. -/
def shell {σ : Type} (receiver : Receiver σ) (cancelled : Shell.Cancelled)
    (serial command : String) (idle : Option Nat) (state : σ) (link : Link) :
    (Except Failure Unit × σ) × Link :=
  match Exchange.scopeTo serial link with
  | (.error e, link) => ((.error e, state), link)
  | (.ok (), link) => Shell.run receiver cancelled command idle state link

/-- Opens a sync session with a device, works in it, and ends it whatever comes of the work. -/
def session {α : Type} (serial : String) (work : SyncSession → Except Failure α × SyncSession)
    (link : Link) : Except Failure α × Link :=
  let start : Exchange Unit := do
    Exchange.scopeTo serial
    SyncSession.start
  match start link with
  | (.error e, link) => (.error e, link)
  | (.ok (), link) =>
    let (result, session) := work { link }
    (result, session.abort.link)

end DebugBridge.Client
