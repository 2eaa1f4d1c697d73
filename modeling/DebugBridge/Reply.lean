import DebugBridge.Frame
import DebugBridge.Link
import DebugBridge.Request
import DebugBridge.Text.Blank

/-!
# Replies

How the server answers a request: four bytes that say whether it accepted, then, where there is a
text, a frame with one character per byte. `OKAY` accepts; anything else refuses and brings a text.
-/

namespace DebugBridge

/-- What came back for a request. -/
inductive Reply where
  /-- The connection broke before the reply was complete. -/
  | lost
  | okay (text : String)
  | refused (text : String)
  deriving DecidableEq, Repr, Inhabited

namespace Reply

/-- The status that accepts. -/
def okayStatus : Bytes := Utf8.ofString "OKAY"

/-- Only an accepting reply is a success. -/
def toResult : Reply → Except Failure Unit
  | .lost => .error (.connectionClosed "reading response")
  | .okay _ => .ok ()
  | .refused text => .error (.malformed text)

/-- Whether a refusal says that there is no such device. -/
def saysNoDevice (text : String) : Bool :=
  let text := Text.asciiLower (Text.trim text.toList)
  text = "device not found".toList ||
    ("device '".toList.isPrefixOf text && Text.endsWith "' not found".toList text)

end Reply

namespace Exchange

/-- Sends the frame of a text. -/
def sendText (text : String) : Exchange Unit := do
  let frame ← Frame.encode text
  writeAll frame
  flush

/-- Sends a request. -/
def send (request : Request) : Exchange Unit := sendText request.text

/-- Reads a framed text; none if the connection breaks. -/
def text? : Exchange (Option String) := do
  match ← fill? 4 with
  | none => pure none
  | some field =>
    let size ← Frame.parseLength field
    let payload ← fill? size
    pure (payload.map fun bytes => String.ofList bytes.latin1)

/-- Reads a reply; `withText` says that an accepting reply brings a text too. -/
def reply (withText : Bool) : Exchange Reply := do
  match ← fill? 4 with
  | none => pure .lost
  | some status =>
    if status = Reply.okayStatus && !withText then pure (.okay "")
    else
      match ← text? with
      | none => pure .lost
      | some text =>
        pure (if status = Reply.okayStatus then .okay text else .refused text)

/-- Reads a reply that must accept. -/
def okay : Exchange Unit := do
  let reply ← reply false
  reply.toResult

/-- Reads a framed text. -/
def text : Exchange String := do
  let field ← fill 4 "reading length prefix"
  let size ← Frame.parseLength field
  let payload ← fill size "reading length-prefixed payload"
  pure (String.ofList payload.latin1)

/-- Reads exactly `size` bytes of a frame. -/
def readExact (size : Nat) : Exchange Bytes := fill size "reading frame"

/-- Turns the connection over to a device. -/
def scopeTo (serial : String) : Exchange Unit := do
  send (.transport serial)
  match ← reply false with
  | .lost => throw (.connectionClosed "switching transport")
  | .okay _ => pure ()
  | .refused text =>
    if Reply.saysNoDevice text then throw (.deviceNotFound serial) else throw (.malformed text)

/-- Sends a request after whose acceptance the connection carries bare bytes. -/
def openStream (request : Request) : Exchange Unit := do
  send request
  okay

open Run in
/-- A text that was read leaves less to read. -/
theorem consumes_text : Consumes Link.remaining text :=
  (consumes_fill (by decide) _).bind fun field =>
    (shrinks_lift _ (Frame.parseLength field)).bind fun size =>
      (shrinks_fill size _).bind fun _ => shrinks_pure _ _

end Exchange

end DebugBridge
