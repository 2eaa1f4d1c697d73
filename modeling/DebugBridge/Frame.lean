import DebugBridge.Failure
import DebugBridge.Text.Number
import DebugBridge.Text.Quoted
import DebugBridge.Text.Utf8

/-!
# Frames

A frame is a length of four hexadecimal digits and that many bytes. Requests are framed with
capital digits; digits of either case are read.
-/

namespace DebugBridge.Frame

/-- The longest request that four digits can announce. -/
def maxSize : Nat := 0xFFFF

/-- The capital hexadecimal digit of a value below sixteen. -/
def upperDigit (n : Nat) : UInt8 :=
  UInt8.ofNat (if n < 10 then 0x30 + n else 0x37 + n)

/-- The length field of a size below 65536. -/
def lengthField (size : Nat) : Bytes :=
  [upperDigit (size / 4096 % 16), upperDigit (size / 256 % 16), upperDigit (size / 16 % 16),
    upperDigit (size % 16)]

/-- The value of a hexadecimal digit. -/
def hexDigit? (b : UInt8) : Option Nat :=
  let n := b.toNat
  if 0x30 ≤ n && n ≤ 0x39 then some (n - 0x30)
  else if 0x41 ≤ n && n ≤ 0x46 then some (n - 0x37)
  else if 0x61 ≤ n && n ≤ 0x66 then some (n - 0x57)
  else none

/-- The number in a length field. -/
def length? : Bytes → Option Nat
  | [a, b, c, d] => do
    let a ← hexDigit? a
    let b ← hexDigit? b
    let c ← hexDigit? c
    let d ← hexDigit? d
    some (a * 4096 + b * 256 + c * 16 + d)
  | _ => none

/-- Reads a length field, or says what stands there. -/
def parseLength (field : Bytes) : Except Failure Nat :=
  match length? field with
  | some size => .ok size
  | none => .error
      (.malformed ("Invalid length field: " ++ Text.quoted (Utf8.lenientString field)))

/-- Frames a request. -/
def encode (text : String) : Except Failure Bytes :=
  let payload := Utf8.ofString text
  if payload.length > maxSize then .error (.requestTooLong payload.length)
  else .ok (lengthField payload.length ++ payload)

/-- Reads a frame that holds exactly one request. -/
def decode (frame : Bytes) : Except Failure String :=
  if frame.length < 4 then
    .error (.malformed s!"Request frame too short: {frame.length} bytes")
  else do
    let size ← parseLength (frame.take 4)
    let payload := frame.drop 4
    if payload.length ≠ size then
      .error (.malformed
        s!"Request length field says {size} bytes, frame carries {payload.length}")
    else
      match Utf8.decode payload with
      | .ok cs => .ok (String.ofList cs)
      | .error e => .error (.malformed ("Request is not valid UTF-8: " ++ e.message))

end DebugBridge.Frame
