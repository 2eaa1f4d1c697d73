import DebugBridge.Failure
import DebugBridge.Text.Blank
import DebugBridge.Text.Number

/-!
# Forward specs

One end of a forwarded connection: a port, a named socket or a process. A spec is written as its
kind, a colon and its value, and the value is never empty.
-/

namespace DebugBridge

/-- One end of a forwarded connection. -/
inductive ForwardSpec where
  /-- A port. -/
  | tcp (port : UInt16)
  /-- A socket of the abstract namespace. -/
  | abstractSocket (name : String)
  /-- A socket of the reserved namespace. -/
  | reservedSocket (name : String)
  /-- A socket that is a file. -/
  | fileSocket (name : String)
  /-- A process of the device, by its number. -/
  | process (id : UInt32)
  deriving DecidableEq, Repr, Inhabited

namespace ForwardSpec

/-- The word in front of the colon. -/
def kind : ForwardSpec → String
  | .tcp _ => "tcp"
  | .abstractSocket _ => "localabstract"
  | .reservedSocket _ => "localreserved"
  | .fileSocket _ => "localfilesystem"
  | .process _ => "jdwp"

/-- What stands after the colon. -/
def value : ForwardSpec → String
  | .tcp port => toString port.toNat
  | .abstractSocket name | .reservedSocket name | .fileSocket name => name
  | .process id => toString id.toNat

/-- The written form. -/
def render (spec : ForwardSpec) : String := spec.kind ++ ":" ++ spec.value

/-- The spec of a kind and a value that is not empty. -/
def ofParts? (kind value : List Char) : Option ForwardSpec :=
  if kind = "tcp".toList then (Text.word16? value).map .tcp
  else if kind = "jdwp".toList then (Text.word32? value).map .process
  else if kind = "localabstract".toList then some (.abstractSocket (String.ofList value))
  else if kind = "localreserved".toList then some (.reservedSocket (String.ofList value))
  else if kind = "localfilesystem".toList then some (.fileSocket (String.ofList value))
  else none

/-- Reads a spec; the kind ends at the first colon. -/
def parse? (text : String) : Option ForwardSpec :=
  match Text.splitFirst? ':' text.toList with
  | some (kind, value) => if value.isEmpty then none else ofParts? kind value
  | none => none

/-- Reads a spec, or says which text is none. -/
def parse (text : String) : Except Failure ForwardSpec :=
  match parse? text with
  | some spec => .ok spec
  | none => .error (.invalidForwardSpec text)

end ForwardSpec

end DebugBridge
