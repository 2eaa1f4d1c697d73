import DebugBridge.Forward.Spec
import DebugBridge.Text.Quoted

/-!
# Lists of forwards

The server lists the forwards that are set up, one in a line: the serial of the device, the local
spec and the remote spec. Blank lines do not count, and neither does what follows the third word.
-/

namespace DebugBridge

/-- A forward that is set up. -/
structure ForwardEntry where
  serial : String
  localSpec : ForwardSpec
  remoteSpec : ForwardSpec
  deriving DecidableEq, Repr, Inhabited

namespace ForwardEntry

/-- The line of a forward. -/
def render (e : ForwardEntry) : String :=
  e.serial ++ " " ++ e.localSpec.render ++ " " ++ e.remoteSpec.render

/-- Reads a line. -/
def parseLine (line : List Char) : Except Failure ForwardEntry :=
  match Text.words line with
  | serial :: here :: there :: _ => do
    let here ← ForwardSpec.parse (String.ofList here)
    let there ← ForwardSpec.parse (String.ofList there)
    .ok ⟨String.ofList serial, here, there⟩
  | _ => .error (.malformed ("Malformed forward entry: " ++ Text.quoted (String.ofList line)))

/-- Reads a list of lines; the first bad one decides. -/
def parseList (body : String) : Except Failure (List ForwardEntry) :=
  ((Text.lines body.toList).filter fun line => !(Text.trim line).isEmpty).mapM parseLine

end ForwardEntry

end DebugBridge
