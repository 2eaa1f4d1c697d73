import DebugBridge.Json.Token

/-!
# Reading JSON

A reader takes the tokens of a text one after the other. It keeps a stack of the arrays and
objects that are open, and knows what may come next; so values may be nested to any depth.
-/

namespace DebugBridge.Json

/-- The members of an object that is open, the last one first; none after a name that is no
text. -/
abbrev OpenMembers := Option (List (String × Json))

/-- An array or object that is open, with what it holds so far, the last one first. -/
inductive Opened where
  | array (items : List Json)
  | object (members : OpenMembers)
  /-- An object whose last name still waits for its value. -/
  | member (members : OpenMembers) (name : Option String)
  deriving Repr, Inhabited

/-- What may come next. -/
inductive Expected where
  | value
  /-- A value, or the end of an array that holds nothing yet. -/
  | firstItem
  | name
  /-- A name, or the end of an object that holds nothing yet. -/
  | firstName
  | colon
  /-- A comma or the end of what is open. -/
  | commaOrEnd
  /-- Nothing: the value is complete. -/
  | nothing (v : Json)
  deriving Repr, Inhabited

/-- How the reading stands. -/
structure Reading where
  opened : List Opened := []
  expected : Expected := .value
  deriving Repr, Inhabited

namespace Reading

/-- Puts a complete value where it belongs. -/
def complete (v : Json) : List Opened → Option Reading
  | [] => some { opened := [], expected := .nothing v }
  | .array items :: rest => some { opened := .array (v :: items) :: rest, expected := .commaOrEnd }
  | .member members name :: rest =>
    let longer := do
      let members ← members
      let name ← name
      some ((name, v) :: members)
    some { opened := .object longer :: rest, expected := .commaOrEnd }
  | .object _ :: _ => none

/-- Starts a value, or takes one that holds no others. -/
def start (opened : List Opened) : Token → Option Reading
  | .openArray => some { opened := .array [] :: opened, expected := .firstItem }
  | .openObject => some { opened := .object (some []) :: opened, expected := .firstName }
  | .value v => complete v opened
  | _ => none

/-- Takes the name of a member. -/
def name : List Opened → Token → Option Reading
  | .object members :: rest, .value (.string text) =>
    some { opened := .member members (some text) :: rest, expected := .colon }
  | .object members :: rest, .value .unpaired =>
    some { opened := .member members none :: rest, expected := .colon }
  | _, _ => none

/-- The value of an object that ends. -/
def ended : OpenMembers → Json
  | some members => .object members.reverse
  | none => .unpaired

/-- Ends what is open. -/
def close : List Opened → Token → Option Reading
  | .array items :: rest, .closeArray => complete (.array items.reverse) rest
  | .object members :: rest, .closeObject => complete (ended members) rest
  | _, _ => none

/-- Takes a comma, or ends what is open. -/
def goOn : List Opened → Token → Option Reading
  | .array items :: rest, .comma =>
    some { opened := .array items :: rest, expected := .value }
  | .object members :: rest, .comma =>
    some { opened := .object members :: rest, expected := .name }
  | opened, t => close opened t

/-- Takes one token. -/
def step (r : Reading) (t : Token) : Option Reading :=
  match r.expected, t with
  | .value, t => start r.opened t
  | .firstItem, .closeArray => close r.opened t
  | .firstItem, t => start r.opened t
  | .name, t => name r.opened t
  | .firstName, .closeObject => close r.opened t
  | .firstName, t => name r.opened t
  | .colon, .colon => some { r with expected := .value }
  | .colon, _ => none
  | .commaOrEnd, t => goOn r.opened t
  | .nothing _, _ => none

end Reading

/-- The value of tokens. -/
def ofTokens? (tokens : List Token) : Option Json :=
  match tokens.foldlM Reading.step {} with
  | some ⟨_, .nothing v⟩ => some v
  | _ => none

/-- Reads a JSON text. -/
def parse? (text : String) : Option Json := tokens? text >>= ofTokens?

end DebugBridge.Json
