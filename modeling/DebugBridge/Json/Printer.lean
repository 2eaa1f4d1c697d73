import DebugBridge.Json.Value

/-!
# Written JSON

Two layouts. The compact one has no blanks; the pretty one has a line for each item and each
member, indented by two blanks for each level. In strings only quotes, backslashes and control
characters are escaped.
-/

namespace DebugBridge.Json

/-- The small hexadecimal digit of a value below sixteen. -/
def hexDigit (n : Nat) : Char := Char.ofNat (if n < 10 then 0x30 + n else 0x57 + n)

/-- A character as it stands in a string. -/
def escape (c : Char) : List Char :=
  if c = '"' then ['\\', '"']
  else if c = '\\' then ['\\', '\\']
  else if c = '\x08' then ['\\', 'b']
  else if c = '\x0c' then ['\\', 'f']
  else if c = '\n' then ['\\', 'n']
  else if c = '\r' then ['\\', 'r']
  else if c = '\t' then ['\\', 't']
  else if c.toNat < 0x20 then
    ['\\', 'u', '0', '0', hexDigit (c.toNat / 16), hexDigit (c.toNat % 16)]
  else [c]

/-- A text as a string. -/
def quote (text : String) : List Char := '"' :: (text.toList.flatMap escape ++ ['"'])

/-- A value that is no array and no object. -/
def scalar : Json → List Char
  | .null => "null".toList
  | .bool true => "true".toList
  | .bool false => "false".toList
  | .integer n => (toString n).toList
  | .decimal text => text.toList
  | .string text => quote text
  | .unpaired => "\"\\ud800\"".toList
  | .array _ | .object _ => []

mutual

/-- A value without blanks. -/
def compact : Json → List Char
  | .array [] => ['[', ']']
  | .array (item :: rest) => '[' :: (compact item ++ compactItems rest ++ [']'])
  | .object [] => ['\x7b', '\x7d']
  | .object ((name, value) :: rest) =>
    '\x7b' :: (quote name ++ ':' :: (compact value ++ compactMembers rest ++ ['\x7d']))
  | .null => scalar .null
  | .bool b => scalar (.bool b)
  | .integer n => scalar (.integer n)
  | .decimal text => scalar (.decimal text)
  | .string text => scalar (.string text)
  | .unpaired => scalar .unpaired

/-- The items after the first one. -/
def compactItems : List Json → List Char
  | [] => []
  | item :: rest => ',' :: (compact item ++ compactItems rest)

/-- The members after the first one. -/
def compactMembers : List (String × Json) → List Char
  | [] => []
  | (name, value) :: rest => ',' :: (quote name ++ ':' :: (compact value ++ compactMembers rest))

end

/-- A line end and the indentation of a level. -/
def newLine (level : Nat) : List Char := '\n' :: List.replicate (2 * level) ' '

mutual

/-- A value at a level, a line for each item and each member. -/
def pretty (level : Nat) : Json → List Char
  | .array [] => ['[', ']']
  | .array (item :: rest) =>
    '[' :: (newLine (level + 1) ++ pretty (level + 1) item ++ prettyItems (level + 1) rest ++
      newLine level ++ [']'])
  | .object [] => ['\x7b', '\x7d']
  | .object ((name, value) :: rest) =>
    '\x7b' :: (newLine (level + 1) ++ quote name ++ [':', ' '] ++ pretty (level + 1) value ++
      prettyMembers (level + 1) rest ++ newLine level ++ ['\x7d'])
  | .null => scalar .null
  | .bool b => scalar (.bool b)
  | .integer n => scalar (.integer n)
  | .decimal text => scalar (.decimal text)
  | .string text => scalar (.string text)
  | .unpaired => scalar .unpaired

/-- The items after the first one. -/
def prettyItems (level : Nat) : List Json → List Char
  | [] => []
  | item :: rest => ',' :: (newLine level ++ pretty level item ++ prettyItems level rest)

/-- The members after the first one. -/
def prettyMembers (level : Nat) : List (String × Json) → List Char
  | [] => []
  | (name, value) :: rest =>
    ',' :: (newLine level ++ quote name ++ [':', ' '] ++ pretty level value ++
      prettyMembers level rest)

end

/-- The compact text of a value. -/
def compactText (v : Json) : String := String.ofList v.compact

/-- The pretty text of a value. -/
def prettyText (v : Json) : String := String.ofList (v.pretty 0)

end DebugBridge.Json
