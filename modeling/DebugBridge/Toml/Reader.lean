import DebugBridge.Toml.Draft
import DebugBridge.Toml.Quoted
import DebugBridge.Toml.Scalar

/-!
# Reading TOML

Reads a configuration file. Each reader takes the text from where it stands and gives what it read
and what follows it, or nothing if the text is malformed.

The readers that call each other count down `steps`; each step takes at least one character, so
the length of the text is enough (`parse?`).
-/

namespace DebugBridge.Toml

/-! ## Between values -/

/-- The text after blanks and tabs. -/
def dropGap (cs : List Char) : List Char := cs.dropWhile fun c => c = ' ' || c = '\t'

/-- The text after a comment, which ends before the line end. -/
def afterComment? (cs : List Char) : Option (List Char) :=
  let body := cs.takeWhile (· != '\n')
  let rest := cs.dropWhile (· != '\n')
  match rest with
  | [] => if body.all isPlain then some [] else none
  | rest =>
    if body.getLast? = some '\r' then
      if body.dropLast.all isPlain then some ('\r' :: rest) else none
    else if body.all isPlain then some rest else none

/-- The text after the end of a line, with a comment before it if there is one. -/
def afterLine? (cs : List Char) : Option (List Char) := do
  let cs ← match dropGap cs with
    | '#' :: rest => afterComment? rest
    | cs => some cs
  match cs with
  | [] => some []
  | '\n' :: rest => some rest
  | '\r' :: '\n' :: rest => some rest
  | _ => none

/-- The text after blanks, comments and line ends. -/
def dropLines? (steps : Nat) (cs : List Char) : Option (List Char) :=
  match steps with
  | 0 => none
  | steps + 1 =>
    match dropGap cs with
    | '\n' :: rest => dropLines? steps rest
    | '\r' :: '\n' :: rest => dropLines? steps rest
    | '#' :: rest => afterComment? rest >>= dropLines? steps
    | cs => some cs

/-! ## Keys -/

/-- Whether a character may stand in a key without quotes. -/
def isBare (c : Char) : Bool := c.isAlphanum || c = '_' || c = '-'

/-- A key without dots. -/
def key? (cs : List Char) : Option (String × List Char) :=
  match cs with
  | c :: rest =>
    if c = '"' || c = '\'' then
      (shortString? (c :: rest)).map fun (text, rest) => (String.ofList text, rest)
    else if isBare c then
      some (String.ofList (c :: rest.takeWhile isBare), rest.dropWhile isBare)
    else none
  | [] => none

/-- At most `room` keys with dots between them. -/
def keysWithin? (room : Nat) (cs : List Char) : Option (List String × List Char) :=
  match room with
  | 0 => none
  | room + 1 => do
    let (key, rest) ← key? (dropGap cs)
    match dropGap rest with
    | '.' :: rest =>
      let (keys, rest) ← keysWithin? room rest
      some (key :: keys, rest)
    | rest => some ([key], rest)

/-- How deep a key may lead, and how deep arrays and tables may stand inside each other in one
value. -/
def deepest : Nat := 80

/-- Keys with dots between them. -/
def keys? (cs : List Char) : Option (List String × List Char) := keysWithin? deepest cs

/-! ## Values -/

/-- Whether a character may stand in a word. -/
def isWordChar (c : Char) : Bool := isBare c || c = '+' || c = '.' || c = ':'

/-- A value that is one word; the blank between a date and a time of day belongs to it. -/
def word? (cs : List Char) : Option (Toml × List Char) :=
  let first := cs.takeWhile isWordChar
  let rest := cs.dropWhile isWordChar
  let (word, rest) := match Time.isDate first, rest with
    | true, ' ' :: c :: rest =>
      if c.isDigit then
        (first ++ ' ' :: c :: rest.takeWhile isWordChar, rest.dropWhile isWordChar)
      else (first, ' ' :: c :: rest)
    | _, rest => (first, rest)
  (ofWord? word).map fun v => (v, rest)

mutual

/-- A value; `room` is how many arrays and tables may still be opened inside each other. -/
def value? (steps room : Nat) (cs : List Char) : Option (Toml × List Char) :=
  match steps, room, cs with
  | 0, _, _ => none
  | steps + 1, room + 1, '[' :: rest => do
    let (items, rest) ← items? steps room rest
    some (.array items, rest)
  | steps + 1, room + 1, '\x7b' :: rest => do
    let (entries, rest) ← inlineEntries? steps room (.header, []) rest
    some (.table (Draft.finishEntries entries), rest)
  | _ + 1, _, '"' :: rest =>
    (string? ('"' :: rest)).map fun (text, rest) => (.string (String.ofList text), rest)
  | _ + 1, _, '\'' :: rest =>
    (string? ('\'' :: rest)).map fun (text, rest) => (.string (String.ofList text), rest)
  | _ + 1, _, cs => word? cs

/-- The items of an array up to its end; a comma may follow the last one. -/
def items? (steps room : Nat) (cs : List Char) : Option (List Toml × List Char) :=
  match steps with
  | 0 => none
  | steps + 1 => do
    match ← dropLines? (cs.length + 1) cs with
    | ']' :: rest => some ([], rest)
    | cs =>
      let (item, rest) ← value? steps room cs
      match ← dropLines? (rest.length + 1) rest with
      | ']' :: rest => some ([item], rest)
      | ',' :: rest =>
        let (items, rest) ← items? steps room rest
        some (item :: items, rest)
      | _ => none

/-- The entries of a table in braces up to its end; a comma may follow the last one. Lines may end
around keys, but not inside of them. -/
def inlineEntries? (steps room : Nat) (table : DraftTable) (cs : List Char) :
    Option (List (String × Draft) × List Char) :=
  match steps with
  | 0 => none
  | steps + 1 => do
    match ← dropLines? (cs.length + 1) cs with
    | '\x7d' :: rest => some (table.2, rest)
    | cs =>
      let (keys, rest) ← keys? cs
      match ← dropLines? (rest.length + 1) rest with
      | '=' :: rest =>
        let rest ← dropLines? (rest.length + 1) rest
        let (v, rest) ← value? steps room rest
        let table ← Draft.assign? v keys table
        match ← dropLines? (rest.length + 1) rest with
        | '\x7d' :: rest => some (table.2, rest)
        | ',' :: rest => inlineEntries? steps room table rest
        | _ => none
      | _ => none

end

/-! ## Texts -/

/-- Reads lines from where the text stands; `current` is the path of the table whose header came
last. -/
def lines? (steps : Nat) (current : List String) (root : DraftTable) (cs : List Char) :
    Option DraftTable :=
  match steps with
  | 0 => none
  | steps + 1 => do
    match ← dropLines? (cs.length + 1) cs with
    | [] => some root
    | '[' :: '[' :: rest =>
      let (keys, rest) ← keys? rest
      match rest with
      | ']' :: ']' :: rest =>
        let root ← Draft.openNext? keys root
        let rest ← afterLine? rest
        lines? steps keys root rest
      | _ => none
    | '[' :: rest =>
      let (keys, rest) ← keys? rest
      match rest with
      | ']' :: rest =>
        let root ← Draft.open? keys root
        let rest ← afterLine? rest
        lines? steps keys root rest
      | _ => none
    | cs =>
      let (keys, rest) ← keys? cs
      match rest with
      | '=' :: rest =>
        let (v, rest) ← value? (rest.length + 1) deepest (dropGap rest)
        let root ← Draft.at? false (Draft.assign? v keys) current root
        let rest ← afterLine? rest
        lines? steps current root rest
      | _ => none

/-- Reads a text; a byte order mark may stand in front. -/
def parse? (text : String) : Option Toml :=
  let cs := match text.toList with
    | '\ufeff' :: rest => rest
    | cs => cs
  (lines? (cs.length + 1) [] (.header, []) cs).map fun (_, entries) =>
    .table (Draft.finishEntries entries)

end DebugBridge.Toml
