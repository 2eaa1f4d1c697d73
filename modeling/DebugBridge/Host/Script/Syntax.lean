import DebugBridge.Host.Script.Token

/-!
# Commands of scripts

The commands that tokens make up: plain ones, and those made of others by marks and keywords. A
keyword counts only where a command may start.

The readers that call each other count down `steps`; each step takes at least one token or goes
one level down, of which there are fewer than ten, so ten times the number of tokens is enough
(`lines`).
-/

namespace DebugBridge.Script

/-- Where a channel of a command leads. -/
inductive Redirection where
  | input (channel : Nat) (file : Word)
  /-- To the end of a file if `appends` says so, else to a file that is emptied first. -/
  | output (channel : Nat) (file : Word) (appends : Bool)
  /-- Where another channel leads, whose number the word stands for. -/
  | copied (channel : Nat) (other : Word)
  | document (channel : Nat) (text : List Char) (literal : Bool)
  deriving DecidableEq, Repr

/-- A command. -/
inductive Command where
  | plain (line : Nat) (words : List Word) (redirections : List Redirection)
  | redirected (c : Command) (redirections : List Redirection)
  | nothing
  | sequence (first second : Command)
  /-- The second one only if the first one went well. -/
  | both (first second : Command)
  /-- The second one only if the first one did not go well. -/
  | either (first second : Command)
  | negated (c : Command)
  /-- The second one reads what the first one writes. -/
  | piped (first second : Command)
  /-- A command that changes nothing for those after it. -/
  | apart (c : Command)
  /-- A command that the script does not wait for. -/
  | aside (c : Command)
  | choice (condition yes no : Command)
  /-- Repeats the body as long as the condition's success is `whileSuccess`. -/
  | loop (whileSuccess : Bool) (condition body : Command)
  /-- Without words, the arguments take their place. -/
  | forEach (name : List Char) (words : Option (List Word)) (body : Command)
  | cases (subject : Word) (clauses : List (List Word × Command))
  | define (name : List Char) (body : Command)
  deriving Repr, Inhabited

/-! ## Reading tokens -/

/-- What is left to read. -/
structure Rest where
  tokens : List Token
  documents : List Document
  /-- The line that the script ends in. -/
  lastLine : Nat := 1
  deriving Repr, Inhabited

/-- A token that may not stand where it does. -/
structure Unexpected where
  line : Nat
  found : Option Piece
  expected : Option String := none
  deriving Repr, Inhabited

/-- Reads from what is left. -/
abbrev Parse := StateT Rest (Except Unexpected)

/-- Words that start, divide or end a command made of others. -/
def keywords : List String :=
  ["if", "then", "elif", "else", "fi", "while", "until", "for", "do", "done", "case", "esac",
    "\x7b", "\x7d", "!"]

/-- The name of a token in messages about it. -/
def Piece.describe : Piece → String
  | .newline => "newline"
  | .mark sign => "\"" ++ sign ++ "\""
  | .arrow .. => "redirection"
  | .faulty message => message
  | .word w =>
    match w.bare? with
    | some cs =>
      let text := String.ofList cs
      if keywords.contains text then "\"" ++ text ++ "\"" else "word"
    | none => "word"

/-- The message about a token that may not stand where it does. -/
def Unexpected.message (u : Unexpected) : String :=
  match u.found with
  | some (.faulty message) => "Syntax error: " ++ message
  | found =>
    "Syntax error: " ++ (found.map Piece.describe).getD "end of file" ++ " unexpected" ++
      match u.expected with
      | some sign => " (expecting \"" ++ sign ++ "\")"
      | none => ""

namespace Parse

/-- The next piece, which is left in place. -/
def peek : Parse (Option Piece) := fun r => .ok (r.tokens.head?.map (·.piece), r)

/-- Takes the next token. -/
def skip : Parse Unit := fun r =>
  match r.tokens with
  | [] => .ok ((), r)
  | _ :: tokens => .ok ((), { r with tokens })

/-- The line of the next token. -/
def lineHere : Parse Nat := fun r => .ok ((r.tokens.head?.map (·.line)).getD r.lastLine, r)

/-- The next token may not stand where it does. The end of a line counts to the next one. -/
def unexpected {α : Type} (expected : Option String) : Parse α := fun r =>
  match r.tokens with
  | [] => .error ⟨r.lastLine, none, expected⟩
  | t :: _ => .error ⟨if t.piece = .newline then t.line + 1 else t.line, some t.piece, expected⟩

/-- The shell refuses a name. -/
def refuse {α : Type} (message : String) : Parse α := fun r =>
  .error ⟨(r.tokens.head?.map (·.line)).getD r.lastLine, some (.faulty message), none⟩

/-- The next token as a bare word. -/
def peekBare : Parse (Option String) := do
  match ← peek with
  | some (.word w) => return w.bare?.map String.ofList
  | _ => return none

/-- Takes a keyword. -/
def keyword (text : String) : Parse Unit := do
  if (← peekBare) = some text then skip else unexpected (some text)

/-- Takes a mark. -/
def mark (sign : String) : Parse Unit := do
  if (← peek) = some (.mark sign) then skip else unexpected (some sign)

/-- Takes a word. -/
def word : Parse Word := do
  match ← peek with
  | some (.word w) => skip; return w
  | _ => unexpected none

/-- Takes line ends; `steps` is at least their number. -/
def newlines : (steps : Nat) → Parse Unit
  | 0 => return ()
  | steps + 1 => do
    if (← peek) = some .newline then
      skip
      newlines steps

/-- The document that was asked for first. -/
def document : Parse Document := fun r =>
  match r.documents with
  | [] => .ok (default, r)
  | d :: documents => .ok (d, { r with documents })

/-- What an arrow with its word says. -/
def redirection (channel : Option Nat) (sign : String) : Parse Redirection := do
  let w ← word
  if sign = "<<" || sign = "<<-" then
    let d ← document
    return .document (channel.getD 0) d.text d.literal
  else if sign = "<" || sign = "<>" then return .input (channel.getD 0) w
  else if sign = "<&" then return .copied (channel.getD 0) w
  else if sign = ">&" then return .copied (channel.getD 1) w
  else return .output (channel.getD 1) w (sign = ">>")

/-- The arrows that stand next. -/
def redirections : (steps : Nat) → Parse (List Redirection)
  | 0 => return []
  | steps + 1 => do
    match ← peek with
    | some (.arrow channel sign) =>
      skip
      let first ← redirection channel sign
      return first :: (← redirections steps)
    | _ => return []

/-- The words and arrows of a plain command. -/
def plainParts : (steps : Nat) → Parse (List Word × List Redirection)
  | 0 => return ([], [])
  | steps + 1 => do
    match ← peek with
    | some (.word w) =>
      skip
      let (ws, rs) ← plainParts steps
      return (w :: ws, rs)
    | some (.arrow channel sign) =>
      skip
      let r ← redirection channel sign
      let (ws, rs) ← plainParts steps
      return (ws, r :: rs)
    | _ => return ([], [])

/-- The words up to the end of the line or a semicolon. -/
def words : (steps : Nat) → Parse (List Word)
  | 0 => return []
  | steps + 1 => do
    match ← peek with
    | some (.word w) =>
      skip
      return w :: (← words steps)
    | _ => return []

/-- The patterns of a clause, with bars between them. -/
def patterns : (steps : Nat) → Parse (List Word)
  | 0 => return []
  | steps + 1 => do
    let w ← word
    if (← peek) = some (.mark "|") then
      skip
      return w :: (← patterns steps)
    else return [w]

/-- Whether a list of commands ends here. -/
def atEnd : Parse Bool := do
  match ← peek with
  | none | some (.mark ")") | some (.mark ";;") => return true
  | some (.word w) =>
    return (w.bare?.map String.ofList).any
      ["then", "elif", "else", "fi", "do", "done", "esac", "\x7d"].contains
  | _ => return false

mutual

/-- Commands up to the keyword or mark that ends them, of which `ending` is the one that is missed
if the script ends first; there is at least one command. -/
def list (steps : Nat) (ending : String) : Parse Command :=
  match steps with
  | 0 => unexpected none
  | steps + 1 => do
    newlines steps
    if ← atEnd then unexpected (if (← peek).isNone then some ending else none)
    else
      let first ← andOr steps
      let first ← match ← peek with
        | some (.mark "&") => do skip; pure (.aside first)
        | some (.mark ";") => do skip; pure first
        | some .newline => pure first
        | _ => return first
      newlines steps
      if ← atEnd then return first
      else return .sequence first (← list steps ending)

/-- Commands that depend on how the one before them went. -/
def andOr (steps : Nat) : Parse Command :=
  match steps with
  | 0 => unexpected none
  | steps + 1 => do andOrAfter steps (← pipeline steps)

/-- What follows a command and depends on how it went. -/
def andOrAfter (steps : Nat) (first : Command) : Parse Command :=
  match steps with
  | 0 => return first
  | steps + 1 => do
    match ← peek with
    | some (.mark "&&") =>
      skip
      newlines steps
      andOrAfter steps (.both first (← pipeline steps))
    | some (.mark "||") =>
      skip
      newlines steps
      andOrAfter steps (.either first (← pipeline steps))
    | _ => return first

/-- Commands that read what others write. -/
def pipeline (steps : Nat) : Parse Command :=
  match steps with
  | 0 => unexpected none
  | steps + 1 => do
    if (← peekBare) = some "!" then
      skip
      return .negated (← pipeline steps)
    else pipelineAfter steps (← command steps)

/-- What reads what a command writes. -/
def pipelineAfter (steps : Nat) (first : Command) : Parse Command :=
  match steps with
  | 0 => return first
  | steps + 1 => do
    if (← peek) = some (.mark "|") then
      skip
      newlines steps
      pipelineAfter steps (.piped first (← command steps))
    else return first

/-- One command. -/
def command (steps : Nat) : Parse Command :=
  match steps with
  | 0 => unexpected none
  | steps + 1 => do
    let c ← match ← peek with
      | some (.mark "(") => do
        skip
        let c ← list steps ")"
        mark ")"
        pure (.apart c)
      | some (.word _) | some (.arrow ..) => worded steps
      | _ => unexpected none
    match c with
    | .plain .. => return c
    | c =>
      match ← redirections steps with
      | [] => return c
      | rs => return .redirected c rs

/-- One command that starts with a word or an arrow. -/
def worded (steps : Nat) : Parse Command :=
  match steps with
  | 0 => unexpected none
  | steps + 1 => do
    let line ← lineHere
    match ← peekBare with
    | some "if" => skip; conditional steps
    | some "while" => skip; repetition steps true
    | some "until" => skip; repetition steps false
    | some "for" => do
      skip
      let w ← word
      let name := w.written
      if !(w.bare?.any Lexing.isName) then refuse "Bad for loop variable"
      newlines steps
      let ws ← if (← peekBare) = some "in" then do
          skip
          pure (some (← words steps))
        else pure none
      if (← peek) = some (.mark ";") then skip
      newlines steps
      keyword "do"
      let body ← list steps "done"
      keyword "done"
      return .forEach name ws body
    | some "case" => do
      skip
      let subject ← word
      newlines steps
      keyword "in"
      return .cases subject (← clauses steps)
    | some "\x7b" => do
      skip
      let c ← list steps "\x7d"
      keyword "\x7d"
      return c
    | first =>
      if first.any fun text => text != "!" && keywords.contains text then unexpected none
      else
        let (ws, rs) ← plainParts steps
        match ws, ← peek with
        | [w], some (.mark "(") =>
          if w.written.contains '=' then unexpected none
          skip
          mark ")"
          if !(w.bare?.any Lexing.isName) then refuse "Bad function name"
          newlines steps
          return .define w.written (← command steps)
        | ws, _ => return .plain line ws rs

/-- What follows the keyword of a condition. -/
def conditional (steps : Nat) : Parse Command :=
  match steps with
  | 0 => unexpected none
  | steps + 1 => do
    let condition ← list steps "then"
    keyword "then"
    let yes ← list steps "fi"
    match ← peekBare with
    | some "elif" =>
      skip
      return .choice condition yes (← conditional steps)
    | some "else" =>
      skip
      let no ← list steps "fi"
      keyword "fi"
      return .choice condition yes no
    | _ =>
      keyword "fi"
      return .choice condition yes .nothing

/-- What follows the keyword of a loop. -/
def repetition (steps : Nat) (whileSuccess : Bool) : Parse Command :=
  match steps with
  | 0 => unexpected none
  | steps + 1 => do
    let condition ← list steps "do"
    keyword "do"
    let body ← list steps "done"
    keyword "done"
    return .loop whileSuccess condition body

/-- The clauses up to the keyword that ends them. -/
def clauses (steps : Nat) : Parse (List (List Word × Command)) :=
  match steps with
  | 0 => unexpected none
  | steps + 1 => do
    newlines steps
    if (← peekBare) = some "esac" then
      skip
      return []
    else if (← peek).isNone then unexpected (some ")")
    else
      if (← peek) = some (.mark "(") then skip
      let ps ← patterns steps
      mark ")"
      newlines steps
      let body ← if ← atEnd then pure .nothing else list steps ";;"
      if (← peek) = some (.mark ";;") then
        skip
        return (ps, body) :: (← clauses steps)
      else if (← peek).isNone then unexpected (some ";;")
      else
        keyword "esac"
        return [(ps, body)]

end

/-- The commands up to the end of a line. -/
def line (steps : Nat) : Parse Command :=
  match steps with
  | 0 => unexpected none
  | steps + 1 => do
    let first ← andOr steps
    match ← peek with
    | none => return first
    | some .newline => skip; return first
    | some (.mark sign) =>
      if sign = ";" || sign = "&" then
        skip
        let first := if sign = "&" then .aside first else first
        match ← peek with
        | none => return first
        | some .newline => skip; return first
        | _ => return .sequence first (← line steps)
      else unexpected none
    | _ => unexpected none

end Parse

/-- A script: lines of commands, up to the end or to a token that may not stand where it does. -/
structure Program where
  lines : List Command := []
  failure : Option Unexpected := none
  deriving Repr, Inhabited

/-- Reads lines; each of them takes a token. -/
def linesFrom (steps : Nat) (r : Rest) : Program :=
  match steps with
  | 0 => {}
  | steps + 1 =>
    match r.tokens with
    | [] => {}
    | ⟨_, .newline⟩ :: tokens => linesFrom steps { r with tokens }
    | _ =>
      match Parse.line (10 * r.tokens.length + 10) r with
      | .ok (c, r) =>
        let p := linesFrom steps r
        { p with lines := c :: p.lines }
      | .error failure => { failure := some failure }

/-- Reads a script that starts in a line. -/
def readFrom (line : Nat) (script : List Char) : Program :=
  let (tokens, documents) := tokens line script
  linesFrom (tokens.length + 1) { tokens, documents, lastLine := line + script.count '\n' }

/-- Reads a script. -/
def read (script : List Char) : Program := readFrom 1 script

end DebugBridge.Script
