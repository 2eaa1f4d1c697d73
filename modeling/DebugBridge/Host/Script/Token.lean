/-!
# Tokens of scripts

A script of the host's shell is cut into words, line ends, marks between commands, and arrows that
send a channel elsewhere. It is read as one character per byte.

What is filled in when a command is carried out stays as it is written: the name of a parameter,
the script whose output stands for it, an expression. So the cutting is a machine that takes one
character at a time, whose state (`Lexing`) says what the text stands inside of.
-/

namespace DebugBridge.Script

/-! ## Words -/

/-- A part of a word. Only what is quoted is neither cut into words nor read as a pattern. -/
inductive Part where
  | text (cs : List Char) (quoted : Bool)
  /-- What a parameter's name or the text between its braces stands for. -/
  | parameter (inner : List Char) (quoted : Bool)
  /-- The output of a script that starts in a line. -/
  | output (script : List Char) (line : Nat) (quoted : Bool)
  /-- The value of an expression. -/
  | value (expression : List Char) (quoted : Bool)
  deriving DecidableEq, Repr

/-- A word before its parts are filled in. -/
abbrev Word := List Part

namespace Word

/-- One more character for a word whose parts and characters are reversed. -/
def push (w : Word) (c : Char) (quoted : Bool) : Word :=
  match w with
  | .text cs q :: rest =>
    if q = quoted then .text (c :: cs) q :: rest else .text [c] quoted :: w
  | w => .text [c] quoted :: w

/-- The word whose parts and characters are reversed in another one. -/
def turned (w : Word) : Word :=
  (w.map fun
    | .text cs q => .text cs.reverse q
    | p => p).reverse

/-- The text of a word that is written without quotes and has nothing to fill in. -/
def bare? : Word → Option (List Char)
  | [.text cs false] => some cs
  | _ => none

/-- The characters of a word as they are written. -/
def written (w : Word) : List Char :=
  w.flatMap fun
    | .text cs _ => cs
    | .parameter inner _ => '$' :: inner
    | .output script .. => script
    | .value expression _ => expression

/-- Whether a part of a word is quoted. -/
def hasQuotes (w : Word) : Bool :=
  w.any fun
    | .text _ q | .parameter _ q | .output _ _ q | .value _ q => q

end Word

/-! ## Tokens -/

/-- The smallest pieces of a script. -/
inductive Piece where
  | word (w : Word)
  | newline
  /-- A mark between commands, such as `;`, `&&` or a bracket. -/
  | mark (sign : String)
  /-- An arrow that sends a channel elsewhere. -/
  | arrow (channel : Option Nat) (sign : String)
  /-- A fault of its own, with what the shell tells about it. -/
  | faulty (message : String)
  deriving DecidableEq, Repr

/-- A piece and the line that it ends in. -/
structure Token where
  line : Nat
  piece : Piece
  deriving DecidableEq, Repr

/-- A text that is given in the script, up to a line of its own that ends it. -/
structure Document where
  /-- Tabs at the start of its lines do not count. -/
  tabless : Bool
  ending : List Char
  /-- Nothing in it is filled in. -/
  literal : Bool
  text : List Char := []
  deriving DecidableEq, Repr, Inhabited

/-- The signs between commands and of arrows. -/
def signs : List String :=
  ["&", "&&", "|", "||", ";", ";;", "(", ")", "<", "<<", "<<-", "<&", "<>", ">", ">>", ">&", ">|"]

/-! ## Cutting -/

/-- What is read up to the bracket that closes it. -/
inductive Inner where
  | braces
  | brackets
  | backquotes
  deriving DecidableEq, Repr

/-- How a text within brackets is quoted. -/
inductive Quoting where
  | plain | single | double
  deriving DecidableEq, Repr

/-- What the text stands inside of, or right behind; `bare` text stands inside of nothing. -/
inductive Spot where
  | bare | comment | single | double
  | backslash (quoted : Bool)
  | dollar (quoted : Bool)
  /-- The name of a parameter, its last character first. -/
  | name (passed : List Char) (quoted : Bool)
  /-- A text within brackets, its last character first; `depth` brackets are open in it. -/
  | inner (kind : Inner) (passed : List Char) (depth : Nat) (quoting : Quoting) (escaped : Bool)
      (quoted : Bool)
  | operator (channel : Option Nat) (sign : String)
  /-- The lines of a document, the characters of the last one reversed. -/
  | document (line : List Char)
  deriving DecidableEq, Repr

/-- How the cutting stands. -/
structure Lexing where
  spot : Spot := .bare
  /-- The word under way, its parts and characters reversed. -/
  word : Option Word := none
  line : Nat := 1
  /-- The tokens so far, the last one first. -/
  tokens : List Token := []
  /-- Whether the next word ends a document, and whether tabs count in that. -/
  awaitsEnding : Option Bool := none
  /-- The documents whose text follows the line. -/
  awaited : List Document := []
  /-- The documents that are complete, the last one first. -/
  documents : List Document := []
  deriving Repr

namespace Lexing

/-- Adds a token. -/
def emit (l : Lexing) (piece : Piece) : Lexing :=
  { l with tokens := ⟨l.line, piece⟩ :: l.tokens }

/-- Adds a character to the word under way. -/
def grow (l : Lexing) (c : Char) (quoted : Bool) : Lexing :=
  { l with word := some (Word.push (l.word.getD []) c quoted) }

/-- Adds a part to the word under way. -/
def addPart (l : Lexing) (p : Part) : Lexing := { l with word := some (p :: l.word.getD []) }

/-- Ends the word under way, if there is one. -/
def endWord (l : Lexing) : Lexing :=
  match l.word.map Word.turned with
  | none => l
  | some w =>
    let awaited := match l.awaitsEnding with
      | some tabless =>
        l.awaited ++ [{ tabless, ending := Word.written w, literal := Word.hasQuotes w }]
      | none => l.awaited
    { l with word := none, awaitsEnding := none, awaited }.emit (.word w)

/-- Goes to a spot. -/
def goTo (l : Lexing) (spot : Spot) : Lexing := { l with spot }

/-- Goes on after a part of a word. -/
def goAfter (l : Lexing) (quoted : Bool) : Lexing := l.goTo (if quoted then .double else .bare)

/-- Ends the line. -/
def endLine (l : Lexing) : Lexing :=
  let l := l.endWord.emit .newline
  l.goTo (if l.awaited.isEmpty then .bare else .document [])

/-- The word under way as the number of a channel that stands before an arrow. -/
def channel? (l : Lexing) : Option Nat :=
  match l.word >>= Word.bare? with
  | some [c] => if c.isDigit then some (c.toNat - 0x30) else none
  | _ => none

/-- Starts an operator. -/
def startOperator (l : Lexing) (c : Char) : Lexing :=
  if c = '<' || c = '>' then
    match l.channel? with
    | some n => { l with word := none, spot := .operator (some n) (String.singleton c) }
    | none => l.endWord.goTo (.operator none (String.singleton c))
  else l.endWord.goTo (.operator none (String.singleton c))

/-- Ends an operator. -/
def endOperator (l : Lexing) (channel : Option Nat) (sign : String) : Lexing :=
  let isArrow := sign.startsWith "<" || sign.startsWith ">"
  let l := l.emit (if isArrow then .arrow channel sign else .mark sign)
  let awaitsEnding :=
    if sign = "<<" then some false else if sign = "<<-" then some true else l.awaitsEnding
  { l with awaitsEnding, spot := .bare }

/-- Whether a character names a parameter all by itself. -/
def isSpecial (c : Char) : Bool := c.isDigit || "@*#?$!-".toList.contains c

/-- Whether a character may stand in a name. -/
def isNameChar (c : Char) : Bool := c.isAlphanum || c = '_'

/-- Whether a text is a name. -/
def isName (cs : List Char) : Bool :=
  match cs with
  | c :: rest => (c.isAlpha || c = '_') && rest.all isNameChar
  | [] => false

/-- Whether a backslash between double quotes makes a character plain. -/
def isEscapable (c : Char) : Bool := "\"\\$`".toList.contains c

/-- Takes a character of bare text. -/
def takeBare (l : Lexing) (c : Char) : Lexing :=
  if c = ' ' || c = '\t' then l.endWord
  else if c = '\n' then l.endLine
  else if "&|;()<>".toList.contains c then l.startOperator c
  else if c = '#' && l.word.isNone then l.goTo .comment
  else if c = '\'' then (l.addPart (.text [] true)).goTo .single
  else if c = '"' then (l.addPart (.text [] true)).goTo .double
  else if c = '\\' then l.goTo (.backslash false)
  else if c = '$' then l.goTo (.dollar false)
  else if c = '`' then l.goTo (.inner .backquotes [] 0 .plain false false)
  else l.grow c false

/-- Takes a character between double quotes. -/
def takeDouble (l : Lexing) (c : Char) : Lexing :=
  if c = '"' then l.goTo .bare
  else if c = '\\' then l.goTo (.backslash true)
  else if c = '$' then l.goTo (.dollar true)
  else if c = '`' then l.goTo (.inner .backquotes [] 0 .plain false true)
  else l.grow c true

/-- Takes a character of bare text or between double quotes. -/
def takeAfter (l : Lexing) (quoted : Bool) (c : Char) : Lexing :=
  if quoted then (l.goTo .double).takeDouble c else (l.goTo .bare).takeBare c

/-- The part that a text within brackets stands for. Two pairs of round brackets are around an
expression; a script between backquotes counts its own lines. -/
def partOf (kind : Inner) (text : List Char) (line : Nat) (quoted : Bool) : Part :=
  match kind with
  | .braces => .parameter text quoted
  | .backquotes => .output text 1 quoted
  | .brackets =>
    match text with
    | '(' :: rest => if text.getLast? = some ')' then .value rest.dropLast quoted
        else .output text line quoted
    | _ => .output text line quoted

/-- Takes a character within brackets. -/
def takeInner (l : Lexing) (kind : Inner) (passed : List Char) (depth : Nat) (quoting : Quoting)
    (escaped quoted : Bool) (c : Char) : Lexing :=
  let stay := fun (depth : Nat) (quoting : Quoting) (escaped : Bool) =>
    l.goTo (.inner kind (c :: passed) depth quoting escaped quoted)
  let close := fun (_ : Unit) =>
    let line := l.line - passed.count '\n'
    (l.addPart (partOf kind passed.reverse line quoted)).goAfter quoted
  if escaped then
    if kind = .backquotes && isEscapable c && c != '"' then
      l.goTo (.inner kind (c :: passed.drop 1) depth quoting false quoted)
    else stay depth quoting false
  else if quoting = .single then stay depth (if c = '\'' then .plain else .single) false
  else if c = '\\' then stay depth quoting true
  else
    match kind with
    | .backquotes => if c = '`' then close () else stay depth quoting false
    | .braces =>
      if c = '"' then stay depth (if quoting = .double then .plain else .double) false
      else if c = '\'' && quoting = .plain && !quoted then stay depth .single false
      else if c = '\x7b' then stay (depth + 1) quoting false
      else if c = '\x7d' && quoting = .plain then
        if depth = 0 then close () else stay (depth - 1) quoting false
      else stay depth quoting false
    | .brackets =>
      if c = '"' then stay depth (if quoting = .double then .plain else .double) false
      else if c = '\'' && quoting = .plain then stay depth .single false
      else if c = '(' && quoting = .plain then stay (depth + 1) quoting false
      else if c = ')' && quoting = .plain then
        if depth = 0 then close () else stay (depth - 1) quoting false
      else stay depth quoting false

/-- Takes a line of the first document whose text is awaited. -/
def takeDocumentLine (l : Lexing) (line : List Char) : Lexing :=
  match l.awaited with
  | [] => l.goTo .bare
  | d :: rest =>
    let line := if d.tabless then line.dropWhile (· = '\t') else line
    if line = d.ending then
      let l := { l with awaited := rest, documents := d :: l.documents }
      l.goTo (if rest.isEmpty then .bare else .document [])
    else
      let d := { d with text := d.text ++ line ++ ['\n'] }
      { l with awaited := d :: rest, spot := .document [] }

/-- Takes a character where the text stands. -/
def takeAt (l : Lexing) (c : Char) : Lexing :=
  match l.spot with
  | .bare => l.takeBare c
  | .double => l.takeDouble c
  | .comment => if c = '\n' then l.endLine else l
  | .single => if c = '\'' then l.goTo .bare else l.grow c true
  | .operator channel sign =>
    let longer := sign.push c
    if signs.contains longer then l.goTo (.operator channel longer)
    else (l.endOperator channel sign).takeBare c
  | .backslash quoted =>
    if c = '\n' then l.goAfter quoted
    else if quoted && !isEscapable c then ((l.grow '\\' true).grow c true).goTo .double
    else (l.grow c true).goAfter quoted
  | .dollar quoted =>
    if c = '\x7b' then l.goTo (.inner .braces [] 0 .plain false quoted)
    else if c = '(' then l.goTo (.inner .brackets [] 0 .plain false quoted)
    else if isSpecial c then (l.addPart (.parameter [c] quoted)).goAfter quoted
    else if c.isAlpha || c = '_' then l.goTo (.name [c] quoted)
    else (l.grow '$' quoted).takeAfter quoted c
  | .name passed quoted =>
    if isNameChar c then l.goTo (.name (c :: passed) quoted)
    else (l.addPart (.parameter passed.reverse quoted)).takeAfter quoted c
  | .inner kind passed depth quoting escaped quoted =>
    l.takeInner kind passed depth quoting escaped quoted c
  | .document line =>
    if c = '\n' then l.takeDocumentLine line.reverse else l.goTo (.document (c :: line))

/-- Takes a character. -/
def take (l : Lexing) (c : Char) : Lexing :=
  let l := l.takeAt c
  if c = '\n' then { l with line := l.line + 1 } else l

/-- A quote that is never closed. -/
def unclosedQuote : Piece := .faulty "Unterminated quoted string"

/-- What the shell tells about a text whose bracket is never closed; its last character is first. -/
def unclosedText (kind : Inner) (passed : List Char) : String :=
  match kind with
  | .braces => "Missing '\x7d'"
  | .backquotes => "EOF in backquote substitution"
  | .brackets =>
    if passed.getLast? = some '(' then "Missing '))'"
    else "end of file unexpected (expecting \")\")"

/-- Takes the end of the script. -/
def finish (l : Lexing) : Lexing :=
  match l.spot with
  | .bare | .comment => l.endWord
  | .name passed quoted =>
    let l := l.addPart (.parameter passed.reverse quoted)
    if quoted then l.emit unclosedQuote else l.endWord
  | .dollar quoted =>
    let l := l.grow '$' quoted
    if quoted then l.emit unclosedQuote else l.endWord
  | .backslash false => (l.grow '\\' true).endWord
  | .operator channel sign => l.endOperator channel sign
  | .document line =>
    let l := if line.isEmpty then l else l.takeDocumentLine line.reverse
    { l with documents := l.awaited.reverse ++ l.documents }
  | .single | .double | .backslash true => l.emit unclosedQuote
  | .inner kind passed .. => l.emit (.faulty (unclosedText kind passed))

end Lexing

/-- The tokens of a script that starts in a line, and its documents in their order. -/
def tokens (line : Nat) (script : List Char) : List Token × List Document :=
  let l := (script.foldl Lexing.take { line }).finish
  (l.tokens.reverse, l.documents.reverse)

/-- Takes a character of a text whose quotes are plain. -/
def Lexing.takeUnquoted (l : Lexing) (c : Char) : Lexing :=
  if c != '"' then l.take c
  else
    match l.spot with
    | .double => l.grow c true
    | .backslash true => ((l.grow '\\' true).grow c true).goTo .double
    | _ => l.take c

/-- A text whose parameters are filled in as between double quotes, but whose quotes are plain. -/
def documentWord (text : List Char) : Word :=
  let l := text.foldl Lexing.takeUnquoted { spot := .double, word := some [] }
  let l := match l.spot with
    | .name passed quoted => l.addPart (.parameter passed.reverse quoted)
    | .dollar _ => l.grow '$' true
    | _ => l
  Word.turned (l.word.getD [])

end DebugBridge.Script
