import DebugBridge.Host.Script.Arithmetic
import DebugBridge.Host.Script.Pattern
import DebugBridge.Host.Script.Session

/-!
# Filling in words

What a word of a script stands for when its command is carried out. Parameters, outputs of scripts
and expressions are filled in; what they stand for is cut into words at blanks unless it is quoted.

The script whose output is asked for is run by the caller's `run`. Words within words are one level
deeper each; `depth` bounds the levels.
-/

namespace DebugBridge.Script

/-- Words of which the last one is still under way. -/
structure Fields where
  done : List Marked := []
  current : Option Marked := none
  deriving Repr, Inhabited

/-- Whether a character is blank; several of those divide words like one. -/
def isBlank (c : Char) : Bool := c = ' ' || c = '\t' || c = '\n'

namespace Fields

/-- Adds text to the word under way. -/
def add (f : Fields) (cs : List Char) (quoted : Bool) : Fields :=
  { f with current := some (f.current.getD [] ++ marked quoted cs) }

/-- Ends the word under way. -/
def finish (f : Fields) : Fields := { done := f.done ++ f.current.toList }

/-- Adds words, the first of which goes on with the word under way. -/
def addAll (f : Fields) (quoted : Bool) : List (List Char) → Fields
  | [] => f
  | first :: rest => rest.foldl (fun f word => f.finish.add word quoted) (f.add first quoted)

/-- Adds text that is cut into words; `closed` says whether a blank has just ended one. A divider
that is not blank ends a word, an empty one if need be. -/
def addCut (dividers : List Char) (f : Fields) (closed : Bool) : List Char → Fields
  | [] => f
  | c :: rest =>
    if !dividers.contains c then addCut dividers (f.add [c] false) false rest
    else if isBlank c then addCut dividers f.finish (closed || f.current.isSome) rest
    else
      let f := if f.current.isSome || closed then f.finish else (f.add [] false).finish
      addCut dividers f false rest

/-- Adds what a part of a word stands for. -/
def addValue (dividers : List Char) (f : Fields) (cuts quoted : Bool) (cs : List Char) : Fields :=
  if cuts && !quoted then addCut dividers f false cs else f.add cs quoted

end Fields

/-! ## Parameters -/

/-- What a text between the braces of a parameter asks for. -/
structure Parameter where
  name : List Char
  /-- Whether the length is asked for. -/
  counts : Bool := false
  /-- What is done with the value, and the text of the word for that. -/
  sign : List Char := []
  word : List Char := []
  /-- Whether the text asks for nothing that there is. -/
  isBad : Bool := false
  deriving DecidableEq, Repr

/-- The signs of what may be done with a value, longer ones first. -/
def valueSigns : List String :=
  [":-", ":=", ":?", ":+", "##", "%%", "-", "=", "?", "+", "#", "%"]

/-- Reads a name at the front of a text. -/
def splitName (cs : List Char) : List Char × List Char :=
  match cs with
  | c :: rest =>
    if c.isDigit then (cs.takeWhile (·.isDigit), cs.dropWhile (·.isDigit))
    else if c.isAlpha || c = '_' then
      (cs.takeWhile Lexing.isNameChar, cs.dropWhile Lexing.isNameChar)
    else ([c], rest)
  | [] => ([], [])

/-- Reads the text between the braces of a parameter. -/
def Parameter.read (inner : List Char) : Parameter :=
  match inner with
  | '#' :: c :: rest =>
    if (valueSigns.map (·.toList)).contains (c :: rest) then { name := ['#'] }
    else
      let (name, more) := splitName (c :: rest)
      { name, counts := true, isBad := !more.isEmpty }
  | inner =>
    let (name, rest) := splitName inner
    match valueSigns.find? fun sign => sign.toList.isPrefixOf rest with
    | some sign => { name, sign := sign.toList, word := rest.drop sign.length }
    | none => { name, isBad := name.isEmpty || !rest.isEmpty }

/-- A word that is written in braces without quotes around them; blanks belong to it. -/
def bracedWord (text : List Char) : Word :=
  let take := fun (l : Lexing) (c : Char) =>
    if l.spot = .bare && (isBlank c || "&|;()<>#".toList.contains c) then l.grow c false
    else l.take c
  let l := text.foldl take { word := some [] }
  let l := match l.spot with
    | .name passed quoted => l.addPart (.parameter passed.reverse quoted)
    | .dollar quoted => l.grow '$' quoted
    | _ => l
  Word.turned (l.word.getD [])

/-- A text as a whole number; what is none counts as zero. -/
def integerOf (cs : List Char) : Int :=
  match cs with
  | '-' :: digits => -((Arithmetic.number? digits).getD 0 : Nat)
  | '+' :: digits => (Arithmetic.number? digits).getD 0
  | digits => (Arithmetic.number? digits).getD 0

/-- The text of a whole number. -/
def integerText (n : Int) : List Char := (toString n).toList

/-! ## Words -/

/-- Runs a script for its output; the number is that of its first line. -/
abbrev Runner := Session → Nat → List Char → List Char × Session

/-- The session after an expression that has no value. -/
def Session.refusesExpression (s : Session) (fault : Arithmetic.Fault) (expression : List Char) :
    Session :=
  (s.reports ("arithmetic expression: " ++ fault.message ++ ": \"" ++ String.ofList expression ++
    "\"")).exits 2

/-- Adds what the parts of a word stand for; text is cut too if `cutsText` says so. -/
def fillParts (run : Runner) (depth : Nat) (cuts cutsText : Bool) (w : Word)
    (start : Fields × Session) : Fields × Session :=
  match depth with
  | 0 => start
  | depth + 1 =>
    w.foldl (fun (f, s) part =>
      match part with
      | .text cs quoted =>
        (if cutsText then f.addValue s.dividers cuts quoted cs else f.add cs quoted, s)
      | .output script line quoted =>
        let (output, s) := run s line script
        (f.addValue s.dividers cuts quoted output, s)
      | .value expression quoted =>
        let (g, s) := fillParts run depth false false (documentWord expression) ({}, s)
        let text := (g.finish.done.map Marked.text).flatten
        match Arithmetic.evaluate (fun name => integerOf ((s.value? name).getD [])) text with
        | .ok (n, target) =>
          let s := match target with
            | some name => s.assign name (integerText n)
            | none => s
          (f.addValue s.dividers cuts quoted (integerText n), s)
        | .error fault => (f, s.refusesExpression fault text)
      | .parameter inner quoted =>
        let p := Parameter.read inner
        let value := s.value? p.name
        let inner := if quoted then documentWord p.word else bracedWord p.word
        let whole := fun (s : Session) =>
          let (g, s) := fillParts run depth false false inner ({}, s)
          ((g.finish.done).flatten, s)
        let present := if p.sign.head? = some ':' then value.filter (!·.isEmpty) else value
        let plain := fun (_ : Unit) =>
          if p.name = ['@'] && quoted then f.addAll true s.arguments
          else f.addValue s.dividers cuts quoted (value.getD [])
        let isMissing := s.isWary && value.isNone && p.name ≠ ['@'] && p.name ≠ ['*'] &&
          ["", "#", "##", "%", "%%"].contains (String.ofList p.sign)
        if p.isBad then (f, (s.reports "Bad substitution").exits 2)
        else if isMissing then
          (f, (s.reports (String.ofList p.name ++ ": parameter not set")).exits 2)
        else if p.counts then
          (f.addValue s.dividers cuts quoted (Session.digits (value.getD []).length), s)
        else
          match p.sign.getLast? with
          | some '-' =>
            if present.isSome then (plain (), s) else fillParts run depth cuts true inner (f, s)
          | some '+' =>
            if present.isSome then fillParts run depth cuts true inner (f, s) else (f, s)
          | some '=' =>
            if present.isSome then (plain (), s)
            else
              let (m, s) := whole s
              (f.addValue s.dividers cuts quoted (Marked.text m), s.assign p.name (Marked.text m))
          | some '?' =>
            if present.isSome then (plain (), s)
            else
              let (m, s) := whole s
              let text := if p.word.isEmpty then "parameter not set".toList ++
                  (if p.sign.length = 2 then " or null".toList else []) else Marked.text m
              (f, (s.reports (String.ofList (p.name ++ ": ".toList ++ text))).exits 2)
          | some '#' =>
            let (m, s) := whole s
            let left := Pattern.dropFront m (p.sign.length = 2) (value.getD [])
            (f.addValue s.dividers cuts quoted left, s)
          | some '%' =>
            let (m, s) := whole s
            let left := Pattern.dropEnd m (p.sign.length = 2) (value.getD [])
            (f.addValue s.dividers cuts quoted left, s)
          | _ => (plain (), s)) start

/-- How many levels of words within words are filled in. -/
def deepest : Nat := 20

/-- The words that words stand for. -/
def fillWords (run : Runner) (s : Session) (ws : List Word) : List (List Char) × Session :=
  let (fields, s) := ws.foldl (fun (fields, s) w =>
    let (f, s) := fillParts run deepest true false w ({}, s)
    (fields ++ f.finish.done, s)) (([] : List Marked), s)
  (fields.map Marked.text, s)

/-- What a word stands for, as one word. -/
def fillWhole (run : Runner) (s : Session) (w : Word) : Marked × Session :=
  let (f, s) := fillParts run deepest false false w ({}, s)
  (f.finish.done.flatten, s)

end DebugBridge.Script
