import DebugBridge.Text.Blank
import DebugBridge.Text.Width

/-!
# Tables

A table has no borders. Each cell has a blank on either side and is as wide as the widest line of
its column; a cell with several lines makes its row that high.

A column has at most `widest` columns of text. A line that is wider is broken: at blanks, as long
as the words fit, and inside of words that are wider than a whole line.
-/

namespace DebugBridge.Table

/-- The columns of text that a column of a table may have. -/
def widest : Nat := 65535

/-! ## Breaking lines -/

/-- The columns that a line keeps free rather than start a word in them. -/
def leastRoom : Nat := 2

/-- Whether a character is drawn together with the one before it. -/
def isAttached (before c : Char) : Bool :=
  Text.isSkinTone c || Text.charWidth c = 0 ||
    (before = '\u200d' && (Text.inRanges Text.pictureRanges c || Text.mayBePicture c))

/-- The characters at the front of a text that are drawn together with `before`. -/
def attached (before : Char) : List Char → List Char
  | [] => []
  | c :: rest => if isAttached before c then c :: attached c rest else []

/-- The longest front of a word within a width, broken only between characters that are not drawn
together; `steps` is at least the length of the word. -/
def frontWithin (steps width : Nat) (word : List Char) : List Char :=
  match steps, word with
  | steps + 1, c :: rest =>
    let piece := c :: attached c rest
    let columns := Text.width (String.ofList piece)
    if columns ≤ width then
      piece ++ frontWithin steps (width - columns) (word.drop piece.length)
    else []
  | _, _ => []

/-- Lines that are being filled: the complete ones, last first, and the one that words are added
to, with its columns. -/
structure Breaking where
  complete : List (List Char) := []
  line : List Char := []
  columns : Nat := 0
  deriving Repr, Inhabited

namespace Breaking

/-- Starts a new line if the last one has anything on it. -/
def finish (b : Breaking) : Breaking := { complete := b.line :: b.complete }

/-- Adds a word, after a blank unless the line is empty, and starts a new line if hardly any room
is left. -/
def add (limit : Nat) (b : Breaking) (word : List Char) (columns : Nat) : Breaking :=
  let b :=
    if b.line.isEmpty then { b with line := word, columns }
    else { b with line := b.line ++ ' ' :: word, columns := b.columns + 1 + columns }
  if limit - leastRoom < b.columns then b.finish else b

/-- Adds words to the lines. A word that does not fit goes to the next line, or is broken if it is
wider than a whole line and there is room for a part of it. -/
def addWords (limit : Nat) : Nat → Breaking → List (List Char) → Breaking
  | 0, b, _ => b
  | _, b, [] => b
  | steps + 1, b, word :: rest =>
    let columns := Text.width (String.ofList word)
    let isEmpty := b.line.isEmpty
    let room := if isEmpty then limit else limit - b.columns - 1
    if columns ≤ room then addWords limit steps (b.add limit word columns) rest
    else if !isEmpty && room ≤ leastRoom then addWords limit steps b.finish (word :: rest)
    else if limit < columns then
      let front := frontWithin word.length room word
      let front := if isEmpty && front.isEmpty then word.take 1 else front
      let b := b.add limit front (Text.width (String.ofList front))
      addWords limit steps b (word.drop front.length :: rest)
    else addWords limit steps (({ complete := b.line :: b.complete } : Breaking).add limit word
      columns) rest

end Breaking

/-- A line, broken if it is wider than the limit. -/
def breakLine (limit : Nat) (line : String) : List String :=
  if Text.width line ≤ limit then [line]
  else
    let cs := line.toList
    let b := Breaking.addWords limit (4 * cs.length + 4) {} (Text.fields ' ' cs)
    let lines := if b.line.isEmpty then b.complete else b.line :: b.complete
    lines.reverse.map String.ofList

/-! ## Cells and rows -/

/-- The lines of a cell. -/
def cellLines (cell : String) : List String :=
  (Text.fields '\n' cell.toList).map String.ofList

/-- The columns on the screen that a cell takes. -/
def cellWidth (cell : String) : Nat :=
  ((cellLines cell).map fun line => min (Text.width line) widest).foldl max 0

/-- The widths of columns, none smaller than a cell of the row. -/
def widen (widths : List Nat) (row : List String) : List Nat :=
  List.zipWith (fun w cell => max w (cellWidth cell)) widths row

/-- One line of a cell, filled up to a width, with its blanks. -/
def fillLine (width : Nat) (line : String) : String :=
  " " ++ line ++ String.ofList (List.replicate (width - Text.width line) ' ') ++ " "

/-- The lines of a row. -/
def rowLines (widths : List Nat) (row : List String) : List String :=
  let linesOf := fun (width : Nat) (cell : String) => (cellLines cell).flatMap (breakLine width)
  let cells := List.zipWith linesOf widths row
  let height := (cells.map List.length).foldl max 0
  (List.range height).map fun i =>
    String.join (List.zipWith (fun w lines => fillLine w (lines.getD i "")) widths cells)

/-- The text of a table, its header first, without a line end after the last line. -/
def render (header : List String) (rows : List (List String)) : String :=
  let all := header :: rows
  let widths := all.foldl widen (header.map fun _ => 0)
  "\n".intercalate (all.flatMap (rowLines widths))

end DebugBridge.Table
