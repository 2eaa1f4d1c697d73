import DebugBridge.Json.Printer
import DebugBridge.Output.Color
import DebugBridge.Output.Listed

/-!
# What the commands print

A formatter turns lists and messages into text for the two outputs. A quiet formatter prints
failures only. A formatter without color has other marks in front of its messages.
-/

namespace DebugBridge

/-- The forms in which lists are printed. -/
inductive OutputForm where
  | table | json | plain
  deriving DecidableEq, Repr, Inhabited

/-- The name of a form. -/
def OutputForm.name : OutputForm → String
  | .table => "table"
  | .json => "json"
  | .plain => "plain"

/-- The form of a name. -/
def OutputForm.ofName? (name : String) : Option OutputForm :=
  [OutputForm.table, .json, .plain].find? (·.name = name)

/-- Text for the two outputs. -/
structure Printed where
  out : String := ""
  err : String := ""
  deriving DecidableEq, Repr, Inhabited

/-- A formatter. -/
structure Formatter where
  palette : Palette := .plain
  /-- Whether messages are marked for readers, in color if the palette has some. -/
  marked : Bool := true
  quiet : Bool := false
  deriving DecidableEq, Repr, Inhabited

namespace Formatter

/-- A line for the first output, unless the formatter is quiet. -/
def line (f : Formatter) (text : String) : Printed :=
  if f.quiet then {} else { out := text ++ "\n" }

/-- A JSON value. -/
def document (f : Formatter) (v : Json) : Printed :=
  f.line (if f.marked then ColoredJson.render f.palette v.prettyText else v.prettyText)

/-- A list in JSON. -/
def json {α : Type} [Listed α] (f : Formatter) (items : List α) : Printed :=
  f.document (.array (items.map Listed.json))

/-- A list as a table. -/
def table {α : Type} [Listed α] (f : Formatter) (items : List α) : Printed :=
  f.line (Listed.table items)

/-- A list as plain lines. -/
def plain {α : Type} [Listed α] (f : Formatter) (items : List α) : Printed :=
  if f.quiet then {} else { out := String.join (items.map fun item => Listed.plain item ++ "\n") }

/-- A list in a form. -/
def print {α : Type} [Listed α] (f : Formatter) (form : OutputForm) (items : List α) : Printed :=
  match form with
  | .table => f.table items
  | .json => f.json items
  | .plain => f.plain items

/-- A message. -/
def message (f : Formatter) (text : String) : Printed := f.line text

/-- A message that something went well. -/
def success (f : Formatter) (text : String) : Printed :=
  f.line (if f.marked then Color.green.paint f.palette "✓" ++ " " ++ text else text)

/-- A message that something may be wrong. -/
def warning (f : Formatter) (text : String) : Printed :=
  if f.quiet then {}
  else if f.marked then { err := Color.brightYellow.paint f.palette text ++ "\n" }
  else { err := "WARNING: " ++ text ++ "\n" }

/-- A message that something went wrong, which a quiet formatter prints too. -/
def error (f : Formatter) (text : String) : Printed :=
  if f.marked then
    { err := Color.brightRed.paint f.palette "Error:" ++ " " ++ text ++ "\n" }
  else { err := "ERROR: " ++ text ++ "\n" }

end Formatter

end DebugBridge
