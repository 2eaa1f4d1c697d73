import DebugBridge.Text.Blank

/-!
# Colors

Colored text starts with the sequence of its color and ends with the one that resets it. Whether
any color is shown at all is a `Palette`. A text that resets the color in its middle goes on in
its own color afterwards.
-/

namespace DebugBridge

/-- Whether colors are shown. -/
inductive Palette where
  | plain | ansi
  deriving DecidableEq, Repr, Inhabited

/-- The colors in use. -/
inductive Color where
  | red | green | yellow | cyan | brightRed | brightYellow
  deriving DecidableEq, Repr

namespace Color

/-- The sequence that resets the color. -/
def reset : List Char := "\x1b[0m".toList

/-- The sequence that starts a color. -/
def start : Color → List Char
  | .red => "\x1b[31m".toList
  | .green => "\x1b[32m".toList
  | .yellow => "\x1b[33m".toList
  | .cyan => "\x1b[36m".toList
  | .brightRed => "\x1b[91m".toList
  | .brightYellow => "\x1b[93m".toList

/-- A text with the color started again after each reset in it. -/
def restart (c : Color) : List Char → List Char
  | [] => []
  | '\x1b' :: '[' :: '0' :: 'm' :: rest => reset ++ c.start ++ restart c rest
  | x :: rest => x :: restart c rest

/-- A text in a color. -/
def paint (palette : Palette) (c : Color) (text : String) : String :=
  match palette with
  | .plain => text
  | .ansi => String.ofList (c.start ++ c.restart text.toList ++ reset)

end Color

/-! ## JSON in color -/

namespace ColoredJson

/-- A line of pretty JSON with its name, if it has one, in color: a quoted text up to the first
quote that a colon and a blank follow. -/
def line (palette : Palette) (line : List Char) : List Char :=
  let trimmed := Text.trimLeft line
  let indent := String.utf8ByteSize (String.ofList line) -
    String.utf8ByteSize (String.ofList trimmed)
  let parts := (Text.stripStart? ['"'] trimmed).bind (Text.splitAround? "\": ".toList)
  match parts with
  | some (name, value) =>
    List.replicate indent ' ' ++
      (Color.cyan.paint palette (String.ofList ('"' :: (name ++ ['"'])))).toList ++
      [':', ' '] ++ value
  | none => line

/-- A pretty JSON text with its names in color. -/
def render (palette : Palette) (json : String) : String :=
  String.ofList (['\n'].intercalate ((Text.lines json.toList).map (line palette)))

end ColoredJson

end DebugBridge
