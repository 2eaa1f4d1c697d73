/-!
# Blanks, words and lines

Text is taken apart as a list of characters. A *blank* is a character of the Unicode property
`White_Space`. The functions here trim blanks, cut a text into words and into lines, and split it
at one separator character.

Every function that builds a list goes through `List.foldr`, `List.takeWhile` or an accumulator,
so that texts of any length can be cut.
-/

namespace DebugBridge.Text

/-- Whether a character has the property `White_Space`. -/
def isBlank (c : Char) : Bool :=
  let n := c.toNat
  n == 0x20 || (0x09 ≤ n && n ≤ 0x0D) || n == 0x85 || n == 0xA0 || n == 0x1680 ||
    (0x2000 ≤ n && n ≤ 0x200A) || n == 0x2028 || n == 0x2029 || n == 0x202F || n == 0x205F ||
    n == 0x3000

/-- The text without its leading blanks. -/
def trimLeft (cs : List Char) : List Char := cs.dropWhile isBlank

/-- The text without its trailing blanks. -/
def trimRight (cs : List Char) : List Char := (cs.reverse.dropWhile isBlank).reverse

/-- The text without blanks at either end. -/
def trim (cs : List Char) : List Char := trimRight (trimLeft cs)

/-! ## Splitting at a separator -/

/-- One character in front of a text that is already cut into fields. -/
def consField (sep c : Char) : List (List Char) → List (List Char)
  | [] => if c = sep then [[], []] else [[c]]
  | field :: fields => if c = sep then [] :: field :: fields else (c :: field) :: fields

/-- The fields between the occurrences of a separator; a text without one is a single field. -/
def fields (sep : Char) (cs : List Char) : List (List Char) :=
  cs.foldr (consField sep) [[]]

/-- The parts before and after the first occurrence of a separator. -/
def splitFirst? (sep : Char) (cs : List Char) : Option (List Char × List Char) :=
  match cs.dropWhile (· != sep) with
  | [] => none
  | _ :: after => some (cs.takeWhile (· != sep), after)

/-- The parts before and after the last occurrence of a separator. -/
def splitLast? (sep : Char) (cs : List Char) : Option (List Char × List Char) :=
  (splitFirst? sep cs.reverse).map fun (after, before) => (before.reverse, after.reverse)

/-! ## Words -/

/-- One character in front of a text that is cut into words; the flag says whether the text
starts inside a word. -/
def consWord (c : Char) : Bool × List (List Char) → Bool × List (List Char)
  | (inside, words) =>
    if isBlank c then (false, words)
    else match inside, words with
      | true, word :: rest => (true, (c :: word) :: rest)
      | _, words => (true, [c] :: words)

/-- The maximal runs of characters that are no blanks. -/
def words (cs : List Char) : List (List Char) :=
  (cs.foldr consWord (false, [])).2

/-- The text up to the first blank and the text after it. -/
def splitBlank? (cs : List Char) : Option (List Char × List Char) :=
  match cs.dropWhile (!isBlank ·) with
  | [] => none
  | _ :: after => some (cs.takeWhile (!isBlank ·), after)

/-! ## Lines -/

/-- A line without one carriage return at its end. -/
def dropReturn (line : List Char) : List Char :=
  if line.getLast? = some '\r' then line.dropLast else line

/-- The lines of a text. A line ends at a line feed, which may follow a carriage return that
belongs to it; what stands after the last line feed is a line of its own unless it is empty, and
keeps its carriage return. -/
def lines (cs : List Char) : List (List Char) :=
  let parts := fields '\n' cs
  let ended := parts.dropLast.map dropReturn
  match parts.getLast? with
  | some (c :: rest) => ended ++ [c :: rest]
  | _ => ended

/-! ## Searching -/

/-- Whether one text occurs inside another. -/
def occursIn (needle : List Char) : List Char → Bool
  | [] => needle.isEmpty
  | c :: cs => needle.isPrefixOf (c :: cs) || occursIn needle cs

/-- The rest of a text that starts with a given one. -/
def stripStart? : List Char → List Char → Option (List Char)
  | [], cs => some cs
  | a :: as, c :: cs => if a = c then stripStart? as cs else none
  | _ :: _, [] => none

/-- Whether a text ends with a given one. -/
def endsWith (tail cs : List Char) : Bool := tail.reverse.isPrefixOf cs.reverse

/-- The parts before and after the first occurrence of a separating text. -/
def splitAround? (sep : List Char) (cs : List Char) : Option (List Char × List Char) :=
  go [] cs
where
  /-- Walks on with the passed characters in reverse. -/
  go (passed : List Char) : List Char → Option (List Char × List Char)
    | [] => if sep.isEmpty then some (passed.reverse, []) else none
    | c :: cs =>
      match stripStart? sep (c :: cs) with
      | some after => some (passed.reverse, after)
      | none => go (c :: passed) cs

/-! ## Letters of ASCII -/

/-- A text with the letters A to Z made small and everything else kept. -/
def asciiLower (cs : List Char) : List Char := cs.map Char.toLower

end DebugBridge.Text
