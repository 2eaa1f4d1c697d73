/-!
# Patterns of scripts

A pattern stands for texts: a star for any text, a question mark for any character, and square
brackets for one of the characters in them. Quoted characters stand for themselves.

`fits` stops since every step takes a character of the pattern or of the text.
-/

namespace DebugBridge.Script

/-- Characters, and whether each is quoted. -/
abbrev Marked := List (Char × Bool)

/-- Characters that are all quoted alike. -/
def marked (quoted : Bool) (cs : List Char) : Marked := cs.map (·, quoted)

/-- The characters without their marks. -/
def Marked.text (m : Marked) : List Char := m.map (·.1)

namespace Pattern

/-- Whether a character is among those within square brackets. -/
def isAmong (c : Char) : List Char → Bool
  | a :: '-' :: b :: rest => (a ≤ c && c ≤ b) || isAmong c rest
  | a :: rest => a = c || isAmong c rest
  | [] => false

/-- Whether a character is one for which the text within square brackets stands. -/
def isOneOf (c : Char) (inside : List Char) : Bool :=
  match inside with
  | '!' :: rest | '^' :: rest => !isAmong c rest
  | inside => isAmong c inside

/-- Whether a pattern's square bracket is closed after at least one character. -/
def isClosed (p : Marked) : Bool := (p.drop 1).any (· = (']', false))

/-- What stands between square brackets, and what follows them. -/
def bracketed (p : Marked) : List Char × Marked :=
  let inside := p.take 1 ++ (p.drop 1).takeWhile (· ≠ (']', false))
  (Marked.text inside, p.drop (inside.length + 1))

/-- Whether a text is one for which a pattern stands. -/
def fits : Marked → List Char → Bool
  | [], text => text.isEmpty
  | ('*', false) :: p, text =>
    fits p text ||
      match text with
      | [] => false
      | _ :: rest => fits (('*', false) :: p) rest
  | ('?', false) :: p, text =>
    match text with
    | [] => false
    | _ :: rest => fits p rest
  | ('[', false) :: p, text =>
    match text with
    | [] => false
    | c :: rest =>
      if isClosed p then isOneOf c (bracketed p).1 && fits (bracketed p).2 rest
      else c = '[' && fits p rest
  | (a, _) :: p, text =>
    match text with
    | [] => false
    | c :: rest => a = c && fits p rest
termination_by p text => p.length + text.length
decreasing_by
  all_goals simp only [List.length_cons, bracketed, List.length_drop]
  all_goals omega

/-- A text without the part at its front for which a pattern stands: the shortest one, or the
longest. -/
def dropFront (p : Marked) (longest : Bool) (text : List Char) : List Char :=
  let cuts := List.range (text.length + 1)
  let cuts := if longest then cuts.reverse else cuts
  match cuts.find? fun n => fits p (text.take n) with
  | some n => text.drop n
  | none => text

/-- A text without the part at its end for which a pattern stands: the shortest one, or the
longest. -/
def dropEnd (p : Marked) (longest : Bool) (text : List Char) : List Char :=
  let cuts := List.range (text.length + 1)
  let cuts := if longest then cuts else cuts.reverse
  match cuts.find? fun n => fits p (text.drop n) with
  | some n => text.take n
  | none => text

end Pattern

end DebugBridge.Script
