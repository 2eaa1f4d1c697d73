import DebugBridge.Host.Script.Session

/-!
# Conditions of scripts

What the commands `test` and `[` decide: comparisons of texts and of whole numbers, whether a text
is empty, what stands at a path, and these turned over or joined.
-/

namespace DebugBridge.Script

/-- A text as a whole number. -/
def integer? (cs : List Char) : Option Int :=
  match cs with
  | '-' :: digits => (Text.digits? 10 digits).map fun n => -(n : Int)
  | '+' :: digits => (Text.digits? 10 digits).map Int.ofNat
  | digits => (Text.digits? 10 digits).map Int.ofNat

namespace Condition

/-- A comparison of whole numbers. -/
def comparison? (sign : String) : Option (Int → Int → Bool) :=
  match sign with
  | "-eq" => some fun a b => a == b
  | "-ne" => some fun a b => a != b
  | "-lt" => some fun a b => a < b
  | "-le" => some fun a b => a ≤ b
  | "-gt" => some fun a b => b < a
  | "-ge" => some fun a b => b ≤ a
  | _ => none

/-- What a condition says of an operand that stands where none may. -/
def misplaced (a : List Char) : String :=
  if a.isEmpty then "unexpected operator" else String.ofList a ++ ": unexpected operator"

/-- Whether a sign stands between two operands. -/
def isBinary (s : Session) (sign : String) : Bool :=
  (comparison? sign).isSome || ["=", "!=", "<", ">"].contains sign ||
    (sign = "==" && s.dialect = .bash)

/-- What two operands with a sign between them decide, or why they decide nothing. -/
def binary (sign : String) (a b : List Char) : Except String Bool :=
  match comparison? sign with
  | some compares => do
    let n ← number a
    let m ← number b
    return compares n m
  | none =>
    match sign with
    | "!=" => .ok (a ≠ b)
    | "<" => .ok (String.ofList a < String.ofList b)
    | ">" => .ok (String.ofList b < String.ofList a)
    | _ => .ok (a = b)
where
  /-- An operand as a whole number. -/
  number (a : List Char) : Except String Int :=
    (integer? a).elim (.error ("Illegal number: " ++ String.ofList a)) .ok

/-- The signs before one operand. -/
def unarySigns : List String :=
  ["-n", "-z", "-b", "-c", "-d", "-e", "-f", "-g", "-G", "-h", "-k", "-L", "-O", "-p", "-r", "-s",
    "-S", "-t", "-u", "-w", "-x"]

/-- What one operand after a sign decides. -/
def unary (s : Session) (sign : String) (a : List Char) : Bool :=
  let path := s.meant a
  match sign with
  | "-n" => !a.isEmpty
  | "-z" => a.isEmpty
  | "-e" | "-r" => s.isDirectory a || (s.tree.find path).toOption.isSome
  | "-f" => s.tree.isFile path
  | "-d" => s.isDirectory a
  | "-s" => (s.file? a).toOption.any (!·.isEmpty)
  | "-x" =>
    match s.tree.find path with
    | .ok (.file _ mode _) => FileTree.ownerRuns mode
    | .ok _ => true
    | .error _ => false
  | _ => false

/-- What operands decide, or why they decide nothing; `steps` is at least their number. -/
def decides (s : Session) (steps : Nat) (operands : List (List Char)) : Except String Bool :=
  match steps, operands with
  | 0, _ => .ok false
  | _, [] => .ok false
  | _, [a] => .ok (!a.isEmpty)
  | steps + 1, operands =>
    let before := fun (sign : String) => operands.takeWhile (· ≠ sign.toList)
    let after := fun (sign : String) => (operands.dropWhile (· ≠ sign.toList)).drop 1
    let joined := fun (_ : Unit) =>
      if operands.contains "-o".toList then do
        let a ← decides s steps (before "-o")
        let b ← decides s steps (after "-o")
        return a || b
      else if operands.contains "-a".toList then do
        let a ← decides s steps (before "-a")
        let b ← decides s steps (after "-a")
        return a && b
      else
        match operands with
        | ['!'] :: rest => (decides s steps rest).map (!·)
        | sign :: a :: _ =>
          .error (misplaced (if unarySigns.contains (String.ofList sign) then a else sign))
        | _ => .ok false
    match operands with
    | [sign, a] =>
      if sign = ['!'] then .ok a.isEmpty
      else if unarySigns.contains (String.ofList sign) then .ok (unary s (String.ofList sign) a)
      else if isBinary s (String.ofList a) then .error (String.ofList a ++ ": argument expected")
      else .error (misplaced sign)
    | [a, sign, b] =>
      if isBinary s (String.ofList sign) then binary (String.ofList sign) a b else joined ()
    | [a, sign, b, _] =>
      if isBinary s (String.ofList sign) && a ≠ ['!'] then .error (misplaced b) else joined ()
    | _ => joined ()

end Condition

end DebugBridge.Script
