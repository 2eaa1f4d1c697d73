import DebugBridge.Text.Number

/-!
# Expressions of scripts

Whole numbers, variables and the usual operators, of which `levels` lists those between two
operands from the loosest to the tightest. An expression may put its value into a variable.

The readers that call each other count down `steps`; each step takes a piece or goes one level
down, so the number of pieces and two more, times one more than the number of levels and the
signs before an operand, is enough.
-/

namespace DebugBridge.Script.Arithmetic

/-- Why an expression has no value. -/
inductive Fault where
  | divisionByZero
  /-- Something else stands where an operand should. -/
  | noOperand
  /-- Something follows the whole expression. -/
  | leftover
  | openBracket
  /-- Only one operation to choose from. -/
  | noColon
  deriving DecidableEq, Repr, Inhabited

/-- The message about an expression without a value. -/
def Fault.message : Fault → String
  | .divisionByZero => "division by zero"
  | .noOperand => "expecting primary"
  | .leftover => "expecting EOF"
  | .openBracket => "expecting ')'"
  | .noColon => "expecting ':'"

/-- The pieces of an expression. -/
inductive Piece where
  | number (n : Int)
  | variable (name : List Char)
  | sign (cs : List Char)
  deriving DecidableEq, Repr, Inhabited

/-- The operators between two operands. -/
def levels : List (List String) :=
  [["||"], ["&&"], ["|"], ["^"], ["&"], ["==", "!="], ["<=", ">=", "<", ">"], ["<<", ">>"],
    ["+", "-"], ["*", "/", "%"]]

/-- Signs of two characters and more. -/
def longSigns : List String :=
  ["<<=", ">>=", "||", "&&", "==", "!=", "<=", ">=", "<<", ">>", "+=", "-=", "*=", "/=", "%="]

/-- Whether a character may stand in a name or a number. -/
def isWordChar (c : Char) : Bool := c.isAlphanum || c = '_'

/-- The number of a text, in base eight after a zero and in base sixteen after `0x`. -/
def number? (cs : List Char) : Option Nat :=
  match cs with
  | '0' :: 'x' :: digits | '0' :: 'X' :: digits => Text.digits? 16 digits
  | '0' :: d :: digits => Text.digits? 8 (d :: digits)
  | cs => Text.digits? 10 cs

/-- The pieces of an expression; `steps` is at least its length. -/
def pieces (steps : Nat) (cs : List Char) : Except Fault (List Piece) :=
  match steps, cs with
  | 0, _ => .ok []
  | _, [] => .ok []
  | steps + 1, c :: rest =>
    if c = ' ' || c = '\t' || c = '\n' then pieces steps rest
    else if isWordChar c then do
      let word := c :: rest.takeWhile isWordChar
      let more ← pieces steps (rest.dropWhile isWordChar)
      if c.isDigit then
        match number? word with
        | some n => .ok (.number n :: more)
        | none => .error .leftover
      else .ok (.variable word :: more)
    else
      let sign := (longSigns.find? fun s => s.toList.isPrefixOf (c :: rest)).map (·.toList)
      let sign := sign.getD [c]
      (pieces steps ((c :: rest).drop sign.length)).map (.sign sign :: ·)

/-- The number that stands for a truth value. -/
def ofBool (b : Bool) : Int := if b then 1 else 0

/-- The value of an operator between two operands. -/
def combine (sign : List Char) (a b : Int) : Except Fault Int :=
  match String.ofList sign with
  | "||" => .ok (ofBool (a != 0 || b != 0))
  | "&&" => .ok (ofBool (a != 0 && b != 0))
  | "|" => .ok (a.toNat ||| b.toNat : Nat)
  | "^" => .ok (a.toNat ^^^ b.toNat : Nat)
  | "&" => .ok (a.toNat &&& b.toNat : Nat)
  | "==" => .ok (ofBool (a == b))
  | "!=" => .ok (ofBool (a != b))
  | "<=" => .ok (ofBool (a ≤ b))
  | ">=" => .ok (ofBool (b ≤ a))
  | "<" => .ok (ofBool (a < b))
  | ">" => .ok (ofBool (b < a))
  | "<<" => .ok (a * Int.pow 2 b.toNat)
  | ">>" => .ok (a / Int.pow 2 b.toNat)
  | "+" => .ok (a + b)
  | "-" => .ok (a - b)
  | "*" => .ok (a * b)
  | "/" => if b = 0 then .error .divisionByZero else .ok (a.tdiv b)
  | "%" => if b = 0 then .error .divisionByZero else .ok (a.tmod b)
  | _ => .error .leftover

mutual

/-- Operands with the operators of some levels between them, the loosest first. -/
def operation (steps : Nat) (value : List Char → Int) (levels : List (List String))
    (ps : List Piece) : Except Fault (Int × List Piece) :=
  match steps with
  | 0 => .error .noOperand
  | steps + 1 =>
    match levels with
    | [] => operand steps value ps
    | signs :: tighter => do
      let (a, rest) ← operation steps value tighter ps
      operationAfter steps value signs tighter a rest

/-- What follows an operand and the operators of a level. -/
def operationAfter (steps : Nat) (value : List Char → Int) (signs : List String)
    (tighter : List (List String)) (a : Int) (ps : List Piece) : Except Fault (Int × List Piece) :=
  match steps, ps with
  | 0, _ => .error .noOperand
  | steps + 1, .sign sign :: rest =>
    if signs.contains (String.ofList sign) then do
      let (b, rest) ← operation steps value tighter rest
      operationAfter steps value signs tighter (← combine sign a b) rest
    else .ok (a, .sign sign :: rest)
  | _, ps => .ok (a, ps)

/-- An operation, and after a question mark the two that it chooses from. -/
def choice (steps : Nat) (value : List Char → Int) (ps : List Piece) :
    Except Fault (Int × List Piece) :=
  match steps with
  | 0 => .error .noOperand
  | steps + 1 => do
    match ← operation steps value levels ps with
    | (a, .sign ['?'] :: rest) =>
      match ← choice steps value rest with
      | (yes, .sign [':'] :: rest) => do
        let (no, rest) ← choice steps value rest
        return (if a = 0 then no else yes, rest)
      | _ => .error .noColon
    | (a, rest) => return (a, rest)

/-- A number, a variable, a sign before an operand or an operation in brackets. -/
def operand (steps : Nat) (value : List Char → Int) (ps : List Piece) :
    Except Fault (Int × List Piece) :=
  match steps, ps with
  | 0, _ => .error .noOperand
  | _, .number n :: rest => .ok (n, rest)
  | _, .variable name :: rest => .ok (value name, rest)
  | steps + 1, .sign ['-'] :: rest => (operand steps value rest).map fun (a, rest) => (-a, rest)
  | steps + 1, .sign ['+'] :: rest => operand steps value rest
  | steps + 1, .sign ['!'] :: rest =>
    (operand steps value rest).map fun (a, rest) => (ofBool (a == 0), rest)
  | steps + 1, .sign ['~'] :: rest =>
    (operand steps value rest).map fun (a, rest) => (-a - 1, rest)
  | steps + 1, .sign ['('] :: rest =>
    match choice steps value rest with
    | .ok (a, .sign [')'] :: rest) => .ok (a, rest)
    | .ok _ => .error .openBracket
    | .error fault => .error fault
  | _, _ => .error .noOperand

end

/-- The value of pieces that are one operation. -/
def whole (value : List Char → Int) (ps : List Piece) : Except Fault Int := do
  match ← choice (16 * ps.length + 32) value ps with
  | (a, []) => .ok a
  | _ => .error .leftover

/-- Whether a sign puts the value of an operation on the variable before it into that. -/
def changesVariable (sign : List Char) : Bool :=
  sign.getLast? = some '=' && longSigns.contains (String.ofList sign) &&
    !levels.flatten.contains (String.ofList sign)

/-- The value of an expression, and the variable that takes it if there is one. -/
def evaluate (value : List Char → Int) (cs : List Char) :
    Except Fault (Int × Option (List Char)) := do
  match ← pieces (cs.length + 1) cs with
  | [] => .ok (0, none)
  | .variable name :: .sign sign :: rest =>
    if sign = ['='] then return (← whole value rest, some name)
    else if changesVariable sign then
      return (← combine sign.dropLast (value name) (← whole value rest), some name)
    else return (← whole value (.variable name :: .sign sign :: rest), none)
  | ps => return (← whole value ps, none)

end DebugBridge.Script.Arithmetic
