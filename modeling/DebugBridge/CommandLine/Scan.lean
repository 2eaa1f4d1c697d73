import DebugBridge.CommandLine.Rules

/-!
# Scanning arguments

Takes the arguments of a command one by one, by its `Rules`, up to the name of a command below it
or to the end. What an option or an operand is given is checked as soon as something else follows
it, so that the first fault counts, and a question for help counts if it comes before the first
fault.
-/

namespace DebugBridge.CommandLine

/-- What was taken last and is not yet checked. -/
inductive Unchecked where
  | option (rule : OptionRule) (value : Option String)
  | operands (rule : OperandRule) (index : Nat) (values : List String)

/-- How far a scan has come. -/
structure Scan where
  /-- The options, the last one first. -/
  options : List (String × Option String) := []
  /-- The operands, each with the index of its rule, the last one first. -/
  operands : List (Nat × String) := []
  unchecked : Option Unchecked := none
  /-- The option whose value comes next. -/
  awaiting : Option OptionRule := none
  /-- The index of the next operand. -/
  index : Nat := 0
  /-- Whether everything that follows is an operand. -/
  onlyOperands : Bool := false

namespace Scan

/-! ## What was given -/

/-- How often an option was given. -/
def count (s : Scan) (name : String) : Nat := s.options.countP (·.1 = name)

/-- Whether an option was given. -/
def isGiven (s : Scan) (name : String) : Bool := 0 < s.count name

/-- The value of an option. -/
def value? (s : Scan) (name : String) : Option String :=
  (s.options.find? (·.1 = name)).bind (·.2)

/-- The operands of one rule. -/
def operandsOf (s : Scan) (index : Nat) : List String :=
  (s.operands.reverse.filter (·.1 = index)).map (·.2)

/-- The operand of one rule. -/
def operand? (s : Scan) (index : Nat) : Option String := (s.operandsOf index).head?

/-! ## Checking -/

/-- Records an option that may be given once. -/
def record (s : Scan) (name : String) (value : Option String) : Except Refusal Scan :=
  if s.isGiven name then .error .usage
  else .ok { s with options := (name, value) :: s.options }

/-- Checks what was taken last. -/
def settle (s : Scan) : Except Refusal Scan :=
  if s.awaiting.isSome then .error .usage
  else
    match s.unchecked with
    | none => .ok s
    | some (.operands rule index values) =>
      if values.all rule.fits then
        .ok { s with
          unchecked := none
          operands := (values.reverse.map fun v => (index, v)) ++ s.operands }
      else .error .usage
    | some (.option rule value) =>
      let fits := match rule.kind, value with
        | .valued fits, some v => fits v
        | _, _ => true
      if fits then record { s with unchecked := none } rule.name value else .error .usage

/-! ## Taking -/

/-- Takes an option that has no value. -/
def takeSwitch (s : Scan) (rule : OptionRule) : Except Refusal Scan := do
  let s ← s.settle
  match rule.kind with
  | .help => .error .help
  | .version => .error .version
  | .counted => .ok { s with options := (rule.name, none) :: s.options }
  | _ => s.record rule.name none

/-- Takes an option and the value that is attached to it. -/
def takeAttached (s : Scan) (rule : OptionRule) (value : String) : Except Refusal Scan := do
  let s ← s.settle
  { s with unchecked := some (.option rule (some value)) }.settle

/-- Takes an option whose value comes next. -/
def takeOption (s : Scan) (rule : OptionRule) : Except Refusal Scan := do
  let s ← s.settle
  .ok { s with awaiting := some rule }

/-- Takes letters: options in a row, of which one with a value takes the rest as its value. -/
def takeLetters (r : Rules) (s : Scan) : List Char → Except Refusal Scan
  | [] => .ok s
  | c :: rest =>
    match r.lettered? c with
    | none => .error .usage
    | some rule =>
      match rule.kind, rest with
      | .valued _, [] => s.takeOption rule
      | .valued _, '=' :: value => s.takeAttached rule (String.ofList value)
      | .valued _, value => s.takeAttached rule (String.ofList value)
      | _, rest => do
        let s ← s.takeSwitch rule
        takeLetters r s rest

/-- The index of the rule that an operand falls under. When several operands come before the last
one, that one is the operand that nothing or an option follows. -/
def indexFor (r : Rules) (s : Scan) (next : Option String) : Nat :=
  if r.repeatsEarly && s.index + 2 = r.operands.length && next.all looksLikeOption then s.index + 1
  else s.index

/-- Takes an operand; `next` is the argument after it. -/
def takeOperand (r : Rules) (s : Scan) (argument : String) (next : Option String) :
    Except Refusal Scan := do
  let index := s.indexFor r next
  match r.operands[index]? with
  | none => .error .usage
  | some rule =>
    let s := { s with onlyOperands := s.onlyOperands || r.takesAll }
    let s ← match s.unchecked with
      | some (.operands _ i values) =>
        if i = index && s.awaiting.isNone then
          pure { s with unchecked := some (.operands rule index (values ++ [argument])) }
        else do
          let s ← s.settle
          pure { s with unchecked := some (.operands rule index [argument]) }
      | _ => do
        let s ← s.settle
        pure { s with unchecked := some (.operands rule index [argument]) }
    .ok { s with index := if rule.repeats then index else index + 1 }

/-- Takes an argument as the value that is awaited, or else as an operand. -/
def takePlain (r : Rules) (s : Scan) (argument : String) (next : Option String) :
    Except Refusal Scan :=
  match s.awaiting with
  | some rule => .ok { s with awaiting := none, unchecked := some (.option rule (some argument)) }
  | none => s.takeOperand r argument next

/-- Takes an argument that is not the name of a command. -/
def take (r : Rules) (s : Scan) (argument : String) (next : Option String) :
    Except Refusal Scan :=
  if s.onlyOperands then s.takeOperand r argument next
  else
    match shapeOf argument with
    | .divider => .ok { s with onlyOperands := true }
    | .plain => s.takePlain r argument next
    | .long name value =>
      match r.named? name with
      | none => if r.takesAll then s.takePlain r argument next else .error .usage
      | some rule =>
        match rule.kind, value with
        | .valued _, some value => s.takeAttached rule value
        | .valued _, none => s.takeOption rule
        | _, some _ => .error .usage
        | _, none => s.takeSwitch rule
    | .letters cs =>
      if r.takesAll && cs.any (fun c => (r.lettered? c).isNone) then s.takePlain r argument next
      else s.takeLetters r cs

/-- Takes arguments up to the name of a command below, which comes with those after it. -/
def run (r : Rules) (s : Scan) :
    List String → Except Refusal (Scan × Option (String × List String))
  | [] => .ok (s, none)
  | argument :: rest =>
    if !s.onlyOperands && s.awaiting.isNone && r.commands.contains argument then
      .ok (s, some (argument, rest))
    else do
      let s ← s.take r argument rest.head?
      run r s rest

end Scan

end DebugBridge.CommandLine
