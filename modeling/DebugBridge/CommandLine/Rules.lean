/-!
# Rules of a command line

What may stand in the arguments of a command: options, which have a long name and may have a
letter, operands, which are told apart by where they stand, and the names of the commands below it.
-/

namespace DebugBridge.CommandLine

/-- Why arguments are not carried out. -/
inductive Refusal where
  /-- They ask for help. -/
  | help
  /-- They ask for the version. -/
  | version
  /-- They break the rules. -/
  | usage
  deriving DecidableEq, Repr, Inhabited

/-- What an option is. -/
inductive OptionKind where
  | help
  | version
  /-- It is there or not, at most once. -/
  | switch
  /-- It may be repeated. -/
  | counted
  /-- It has a value, which has to be fit. -/
  | valued (fits : String → Bool)

/-- An option. -/
structure OptionRule where
  name : String
  letter : Option Char := none
  kind : OptionKind

/-- An operand. -/
structure OperandRule where
  /-- Whether it may be given more than once in a row. -/
  repeats : Bool := false
  /-- Whether each has to be fit. -/
  fits : String → Bool := fun _ => true

/-- What may stand in the arguments of a command. -/
structure Rules where
  options : List OptionRule
  operands : List OperandRule := []
  /-- The names of the commands below. -/
  commands : List String := []
  /-- Whether everything from the first operand on is an operand too, and unknown options are. -/
  takesAll : Bool := false

namespace Rules

/-- The option of a name. -/
def named? (r : Rules) (name : List Char) : Option OptionRule :=
  r.options.find? (·.name.toList = name)

/-- The option of a letter. -/
def lettered? (r : Rules) (letter : Char) : Option OptionRule :=
  r.options.find? (·.letter = some letter)

/-- Whether several operands of one kind come before the last one. -/
def repeatsEarly (r : Rules) : Bool := r.operands.dropLast.any (·.repeats)

end Rules

/-! ## Shapes of arguments -/

/-- What an argument looks like. -/
inductive Shape where
  /-- Everything after it is an operand. -/
  | divider
  | long (name : List Char) (value : Option String)
  | letters (cs : List Char)
  | plain
  deriving DecidableEq, Repr

/-- What an argument looks like. -/
def shapeOf (argument : String) : Shape :=
  match argument.toList with
  | ['-', '-'] => .divider
  | '-' :: '-' :: rest =>
    .long (rest.takeWhile (· ≠ '='))
      (match rest.dropWhile (· ≠ '=') with
        | [] => none
        | _ :: value => some (String.ofList value))
  | '-' :: c :: rest => .letters (c :: rest)
  | _ => .plain

/-- Whether an argument looks like an option. -/
def looksLikeOption (argument : String) : Bool :=
  match shapeOf argument with
  | .long .. | .letters _ => true
  | .divider | .plain => false

end DebugBridge.CommandLine
