import DebugBridge.CommandLine.Command
import DebugBridge.CommandLine.Scan

/-!
# Reading the command line

The rules of each command, and what its arguments mean. Options that go with every command may
stand before and after its name. Faults in the arguments of an inner command count before those
that show only at the end of the outer one.
-/

namespace DebugBridge.CommandLine

/-! ## Values -/

/-- A port; a minus sign before a zero is let through. -/
def port? (text : String) : Option UInt16 :=
  match text.toList with
  | '-' :: digits => if Text.digits? 10 digits = some 0 then some 0 else none
  | cs => Text.word16? cs

/-- A number of seconds. -/
def seconds? (text : String) : Option Nat := Text.unsigned? 10 (Nat.pow 2 64) text.toList

/-- A local path is not empty. -/
def isPath (text : String) : Bool := !text.isEmpty

/-! ## Options of every command -/

/-- The options that go with every command. -/
def commonOptions : List OptionRule :=
  [⟨"verbose", some 'v', .counted⟩, ⟨"quiet", some 'q', .counted⟩,
    ⟨"host", none, .valued fun _ => true⟩,
    ⟨"port", some 'P', .valued fun text => (port? text).isSome⟩,
    ⟨"serial", some 's', .valued fun _ => true⟩,
    ⟨"output", some 'o', .valued fun text => (OutputForm.ofName? text).isSome⟩,
    ⟨"help", some 'h', .help⟩, ⟨"version", some 'V', .version⟩]

/-- How often an option was given, if at all. -/
def counted? (s : Scan) (name : String) : Option Nat :=
  if s.isGiven name then some (s.count name) else none

/-- What the options that go with every command say; more and fewer notes cannot both be asked
for in one place. -/
def commonOf (s : Scan) : Except Refusal GlobalOptions :=
  if s.isGiven "verbose" && s.isGiven "quiet" then .error .usage
  else .ok
    { host := s.value? "host"
      port := s.value? "port" >>= port?
      serial := s.value? "serial"
      form := s.value? "output" >>= OutputForm.ofName?
      verbose := counted? s "verbose"
      quiet := counted? s "quiet" }

/-! ## Commands without commands below -/

/-- A command without commands below: its rules, and the command that a scan stands for, if
nothing is missing. -/
structure Leaf where
  options : List OptionRule := []
  operands : List OperandRule := []
  takesAll : Bool := false
  command? : Scan → Option Command

/-- The rules of a leaf. -/
def Leaf.rules (l : Leaf) : Rules where
  options := l.options ++ commonOptions
  operands := l.operands
  takesAll := l.takesAll

/-- The option that asks for more about each device. -/
def longOption : OptionRule := ⟨"long", some 'l', .switch⟩

/-- The leaves. -/
def leaves : List (String × Leaf) :=
  [("devices",
      { options := [longOption]
        command? := fun s => some (.devices (s.isGiven "long")) }),
    ("track",
      { options := [longOption]
        command? := fun s => some (.track (s.isGiven "long")) }),
    ("version", { command? := fun _ => some .version }),
    ("shell",
      { options := [⟨"idle-timeout", none, .valued fun text => (seconds? text).isSome⟩]
        operands := [{ repeats := true }]
        takesAll := true
        command? := fun s =>
          match s.operandsOf 0 with
          | [] => none
          | words => some (.shell words (s.value? "idle-timeout" >>= seconds?)) }),
    ("push",
      { operands := [{ repeats := true, fits := isPath }, {}]
        command? := fun s =>
          match s.operandsOf 0, s.operand? 1 with
          | [], _ => none
          | sources, target => target.map (.push sources) }),
    ("pull",
      { operands := [{}, { fits := isPath }]
        command? := fun s =>
          (s.operand? 0).map fun source => .pull source ((s.operand? 1).getD ".") }),
    ("ls",
      { options := [⟨"all", some 'a', .switch⟩]
        operands := [{}]
        command? := fun s =>
          some (.list ((s.operand? 0).getD "/sdcard") (s.isGiven "all")) }),
    ("stat",
      { operands := [{ repeats := true }]
        command? := fun s =>
          match s.operandsOf 0 with
          | [] => none
          | paths => some (.stat paths) }),
    ("connect",
      { operands := [{}]
        command? := fun s => (s.operand? 0).map .connect }),
    ("disconnect",
      { operands := [{}]
        command? := fun s => (s.operand? 0).map .disconnect }),
    ("reboot",
      { operands := [{ fits := fun text => (RebootTarget.ofName? text).isSome }]
        command? := fun s => some (.reboot (s.operand? 0 >>= RebootTarget.ofName?)) }),
    ("server",
      { operands := [{ fits := fun text => (ServerOperation.ofName? text).isSome }]
        command? := fun s => (s.operand? 0 >>= ServerOperation.ofName?).map .server })]

/-- The leaves below `forward`. -/
def forwardLeaves : List (String × Leaf) :=
  [("list", { command? := fun _ => some .listForwards }),
    ("add",
      { options := [⟨"no-rebind", none, .switch⟩]
        operands := [{}, {}]
        command? := fun s =>
          match s.operand? 0, s.operand? 1 with
          | some here, some there => some (.addForward here there (s.isGiven "no-rebind"))
          | _, _ => none }),
    ("remove",
      { options := [⟨"all", none, .switch⟩]
        operands := [{}]
        command? := fun s =>
          match s.operand? 0, s.isGiven "all" with
          | none, false | some _, true => none
          | here, all => some (.removeForward here all) })]

/-- Reads the arguments of a leaf. -/
def Leaf.parse (l : Leaf) (arguments : List String) : Except Refusal Invocation := do
  let (s, _) ← Scan.run l.rules {} arguments
  let s ← s.settle
  let options ← commonOf s
  match l.command? s with
  | some command => .ok { command, options }
  | none => .error .usage

/-! ## Commands with commands below -/

/-- The names of leaves. -/
def names (leaves : List (String × Leaf)) : List String := leaves.map (·.1)

/-- The rules of a command with commands below, of which one gives help. -/
def rulesAbove (below : List String) : Rules where
  options := commonOptions
  commands := below ++ ["help"]

/-- What a question for help about a command comes to: names may go on only as far as there are
commands of these names. -/
def helpBelow (below : List String) : List String → Refusal
  | [] => .help
  | [name] => if (below ++ ["help"]).contains name then .help else .usage
  | _ => .usage

/-- What a question for help comes to. -/
def help : List String → Refusal
  | "forward" :: rest => helpBelow (names forwardLeaves) rest
  | rest => helpBelow (names leaves ++ ["forward"]) rest

/-- Reads what stands before and in an inner command. -/
def within (s : Scan) (inner : Except Refusal Invocation) : Except Refusal Invocation := do
  let i ← inner
  let s ← s.settle
  let options ← commonOf s
  .ok { i with options := i.options.inside options }

/-- Reads the arguments of the leaf of a name. -/
def parseLeaf (leaves : List (String × Leaf)) (name : String) (arguments : List String) :
    Except Refusal Invocation :=
  match leaves.find? (·.1 = name) with
  | some (_, leaf) => leaf.parse arguments
  | none => .error .usage

/-- Reads the arguments of `forward`, which asks for one of the commands below it. -/
def parseForward (arguments : List String) : Except Refusal Invocation := do
  match ← Scan.run (rulesAbove (names forwardLeaves)) {} arguments with
  | (s, none) =>
    let s ← s.settle
    .error (if s.options.isEmpty then .help else .usage)
  | (_, some ("help", rest)) => .error (helpBelow (names forwardLeaves) rest)
  | (s, some (name, rest)) => within s (parseLeaf forwardLeaves name rest)

/-- Reads the arguments of the program; without a command it lists the devices. -/
def parse (arguments : List String) : Except Refusal Invocation := do
  match ← Scan.run (rulesAbove (names leaves ++ ["forward"])) {} arguments with
  | (s, none) => within s (.ok { command := .devices false })
  | (_, some ("help", rest)) => .error (help rest)
  | (s, some ("forward", rest)) => within s (parseForward rest)
  | (s, some (name, rest)) => within s (parseLeaf leaves name rest)

end DebugBridge.CommandLine
