import DebugBridge.Host.Script.Condition
import DebugBridge.Host.Script.Redirect
import DebugBridge.Host.Script.Tool

/-!
# Commands of the shell itself

Each of them takes the session to the one after it. `builtin?` finds a command of the shell by its
name, `program` one of the host's programs for texts, and `meaning?` tells what a name stands for.
Commands that carry out others, such as `eval`, are not among them.
-/

namespace DebugBridge.Script

namespace Session

/-! ## Options and variables -/

/-- The number that an argument asks for; one if there is none. -/
def countOf (arguments : List (List Char)) : Nat := (arguments.head?.bind (Text.digits? 10)).getD 1

/-- Ends the script with a status. -/
def exit (s : Session) (arguments : List (List Char)) : Session :=
  match arguments with
  | [] => s.exits s.status
  | a :: _ =>
    match Text.digits? 10 a with
    | some n => s.exits (n % 256)
    | none => (s.reports ("exit: Illegal number: " ++ String.ofList a)).exits 2

/-- The options of the shell by their letters and names. -/
def options : List (Char × String) :=
  [('e', "errexit"), ('u', "nounset"), ('x', "xtrace"), ('f', "noglob"), ('I', "ignoreeof"),
    ('m', "monitor"), ('n', "noexec"), ('s', "stdin"), ('v', "verbose"), ('V', "vi"),
    ('E', "emacs"), ('C', "noclobber"), ('a', "allexport"), ('b', "notify")]

/-- Turns an option on or off. -/
def turn (s : Session) (turnsOn : Bool) (letter : Char) : Session :=
  match letter with
  | 'e' => { s with isStrict := turnsOn }
  | 'u' => { s with isWary := turnsOn }
  | 'x' => { s with isTraced := turnsOn }
  | letter =>
    if letter = 'o' || options.any (·.1 = letter) || s.dialect = .bash then s
    else (s.reports ("set: Illegal option -" ++ letter.toString)).exits 2

/-- Sets options and arguments. -/
def set (s : Session) (arguments : List (List Char)) : Session :=
  match arguments with
  | [] => s.ends 0
  | ['-', '-'] :: rest | ['-'] :: rest => { s with arguments := rest, status := 0 }
  | (sign :: letter :: letters) :: rest =>
    if sign = '-' || sign = '+' then
      let letters := letter :: letters
      let s := letters.foldl (fun s letter => s.turn (sign = '-') letter) s
      if s.leaving.isSome then s
      else if letters.contains 'o' then
        match rest with
        | name :: rest =>
          match (options.find? (·.2 = String.ofList name)).map (·.1) with
          | some letter => (s.turn (sign = '-') letter).set rest
          | none =>
            if s.dialect = .bash && name = "pipefail".toList then s.set rest
            else (s.reports ("set: Illegal option -o " ++ String.ofList name)).exits 2
        | [] => s.ends 0
      else s.set rest
    else { s with arguments, status := 0 }
  | arguments => { s with arguments, status := 0 }

/-- Takes away variables, or functions. -/
def unset (s : Session) (arguments : List (List Char)) : Session :=
  let names := arguments.filter (·.head? ≠ some '-')
  let s := if arguments.head? = some ['-', 'f'] then
      { s with functions := s.functions.filter (!names.contains ·.1) }
    else { s with assigned := s.assigned.filter (!names.contains ·.1) }
  s.ends 0

/-- Writes what comes of a tool. -/
def shows (s : Session) (r : Tool.Result) : Session :=
  ((s.write 2 r.failures).write 1 r.output).ends r.status

/-- Reads a line into variables, the last of which takes what is left of it. -/
def readLine (s : Session) (arguments : List (List Char)) : Session :=
  let names := arguments.filter fun a => a.head? ≠ some '-'
  let line := s.input.takeWhile (· ≠ '\n')
  let rest := s.input.dropWhile (· ≠ '\n')
  let dividers := s.dividers
  let skipsBlank := fun (c : Char) => dividers.contains c && isBlank c
  let trimmed := ((line.dropWhile skipsBlank).reverse.dropWhile skipsBlank).reverse
  let fill := fun (state : Session × List Char) (name : List Char) =>
    let (s, text) := state
    let rest := (text.dropWhile (!dividers.contains ·)).dropWhile skipsBlank
    let rest := if rest.head?.any dividers.contains then rest.drop 1 else rest
    (s.assign name (text.takeWhile (!dividers.contains ·)), rest.dropWhile skipsBlank)
  let (s, text) := names.dropLast.foldl fill (s, trimmed)
  match names.getLast? with
  | none => (s.reports "read: arg count").ends 2
  | some name =>
    let s := s.assign name text
    { s with input := rest.drop 1, status := if rest.isEmpty then 1 else 0 }

/-! ## Conditions, signals and loops -/

/-- What `test` decides; `name` is how it was called. -/
def test (s : Session) (name : String) (operands : List (List Char)) : Session :=
  match Condition.decides s (operands.length + 1) operands with
  | .ok b => s.decides b
  | .error text => (s.reports (name ++ ": " ++ text)).ends 2

/-- The names of signals with their numbers, of which zero is the end of the script. -/
def signals : List (Nat × String) :=
  [(0, "EXIT"), (1, "HUP"), (2, "INT"), (3, "QUIT"), (4, "ILL"), (5, "TRAP"), (6, "ABRT"),
    (7, "BUS"), (8, "FPE"), (9, "KILL"), (10, "USR1"), (11, "SEGV"), (12, "USR2"), (13, "PIPE"),
    (14, "ALRM"), (15, "TERM"), (17, "CHLD"), (18, "CONT"), (23, "URG"), (28, "WINCH")]

/-- The name of a signal that is given by its name or its number. -/
def signalName? (cs : List Char) : Option String :=
  match Text.digits? 10 cs with
  | some n => (signals.find? (·.1 = n)).map (·.2)
  | none =>
    let text := (String.ofList cs).toUpper
    let text := if text.startsWith "SIG" then String.ofList (text.toList.drop 3) else text
    (signals.find? (·.2 = text)).map (·.2)

/-- Sets what is carried out at the end of the script or at a signal. -/
def trap (s : Session) (arguments : List (List Char)) : Session :=
  let arguments := if arguments.head? = some ['-', '-'] then arguments.tail else arguments
  let set := fun (action : Option (List Char)) (names : List (List Char)) =>
    names.foldl (fun (s : Session) name =>
      match signalName? name with
      | some signal =>
        let others := s.traps.filter (·.1 ≠ signal)
        { s with traps := (action.map (signal, ·)).toList ++ others }
      | none =>
        (s.write 2 ("trap: " ++ String.ofList name ++ ": bad trap\n").toList).ends 1) (s.ends 0)
  match arguments with
  | [] => s.ends 0
  | [name] => set none [name]
  | action :: names => set (if action = ['-'] then none else some action) names

/-- The signal that `kill` is asked to send. -/
def signalOf? (arguments : List (List Char)) : Option String :=
  match arguments with
  | ['-', 's'] :: name :: _ => signalName? name
  | ('-' :: name) :: _ => signalName? name
  | _ => some "TERM"

/-- What a script does at a signal that is sent to it: an action of its own, which is the second
part, or it ends or goes on. -/
def kill (s : Session) (arguments : List (List Char)) : Session × Option (List Char) :=
  match signalOf? arguments with
  | none => ((s.reports ("kill: Illegal option " ++
      String.ofList ((arguments.headD []).take 2))).ends 2, none)
  | some signal =>
    match s.traps.find? (·.1 = signal) with
    | some (_, action) => if signal = "KILL" then (killed s, none) else (s.ends 0, some action)
    | none =>
      if ["EXIT", "CHLD", "CONT", "URG", "WINCH"].contains signal then (s.ends 0, none)
      else (killed s, none)
where
  /-- The session after a signal that ends the script. -/
  killed (s : Session) : Session := { s with leaving := some (.script .killed) }

/-- Leaves loops, or their bodies. -/
def leaveLoops (s : Session) (name : String) (arguments : List (List Char))
    (leaving : Nat → Leaving) : Session :=
  if arguments.head? = some ['0'] then (s.reports (name ++ ": Illegal number: 0")).exits 2
  else
    let number := min (countOf arguments) s.loops
    { s with status := 0, leaving := if number = 0 then none else some (leaving number) }

/-! ## Directories and names -/

/-- Goes to a directory; without an argument, to that of the user. -/
def goTo (s : Session) (arguments : List (List Char)) : Session :=
  match arguments.filter (·.head? ≠ some '-') with
  | [] => s.ends 0
  | path :: _ =>
    if s.isDirectory path then { s with directory := s.meant path, status := 0 }
    else (s.reports ("cd: can't cd to " ++ String.ofList path)).ends 2

/-- The commands of the shell itself; it ends when one of the first row cannot be carried out. -/
def ownCommands : List String × List String :=
  ([".", ":", "break", "continue", "eval", "exec", "exit", "export", "readonly", "return", "set",
    "shift", "times", "trap", "unset"],
   ["[", "alias", "bg", "cd", "command", "echo", "false", "fg", "getopts", "hash", "jobs", "kill",
    "local", "printf", "pwd", "read", "test", "true", "type", "ulimit", "umask", "wait"])

/-- The directories of the host's programs. -/
def programDirectories : List String := ["/usr/bin/", "/bin/"]

/-- The shells of the host by their names. -/
def shells : List String := ["sh", "bash", "dash"]

/-- What a name of a command stands for: how it can be written, and what it is. -/
def meaning? (s : Session) (name : List Char) : Option (String × String) :=
  let text := String.ofList name
  if keywords.contains text then some (text, "a shell keyword")
  else if s.functions.any (·.1 = name) then some (text, "a shell function")
  else if ownCommands.1.contains text then some (text, "a special shell builtin")
  else if ownCommands.2.contains text then some (text, "a shell builtin")
  else if (Tool.names ++ shells).contains text then some ("/usr/bin/" ++ text, "/usr/bin/" ++ text)
  else if name.contains '/' && s.tree.isFile (s.meant name) then some (text, text)
  else none

/-- Writes what names of commands stand for. -/
def describe (s : Session) (withKind : Bool) (names : List (List Char)) : Session :=
  names.foldl (fun (s : Session) name =>
    let text := String.ofList name
    match s.meaning? name with
    | some (written, kind) =>
      s.write 1 ((if withKind then text ++ " is " ++ kind else written) ++ "\n").toList
    | none =>
      (if withKind then s.write 1 (text ++ ": not found\n").toList else s).ends 127) (s.ends 0)

/-! ## Carrying out one of them -/

/-- Carries out a command of the shell itself, if there is one of the name. -/
def builtin? (s : Session) (name : String) (arguments : List (List Char)) : Option Session :=
  match name with
  | "true" | ":" | "umask" | "wait" | "ulimit" | "alias" | "hash" | "exec" | "pwd" | "times" =>
    some (s.ends 0)
  | "cd" => some (s.goTo arguments)
  | "trap" => some (s.trap arguments)
  | "type" => some (s.describe true arguments)
  | "false" => some (s.ends 1)
  | "echo" =>
    let text := match s.dialect with
      | .plain => Tool.echoed arguments
      | .bash => Tool.echoedPlainly arguments
    some ((s.write 1 text).ends 0)
  | "printf" => some (s.shows (Tool.printed (s.remark s.line) arguments))
  | "exit" => some (s.exit arguments)
  | "return" =>
    let status := (arguments.head?.bind (Text.digits? 10)).getD s.status
    some { s with status, leaving := some .function }
  | "break" => some (s.leaveLoops name arguments .loops)
  | "continue" => some (s.leaveLoops name arguments .bodies)
  | "test" => some (s.test name arguments)
  | "[" =>
    if arguments.getLast? = some [']'] then some (s.test name arguments.dropLast)
    else some ((s.reports "[: missing ]").ends 2)
  | "shift" =>
    let n := countOf arguments
    if s.arguments.length < n then some ((s.reports "shift: can't shift that many").exits 2)
    else some ({ s with arguments := s.arguments.drop n }.ends 0)
  | "set" => some (s.set arguments)
  | "export" | "readonly" => some (s.declare arguments)
  | "local" => some (s.declareLocal arguments)
  | "unset" => some (s.unset arguments)
  | "read" => some (s.readLine arguments)
  | _ => none

/-! ## Programs and other scripts -/

/-- The name of a program without the directory of the host's programs. -/
def programName (name : List Char) : String :=
  let text := String.ofList name
  programDirectories.foldl (fun text dir =>
    if dir.toList.isPrefixOf name then String.ofList (name.drop dir.length) else text) text

/-- Carries out a program of the host, or reports that there is none of the name. -/
def program (s : Session) (name : List Char) (arguments : List (List Char)) : Session :=
  let short := programName name
  match Tool.run? s short arguments with
  | some r => s.shows r
  | none =>
    let isPath := name.contains '/'
    match if isPath then s.builtin? short arguments else none with
    | some s => s
    | none =>
      let (text, status) := match s.dialect, isPath with
        | .plain, true => if s.isDirectory name then (": Permission denied", 126)
            else (": not found", 127)
        | .plain, false => (": not found", 127)
        | .bash, true => if s.isDirectory name then (": Is a directory", 126)
            else (": No such file or directory", 127)
        | .bash, false => (": command not found", 127)
      (s.reports (String.ofList name ++ text)).ends status

/-- A script among the local files that a path leads to, or none if the file may not be run. -/
def localScript? (s : Session) (path : List Char) : Option (Option (List Char)) :=
  if !path.contains '/' then none
  else
    match s.tree.find (s.meant path) with
    | .ok (.file data mode _) =>
      some (if FileTree.ownerRuns mode then some (Bytes.latin1 data) else none)
    | _ => none

/-- The name, the arguments and the text of a script that a shell is asked to run. -/
def scriptFor? (s : Session) (shell : String) (arguments : List (List Char)) :
    Option (List Char × List (List Char) × List Char) :=
  match arguments with
  | ['-', 'c'] :: script :: name :: arguments => some (name, arguments, script)
  | [['-', 'c'], script] => some (shell.toList, [], script)
  | path :: arguments => (s.file? path).toOption.map (path, arguments, ·)
  | [] => none

/-- A session for another script that is run from this one. -/
def forScript (s : Session) (path : List Char) (arguments : List (List Char)) : Session :=
  { s with
    path, arguments, functions := [], isStrict := false, isWary := false, traps := [],
    locals := none, isTraced := false, loops := 0, part := [], line := 1 }

end Session

end DebugBridge.Script
