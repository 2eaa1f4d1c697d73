import DebugBridge.Host.Script.Builtin

/-!
# Running scripts

Carries out the commands of a script: how it ends, and what it writes about failures.

A script may go on forever, so `steps` bounds how deep its commands and repetitions follow each
other; a script that is cut off there leaves things as they are.
-/

namespace DebugBridge.Script

namespace Session

/-! ## Leaving -/

/-- The status that a command of its own ended with, and what it wrote, for the session that it
was started from. -/
def adopt (s after : Session) : Session :=
  let s := { s with
    failures := after.failures, captured := after.captured, tree := after.tree,
    status := after.status }
  match after.leaving with
  | some (.script .killed) => { s with leaving := after.leaving }
  | some (.script (.exited status)) => { s with status }
  | _ => s

/-- What is left of leaving loops after one of them, and whether that one goes on. -/
def afterBody (s : Session) : Session × Bool :=
  match s.leaving with
  | none => (s, true)
  | some (.loops n) =>
    ({ s with leaving := if n ≤ 1 then none else some (.loops (n - 1)) }, false)
  | some (.bodies n) =>
    if n ≤ 1 then ({ s with leaving := none }, true)
    else ({ s with leaving := some (.bodies (n - 1)) }, false)
  | some _ => (s, false)

/-- Ends a strict script after a command that failed, unless its status was asked for. -/
def whenFailed (s : Session) (asked : Bool) : Session :=
  if s.isStrict && !asked && s.status != 0 && s.leaving.isNone then s.exits s.status else s

/-! ## Carrying out -/

mutual

/-- Carries out a command; `asked` says whether its status decides about something. -/
def perform (steps : Nat) (asked : Bool) (s : Session) (c : Command) : Session :=
  match steps with
  | 0 => s
  | steps + 1 =>
    if s.leaving.isSome then s
    else
      match c with
      | .nothing => s.ends 0
      | .plain line words rs => (performPlain steps asked { s with line } words rs).whenFailed asked
      | .redirected c rs =>
        let (inside, fine) := s.redirectAll (capture steps) rs
        if fine then (perform steps asked inside c).withChannels s
        else inside.withChannels s
      | .sequence first second =>
        perform steps asked (perform steps asked s first) second
      | .both first second =>
        let s := perform steps true s first
        if s.leaving.isNone && s.status = 0 then perform steps asked s second else s
      | .either first second =>
        let s := perform steps true s first
        if s.leaving.isNone && s.status != 0 then perform steps asked s second else s
      | .negated c =>
        let s := perform steps true s c
        if s.leaving.isSome then s else s.decides (s.status != 0)
      | .piped first second =>
        let writing := perform steps asked ({ s with captured := [] }.lead 1 .captured) first
        let s := s.adopt { writing with captured := s.captured }
        let reading := { s with input := writing.captured.reverse }
        (s.adopt (perform steps asked reading second)).whenFailed asked
      | .apart c =>
        let after := performEnd steps (perform steps asked { s with traps := [] } c)
        (s.adopt after).whenFailed asked
      | .aside c => (s.adopt (perform steps true { s with input := [] } c)).ends 0
      | .choice condition yes no =>
        let s := perform steps true s condition
        if s.leaving.isSome then s
        else if s.status = 0 then perform steps asked s yes
        else perform steps asked s no
      | .loop whileSuccess condition body =>
        let after := performLoop steps asked 0 { s with loops := s.loops + 1 } whileSuccess
          condition body
        { after with loops := s.loops }
      | .forEach name words body =>
        let (values, s) := match words with
          | some words => fillWords (capture steps) s words
          | none => (s.arguments, s)
        let after := performEach steps asked { s with loops := s.loops + 1, status := 0 } name body
          values
        { after with loops := s.loops }
      | .cases subject clauses =>
        let (text, s) := fillWhole (capture steps) s subject
        performClauses steps asked s (Marked.text text) clauses
      | .define name body => { s with functions := (name, body) :: s.functions, status := 0 }

/-- Carries out a plain command. Variables that are set in front of it last as long as it does. -/
def performPlain (steps : Nat) (asked : Bool) (s : Session) (words : List Word)
    (rs : List Redirection) : Session :=
  match steps with
  | 0 => s
  | steps + 1 =>
    let assignments := (words.map assignment?).takeWhile (·.isSome)
    let rest := words.drop assignments.length
    let assignments := assignments.filterMap id
    let (arguments, filled) := fillWords (capture steps) s rest
    if filled.leaving.isSome then filled
    else
      let (inside, fine) := filled.redirectAll (capture steps) rs
      if !fine then
        let inside := inside.withChannels filled
        let first := String.ofList (arguments.headD [])
        if ownCommands.1.contains first then inside.exits inside.status else inside
      else
        match arguments with
        | [] =>
          let after := (inside.assignAll (capture steps) assignments).traced
            (assignments.map (·.1)) [] filled
          let status := if words.any asksForOutput then after.outputStatus else 0
          (after.withChannels filled).ends status
        | name :: arguments =>
          let inside := (inside.assignAll (capture steps) assignments).traced
            (assignments.map (·.1)) (name :: arguments) filled
          let after := performNamed steps asked inside name arguments
          let after := assignments.foldl (fun after (name, _) => after.restore s name) after
          if name = "exec".toList && arguments.isEmpty then after
          else if rs.any setsInput then after.withChannels filled
          else { after with channels := filled.channels }

/-- Carries out the command of a name. -/
def performNamed (steps : Nat) (asked : Bool) (s : Session) (name : List Char)
    (arguments : List (List Char)) : Session :=
  match steps with
  | 0 => s
  | steps + 1 =>
    match s.functions.find? (·.1 = name) with
    | some (_, body) =>
      s.afterFunction (perform steps asked { s with arguments, locals := some [], loops := 0 } body)
    | none =>
      match String.ofList name, arguments with
      | "eval", arguments =>
        let script := read ([' '].intercalate arguments)
        { performLines steps asked { s with part := "eval".toList } script with part := s.part }
      | ".", path :: _ =>
        match s.file? path with
        | .ok script =>
          let after := performLines steps asked { s with part := path } (read script)
          let leaving := if after.leaving = some .function then none else after.leaving
          { after with part := s.part, leaving }
        | .error _ =>
          let text := if path.contains '/' then "cannot open " ++ String.ofList path ++
              ": No such file" else String.ofList path ++ ": not found"
          (s.reports (".: " ++ text)).exits 2
      | "command", ['-', 'v'] :: names => s.describe false (names.take 1)
      | "command", ['-', 'V'] :: names => s.describe true (names.take 1)
      | "command", name :: arguments => performNamed steps asked s name arguments
      | "exec", name :: arguments =>
        if (s.meaning? name).isSome || name.contains '/' then
          let s := performNamed steps asked s name arguments
          if s.leaving.isSome then s else { s with traps := [] }.exits s.status
        else (s.reports ("exec: " ++ String.ofList name ++ ": not found")).exits 127
      | "kill", arguments =>
        match s.kill arguments with
        | (s, some action) => (performLines steps asked s (read action)).ends 0
        | (s, none) => s
      | text, arguments =>
        match s.localScript? name with
        | some (some script) => performScript steps s name arguments script
        | some none => (s.reports (text ++ ": Permission denied")).ends 126
        | none =>
          match s.builtin? text arguments with
          | some s => s
          | none =>
            let shell := programName name
            match if shells.contains shell then s.scriptFor? shell arguments else none with
            | some (path, arguments, script) =>
              let dialect := if shell = "bash" then .bash else .plain
              let after := performScript steps { s with dialect } path arguments script
              { after with dialect := s.dialect }
            | none => s.program name arguments

/-- Carries out another script. -/
def performScript (steps : Nat) (s : Session) (path : List Char) (arguments : List (List Char))
    (script : List Char) : Session :=
  match steps with
  | 0 => s
  | steps + 1 =>
    let inside := s.forScript path arguments
    let after := s.adopt (performEnd steps (performLines steps false inside (read script)))
    if after.leaving = some (.script .killed) then { after with leaving := none, status := 137 }
    else after

/-- Carries out what the script is to do at its end. -/
def performEnd (steps : Nat) (s : Session) : Session :=
  match steps, s.traps.find? (·.1 = "EXIT") with
  | 0, _ => s
  | _, none => s
  | steps + 1, some (_, action) =>
    if s.leaving = some (.script .killed) then s
    else
      let s := { s with traps := [], leaving := none }
      let after := performLines steps false s (read action)
      if after.leaving.isSome then after else after.ends s.status

/-- Repeats a body; `status` is that of its last command. -/
def performLoop (steps : Nat) (asked : Bool) (status : Nat) (s : Session) (whileSuccess : Bool)
    (condition body : Command) : Session :=
  match steps with
  | 0 => s
  | steps + 1 =>
    let s := perform steps true s condition
    let (s, goesOn) := s.afterBody
    if !goesOn then s
    else if (s.status == 0) != whileSuccess then s.ends status
    else
      let (s, goesOn) := (perform steps asked s body).afterBody
      if goesOn then performLoop steps asked s.status s whileSuccess condition body else s

/-- Carries out a body for each of some values of a variable. -/
def performEach (steps : Nat) (asked : Bool) (s : Session) (name : List Char) (body : Command)
    (values : List (List Char)) : Session :=
  match steps, values with
  | 0, _ => s
  | _, [] => s
  | steps + 1, value :: values =>
    let (s, goesOn) := (perform steps asked (s.assign name value) body).afterBody
    if goesOn then performEach steps asked s name body values else s

/-- Carries out the first clause with a pattern that a text fits. -/
def performClauses (steps : Nat) (asked : Bool) (s : Session) (text : List Char)
    (clauses : List (List Word × Command)) : Session :=
  match steps, clauses with
  | 0, _ => s
  | _, [] => s.ends 0
  | steps + 1, (patterns, body) :: clauses =>
    let (found, s) := patterns.foldl (fun (found, s) w =>
      if found then (true, s)
      else
        let (p, s) := fillWhole (capture steps) s w
        (Pattern.fits p text, s)) (false, s)
    if found then perform steps asked s body else performClauses steps asked s text clauses

/-- Carries out lines, up to one that cannot be read. -/
def performLines (steps : Nat) (asked : Bool) (s : Session) (p : Program) : Session :=
  match steps with
  | 0 => s
  | steps + 1 =>
    let s := p.lines.foldl (perform steps asked) s
    match p.failure with
    | some u =>
      if s.leaving.isSome then s
      else (s.write 2 (s.remark u.line u.message)).exits 2
    | none => s

/-- Carries out a script of its own for its output, without the line ends at its end. -/
def capture (steps : Nat) (s : Session) (line : Nat) (script : List Char) : List Char × Session :=
  match steps with
  | 0 => ([], s)
  | steps + 1 =>
    let inside := { s with captured := [], traps := [] }.lead 1 .captured
    let after := performEnd steps (performLines steps false inside (readFrom line script))
    let output := (after.captured.dropWhile (· = '\n')).reverse
    let after := s.adopt { after with captured := s.captured }
    (output, { after with status := s.status, outputStatus := after.status })

end

end Session

/-- How many commands and repetitions may follow each other. -/
def patience : Nat := 1000000

/-- Carries out a script: how it ended, and what it wrote about failures. -/
def run (s : Session) (script : List Char) : Ending × List Char :=
  let s := (s.performLines patience false (read script)).performEnd patience
  let ending := match s.leaving with
    | some (.script ending) => ending
    | _ => .exited s.status
  (ending, s.failures.reverse)

end DebugBridge.Script
