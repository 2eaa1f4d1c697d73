import DebugBridge.Host.Script.Expansion

/-!
# What surrounds a command

Before a plain command is carried out its channels are led elsewhere and its variables are set.
A redirection that fails leaves the command undone.
-/

namespace DebugBridge.Script

namespace Session

/-! ## Redirections -/

/-- Opens what is written to at a path, which may be a channel. -/
def openPlace (s : Session) (path : List Char) (appends : Bool) :
    Except IoFailure (Place × Session) :=
  match String.ofList path with
  | "/dev/stderr" | "/dev/fd/2" => .ok ((s.place 2).getD .nowhere, s)
  | "/dev/stdout" | "/dev/fd/1" => .ok ((s.place 1).getD .nowhere, s)
  | _ => s.openFile path appends

/-- What the shell tells about a file that it cannot open; `missing` is how it puts that something
on the way there is no directory or not there at all. -/
def cannotOpen (verb missing : String) (path : List Char) (e : IoFailure) : String :=
  let isMissing := e.kind = .notFound || e.kind = .notADirectory
  "cannot " ++ verb ++ " " ++ String.ofList path ++ ": " ++
    if isMissing then missing else causeOf e

/-- Whether a redirection sets what is read. -/
def setsInput : Redirection → Bool
  | .input .. | .document .. => true
  | _ => false

/-- The session with a channel leading where a redirection says, or with what the shell says if it
cannot. -/
def redirect (run : Runner) (s : Session) (r : Redirection) : Session × Bool :=
  match r with
  | .output channel file appends =>
    let (path, s) := fillWhole run s file
    let path := Marked.text path
    match s.openPlace path appends with
    | .ok (place, s) => (s.lead channel place, true)
    | .error e => ((s.reports (cannotOpen "create" "Directory nonexistent" path e)).ends 2, false)
  | .input channel file =>
    let (path, s) := fillWhole run s file
    let path := Marked.text path
    match s.file? path with
    | .ok cs => (if channel = 0 then { s with input := cs } else s, true)
    | .error e => ((s.reports (cannotOpen "open" "No such file" path e)).ends 2, false)
  | .copied channel other =>
    let (text, s) := fillWhole run s other
    let text := Marked.text text
    if text = ['-'] then ({ s with channels := s.channels.filter (·.1 ≠ channel) }, true)
    else
      match Text.digits? 10 text >>= s.place with
      | some place => (s.lead channel place, true)
      | none =>
        if channel = 0 || text = ['0'] then (s, true)
        else ((s.reports (String.ofList text ++ ": Bad file descriptor")).ends 2, false)
  | .document _ text literal =>
    if literal then ({ s with input := text }, true)
    else
      let (text, s) := fillWhole run s (documentWord text)
      ({ s with input := Marked.text text }, true)

/-- The session with its channels leading where redirections say, up to one that cannot. -/
def redirectAll (run : Runner) (s : Session) (rs : List Redirection) : Session × Bool :=
  rs.foldl (fun (s, fine) r => if fine then s.redirect run r else (s, false)) (s, true)

/-- The session with the channels and the input of another one. -/
def withChannels (s before : Session) : Session :=
  { s with channels := before.channels, input := before.input }

/-! ## Assignments -/

/-- The name and the value of a word that assigns. -/
def assignment? (w : Word) : Option (List Char × Word) :=
  match w with
  | .text cs false :: rest =>
    match Text.splitFirst? '=' cs with
    | some (name, value) =>
      if Lexing.isName name then some (name, .text value false :: rest) else none
    | none => none
  | _ => none

/-- Whether a word asks for the output of a script. -/
def asksForOutput (w : Word) : Bool :=
  w.any fun
    | .output .. => true
    | _ => false

/-- Sets the variables of words that assign. -/
def assignAll (run : Runner) (s : Session) (assignments : List (List Char × Word)) : Session :=
  assignments.foldl (fun s (name, w) =>
    let (value, s) := fillWhole run s w
    s.assign name (Marked.text value)) s

/-- Shows the variables that a command sets and its words, if commands are shown; the channel for
that leads where it did before. -/
def traced (s : Session) (names words : List (List Char)) (before : Session) : Session :=
  if s.isTraced then
    let set := names.map fun name => name ++ ['='] ++ (s.value? name).getD []
    s.writeTo (before.place 2) ("+ ".toList ++ [' '].intercalate (set ++ words) ++ ['\n'])
  else s

/-- Sets the variables of arguments that assign. -/
def declare (s : Session) (arguments : List (List Char)) : Session :=
  (arguments.foldl (fun s a =>
    match Text.splitFirst? '=' a with
    | some (name, value) => if Lexing.isName name then s.assign name value else s
    | none => s) s).ends 0

/-- Takes variables for those of the function that is called, and sets those that are given a
value. -/
def declareLocal (s : Session) (arguments : List (List Char)) : Session :=
  match s.locals with
  | none => (s.reports "local: not in a function").exits 2
  | some names =>
    let declared := arguments.map (·.takeWhile (· ≠ '='))
    { s with locals := some (declared ++ names) }.declare arguments

/-- The session after a function, with its own variables as they were before it. -/
def afterFunction (before after : Session) : Session :=
  let s := (after.locals.getD []).foldl (fun s name => s.restore before name) after
  let leaving := if s.leaving = some .function then none else s.leaving
  { s with arguments := before.arguments, locals := before.locals, loops := before.loops, leaving }

end Session

end DebugBridge.Script
