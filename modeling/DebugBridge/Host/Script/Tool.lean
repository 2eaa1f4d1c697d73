import DebugBridge.Host.Script.Session

/-!
# Tools of scripts

What the commands write that print texts, and the host's small programs for texts: what they take
from their input and arguments, what they write, and the status they end with.
-/

namespace DebugBridge.Script.Tool

/-! ## Escapes -/

/-- The digits of an octal escape, at most three, and what follows them. -/
def octalDigits (cs : List Char) : List Char × List Char :=
  let front := (cs.take 3).takeWhile fun c => (Text.digitOf? 8 c).isSome
  (front, cs.drop front.length)

/-- The character of a letter after a backslash. -/
def escapeOf? (c : Char) : Option Char :=
  match c with
  | 'n' => some '\n'
  | 't' => some '\t'
  | 'r' => some '\r'
  | 'a' => some '\x07'
  | 'b' => some '\x08'
  | 'f' => some '\x0c'
  | 'v' => some '\x0b'
  | '\\' => some '\\'
  | _ => none

/-- The text with its escapes carried out, and whether one of them ends all output. Octal escapes
have a zero in front if `zeroFirst` says so, and up to three digits. -/
def unescape (zeroFirst : Bool) (cs : List Char) : List Char × Bool :=
  match cs with
  | [] => ([], false)
  | '\\' :: 'c' :: rest =>
    if zeroFirst then ([], true)
    else
      let (more, ends) := unescape zeroFirst rest
      ('\\' :: 'c' :: more, ends)
  | '\\' :: c :: rest =>
    let digits := octalDigits (if zeroFirst then rest else c :: rest)
    if (if zeroFirst then c = '0' else !digits.1.isEmpty) then
      let value := ((Text.digits? 8 digits.1).getD 0) % 256
      let (more, ends) := unescape zeroFirst digits.2
      (Char.ofNat value :: more, ends)
    else
      let (more, ends) := unescape zeroFirst rest
      match escapeOf? c with
      | some e => (e :: more, ends)
      | none => ('\\' :: c :: more, ends)
  | c :: rest =>
    let (more, ends) := unescape zeroFirst rest
    (c :: more, ends)
termination_by cs.length
decreasing_by
  all_goals simp only [octalDigits, List.length_cons, List.length_drop]
  all_goals grind

/-! ## Printing -/

/-- What `echo` writes. -/
def echoed (words : List (List Char)) : List Char :=
  let (withEnd, words) := match words with
    | ['-', 'n'] :: words => (false, words)
    | words => (true, words)
  let (text, ends) := unescape true ([' '].intercalate words)
  if withEnd && !ends then text ++ ['\n'] else text

/-- What `echo` writes where escapes have to be asked for. -/
def echoedPlainly (words : List (List Char)) : List Char :=
  let isOption := fun (w : List Char) =>
    w.head? = some '-' && 1 < w.length && (w.drop 1).all "neE".toList.contains
  let options := (words.takeWhile isOption).flatten
  let text := [' '].intercalate (words.dropWhile isOption)
  let (text, ends) := if options.contains 'e' then unescape true text else (text, false)
  if options.contains 'n' || ends then text else text ++ ['\n']

/-- A text filled up to a width with blanks, or with zeros after its sign. -/
def padTo (width : Nat) (left zeros : Bool) (cs : List Char) : List Char :=
  let missing := width - cs.length
  if left then cs ++ List.replicate missing ' '
  else if zeros then
    match cs with
    | '-' :: digits => '-' :: (List.replicate missing '0' ++ digits)
    | '+' :: digits => '+' :: (List.replicate missing '0' ++ digits)
    | digits => List.replicate missing '0' ++ digits
  else List.replicate missing ' ' ++ cs

/-- What comes of a tool: what it writes, what it writes about failures, and its status. -/
structure Result where
  output : List Char := []
  failures : List Char := []
  status : Nat := 0
  deriving DecidableEq, Repr, Inhabited

/-- A result that goes on with another one. -/
def Result.append (a b : Result) : Result :=
  ⟨a.output ++ b.output, a.failures ++ b.failures, if a.status = 0 then b.status else a.status⟩

/-- A number at the front of an argument, and what follows it. A quote gives the number of the
character after it. -/
def numberFront (argument : List Char) : Int × List Char :=
  match argument with
  | '"' :: c :: _ | '\'' :: c :: _ => (c.toNat, [])
  | '-' :: rest =>
    let (n, left) := natural rest
    (-(n : Int), if left.length = rest.length then argument else left)
  | '+' :: rest =>
    let (n, left) := natural rest
    (n, if left.length = rest.length then argument else left)
  | argument =>
    let (n, left) := natural argument
    (n, left)
where
  /-- Digits at the front, in base sixteen after `0x` and in base eight after a zero. -/
  natural (cs : List Char) : Nat × List Char :=
    match cs with
    | '0' :: 'x' :: rest | '0' :: 'X' :: rest => inBase 16 rest
    | '0' :: rest => inBase 8 ('0' :: rest)
    | cs => inBase 10 cs
  /-- Digits at the front in a base. -/
  inBase (base : Nat) (cs : List Char) : Nat × List Char :=
    let front := cs.takeWhile fun c => (Text.digitOf? base c).isSome
    ((Text.digits? base front).getD 0, cs.drop front.length)

/-- What is wrong with an argument that should be a number. -/
def numberFault? (argument : List Char) : Option String :=
  let left := (numberFront argument).2
  if left.isEmpty then none
  else if left.length = argument.length then some "expected numeric value"
  else some "not completely converted"

/-- What a letter after a percent sign writes for an argument. -/
def converted? (letter : Char) (precision : Option Nat) (argument : List Char) :
    Option (List Char) :=
  let number := (numberFront argument).1
  match letter with
  | 's' => some (match precision with
    | some n => argument.take n
    | none => argument)
  | 'b' => some (unescape true argument).1
  | 'c' => some (argument.take 1)
  | 'd' | 'i' | 'u' => some (toString number).toList
  | 'o' => some (Nat.toDigits 8 number.toNat)
  | 'x' => some (Nat.toDigits 16 number.toNat)
  | 'X' => some ((Nat.toDigits 16 number.toNat).map Char.toUpper)
  | _ => none

/-- Whether a letter after a percent sign writes a number. -/
def isNumeric (letter : Char) : Bool := "diuoxX".toList.contains letter

/-- A pattern filled in once, and the arguments that are left; `remark` is how the shell reports
what is wrong. `steps` is at least the length of the pattern. -/
def fill (remark : String → List Char) (steps : Nat) (arguments : List (List Char))
    (pattern : List Char) : Result × List (List Char) :=
  match steps, pattern with
  | 0, _ => ({}, arguments)
  | _, [] => ({}, arguments)
  | steps + 1, '%' :: '%' :: rest =>
    let (more, left) := fill remark steps arguments rest
    (Result.append { output := ['%'] } more, left)
  | steps + 1, '%' :: rest =>
    let flags := rest.takeWhile "-0+ #".toList.contains
    let rest := rest.drop flags.length
    let width := rest.takeWhile (·.isDigit)
    let rest := rest.drop width.length
    let (precision, rest) := match rest with
      | '.' :: rest => (some ((Text.digits? 10 (rest.takeWhile (·.isDigit))).getD 0),
          rest.dropWhile (·.isDigit))
      | rest => (none, rest)
    match rest with
    | letter :: rest =>
      let argument := arguments.headD []
      match converted? letter precision argument with
      | some cs =>
        let fault := if isNumeric letter then numberFault? argument else none
        let failures := fault.elim [] fun text =>
          remark ("printf: " ++ String.ofList argument ++ ": " ++ text)
        let isPlain := (letter = 'd' || letter = 'i') && cs.head? ≠ some '-'
        let signed := if flags.contains '+' && isPlain then '+' :: cs else cs
        let zeros := flags.contains '0' && isNumeric letter
        let output := padTo ((Text.digits? 10 width).getD 0) (flags.contains '-') zeros signed
        let (more, left) := fill remark steps arguments.tail rest
        (Result.append ⟨output, failures, if fault.isSome then 1 else 0⟩ more, left)
      | none => (⟨[], remark ("printf: %" ++ letter.toString ++ ": invalid directive"), 2⟩, [])
    | [] => (⟨[], remark "printf: missing format character", 2⟩, [])
  | steps + 1, c :: rest =>
    let (more, left) := fill remark steps arguments rest
    (Result.append { output := [c] } more, left)

/-- A pattern filled in until no arguments are left; at most `times` times. -/
def fillAll (remark : String → List Char) (pattern : List Char) (arguments : List (List Char)) :
    (times : Nat) → Result
  | 0 => {}
  | times + 1 =>
    let (r, left) := fill remark (pattern.length + 1) arguments pattern
    if left.isEmpty || left.length = arguments.length then r
    else r.append (fillAll remark pattern left times)

/-- What comes of `printf`. -/
def printed (remark : String → List Char) (words : List (List Char)) : Result :=
  match words with
  | ['-', '-'] :: pattern :: arguments | pattern :: arguments =>
    fillAll remark (unescape false pattern).1 arguments (arguments.length + 1)
  | [] => ⟨[], remark "printf: usage: printf format [arg ...]", 2⟩

/-! ## Programs for texts -/

/-- The contents of a file, or what a program says about it. -/
def contents (s : Session) (name : String) (path : List Char) : Result :=
  if path = ['-'] then { output := s.input }
  else
    match s.file? path with
    | .ok cs => { output := cs }
    | .error e =>
      let cause := (Session.causeOf e).toList
      { failures := name.toList ++ ": ".toList ++ path ++ ": ".toList ++ cause ++ ['\n'],
        status := 1 }

/-- What `cat` writes. -/
def cat (s : Session) (arguments : List (List Char)) : Result :=
  match arguments.filter fun a => a.head? ≠ some '-' || a = ['-'] with
  | [] => { output := s.input }
  | paths => paths.foldl (fun r path => r.append (contents s "cat" path)) {}

/-- The numbers from one to another by a step. -/
def numbers (first step last : Int) : List Int :=
  if step = 0 || (last - first) * step < 0 then []
  else
    (List.range (((last - first).tdiv step).toNat + 1)).map fun (k : Nat) => first + step * k

/-- What `seq` writes. -/
def seq (arguments : List (List Char)) : Result :=
  let ns := arguments.map (numberFront · |>.1)
  let values := match ns with
    | [last] => numbers 1 1 last
    | [first, last] => numbers first 1 last
    | [first, step, last] => numbers first step last
    | _ => []
  { output := values.flatMap fun n => (toString n).toList ++ ['\n'] }

/-- The first lines of a text, each with its end. -/
def firstLines : Nat → List Char → List Char
  | _, [] => []
  | 0, _ => []
  | n + 1, c :: rest => if c = '\n' then c :: firstLines n rest else c :: firstLines (n + 1) rest

/-- What `head` writes. -/
def head (s : Session) (arguments : List (List Char)) : Result :=
  let take := fun (bytes : Bool) (n : List Char) (paths : List (List Char)) =>
    let n := (Text.digits? 10 n).getD 0
    if paths.head? = some "/dev/zero".toList then
      ({ output := if bytes then List.replicate n '\x00' else [] } : Result)
    else
      let r := cat s paths
      { r with output := if bytes then r.output.take n else firstLines n r.output }
  match arguments with
  | ['-', 'c'] :: n :: paths => take true n paths
  | ['-', 'n'] :: n :: paths => take false n paths
  | ('-' :: 'c' :: n) :: paths => take true n paths
  | ('-' :: 'n' :: n) :: paths => take false n paths
  | ('-' :: n) :: paths => take false n paths
  | paths => take false ['1', '0'] paths

/-- The characters that a set of `tr` stands for. -/
def members : List Char → List Char
  | a :: '-' :: b :: rest =>
    (List.range (b.toNat + 1 - a.toNat)).map (fun k => Char.ofNat (a.toNat + k)) ++ members rest
  | a :: rest => a :: members rest
  | [] => []

/-- What `tr` writes. -/
def tr (s : Session) (arguments : List (List Char)) : Result :=
  let set := fun (cs : List Char) => members (unescape false cs).1
  match arguments with
  | [['-', 'd'], gone] =>
    let gone := set gone
    { output := s.input.filter (!gone.contains ·) }
  | [old, new] =>
    let old := set old
    let new := set new
    { output := s.input.map fun c =>
        match old.idxOf? c with
        | some i => new.getD i (new.getLastD c)
        | none => c }
  | _ => {}

/-- The words between blanks. -/
def wordCount (cs : List Char) : Nat :=
  let isBlank := fun (c : Char) => c = ' ' || c = '\t' || c = '\n'
  ((cs.splitBy fun a b => isBlank a == isBlank b).filter fun run => !run.any isBlank).length

/-- What `wc` writes that counts one thing. -/
def wc (s : Session) (arguments : List (List Char)) : Result :=
  let count := fun (number : List Char → Nat) (paths : List (List Char)) =>
    let r := cat s paths
    let name := paths.head?.elim [] (' ' :: ·)
    if r.status = 0 then { r with output := (toString (number r.output)).toList ++ name ++ ['\n'] }
    else r
  match arguments with
  | ['-', 'l'] :: paths => count (·.count '\n') paths
  | ['-', 'w'] :: paths => count wordCount paths
  | ['-', 'c'] :: paths => count (·.length) paths
  | _ => {}

/-- A path without slashes at its end. -/
def withoutEnd (path : List Char) : List Char := (path.reverse.dropWhile (· = '/')).reverse

/-- The last name of a path; a second argument is an end that is left out. -/
def baseName (arguments : List (List Char)) : List Char :=
  let path := arguments.headD []
  let name := ((withoutEnd path).reverse.takeWhile (· ≠ '/')).reverse
  let ending := arguments.getD 1 []
  if name.isEmpty then path.take 1
  else if ending.isSuffixOf name && ending.length < name.length then
    name.take (name.length - ending.length)
  else name

/-- The path of the directory that a path leads into. -/
def directoryName (path : List Char) : List Char :=
  let above := ((withoutEnd path).reverse.dropWhile (· ≠ '/')).reverse
  if above.isEmpty then (if path.head? = some '/' then ['/'] else ['.'])
  else if (withoutEnd above).isEmpty then ['/']
  else withoutEnd above

/-- What `ls` writes for paths that lead to a file or to nothing. -/
def ls (s : Session) (arguments : List (List Char)) : Result :=
  (arguments.filter (·.head? ≠ some '-')).foldl (fun r path =>
    r.append (match s.tree.find (s.meant path) with
      | .ok .directory =>
        let names := match s.tree.locate .target (s.meant path) with
          | .ok place => s.tree.namesIn place
          | .error _ => []
        let shown := names.filter (!·.startsWith ".")
        { output := shown.flatMap fun name => (Utf8.ofString (name ++ "\n")).latin1 }
      | .ok _ => { output := path ++ ['\n'] }
      | .error e =>
        if s.isDirectory path then {}
        else
          let cause := Session.causeOf e
          { failures := "ls: cannot access '".toList ++ path ++ ("': " ++ cause ++ "\n").toList,
            status := 2 })) {}

/-- Programs of which nothing is kept. -/
def silent : List String :=
  ["sleep", "touch", "mkdir", "rm", "chmod", "sync", "date", "id", "uname", "hostname", "whoami"]

/-- The programs for texts, which are found by their names. -/
def names : List String :=
  ["ls", "cat", "seq", "head", "tr", "wc", "basename", "dirname"] ++ silent

/-- What a program of the host for texts comes to, if there is one of the name. -/
def run? (s : Session) (name : String) (arguments : List (List Char)) : Option Result :=
  match name with
  | "ls" => some (ls s arguments)
  | "cat" => some (cat s arguments)
  | "seq" => some (seq arguments)
  | "head" => some (head s arguments)
  | "tr" => some (tr s arguments)
  | "wc" => some (wc s arguments)
  | "basename" => some { output := baseName arguments ++ ['\n'] }
  | "dirname" => some { output := directoryName (arguments.headD []) ++ ['\n'] }
  | name => if silent.contains name then some {} else none

end DebugBridge.Script.Tool
