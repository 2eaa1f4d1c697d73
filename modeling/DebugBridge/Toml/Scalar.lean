import DebugBridge.Text.Number
import DebugBridge.Toml.Time
import DebugBridge.Toml.Value

/-!
# Numbers and words in TOML

Values that are written as one word. Digits may be divided by single underscores; whole numbers may
be written in base ten, sixteen, eight and two. A date and a time of day may be divided by a blank,
which the caller has put into the word.
-/

namespace DebugBridge.Toml

/-- The digits of a word without its underscores, each of which stands between two digits. -/
def dropUnderscores? (isDigit : Char → Bool) : List Char → Option (List Char)
  | [] => none
  | [c] => if isDigit c then some [c] else none
  | c :: '_' :: rest =>
    if isDigit c then (dropUnderscores? isDigit rest).map (c :: ·) else none
  | c :: rest => if isDigit c then (dropUnderscores? isDigit rest).map (c :: ·) else none

/-- Whether a character is a digit of a base. -/
def isDigitOf (base : Nat) (c : Char) : Bool := (Text.digitOf? base c).isSome

/-- The number of digits in a base. -/
def inBase? (base : Nat) (cs : List Char) : Option Nat :=
  dropUnderscores? (isDigitOf base) cs >>= Text.digits? base

/-- A decimal number without superfluous zeros. -/
def decimal? (cs : List Char) : Option Nat :=
  match cs with
  | '0' :: _ :: _ => none
  | cs => inBase? 10 cs

/-- A whole number. -/
def integer? (cs : List Char) : Option Int :=
  match cs with
  | '0' :: 'x' :: digits => (inBase? 16 digits).map Int.ofNat
  | '0' :: 'o' :: digits => (inBase? 8 digits).map Int.ofNat
  | '0' :: 'b' :: digits => (inBase? 2 digits).map Int.ofNat
  | '+' :: digits => (decimal? digits).map Int.ofNat
  | '-' :: digits => (decimal? digits).map fun n => -(n : Int)
  | digits => (decimal? digits).map Int.ofNat

/-- A word without its sign. -/
def dropSign (cs : List Char) : List Char :=
  match cs with
  | '+' :: rest | '-' :: rest => rest
  | cs => cs

/-! ## Numbers that are not whole -/

/-- The least number that is rounded to infinity: it lies half a step above the largest double. -/
def infinityBound : Nat := (Nat.pow 2 54 - 1) * Nat.pow 2 970

/-- Whether `digits · 10 ^ exponent` is rounded to infinity. The number of digits settles all but
the numbers of 309 places before the point, so that no power is larger than it has to be. -/
def isHuge (digits : Nat) (exponent : Int) : Bool :=
  let places := (Nat.toDigits 10 digits).length + exponent
  if digits = 0 || places < 309 then false
  else if 309 < places then true
  else infinityBound * Nat.pow 10 (-exponent).toNat ≤ digits * Nat.pow 10 exponent.toNat

/-- The exponent of a number, with the letter in front of it if there is one. -/
def exponent? : List Char → Option Int
  | [] => some 0
  | _ :: '-' :: digits => (inBase? 10 digits).map fun n => -(n : Int)
  | _ :: digits => (inBase? 10 (dropSign digits)).map Int.ofNat

/-- The digits of a fraction, with the point in front of them if there is one. -/
def fraction? : List Char → Option (List Char)
  | [] => some []
  | _ :: digits => dropUnderscores? (isDigitOf 10) digits

/-- A number with a fraction or an exponent. -/
def float? (cs : List Char) : Option Toml := do
  let cs := dropSign cs
  if cs = "inf".toList || cs = "nan".toList then some (.float false)
  else
    let mantissa := cs.takeWhile fun c => c != 'e' && c != 'E'
    let power := cs.dropWhile fun c => c != 'e' && c != 'E'
    let whole ← decimal? (mantissa.takeWhile (· != '.'))
    let fraction ← fraction? (mantissa.dropWhile (· != '.'))
    let exponent ← exponent? power
    if fraction.isEmpty && power.isEmpty then none
    else
      let digits ← Text.digits? 10 fraction <|> some 0
      some (.float
        (isHuge (whole * Nat.pow 10 fraction.length + digits) (exponent - fraction.length)))

/-- The value of a word. -/
def ofWord? (cs : List Char) : Option Toml :=
  if cs = "true".toList then some (.boolean true)
  else if cs = "false".toList then some (.boolean false)
  else
    ((integer? cs).map .integer <|> float? cs) <|> (Time.ofWord? cs).map .time

end DebugBridge.Toml
