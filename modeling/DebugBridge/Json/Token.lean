import DebugBridge.Json.Value
import DebugBridge.Text.Number

/-!
# Tokens of JSON

A JSON text is cut into tokens: brackets, commas, colons, and the values that hold no others.
Between tokens there may be blanks, line ends and tabs.

## Why the cutting stops

Each token takes at least one character: `string` leaves a rest that is no longer than what
followed the quote (`length_stringBody`), and numbers and words are runs of characters.
-/

namespace DebugBridge.Json

/-- A token. -/
inductive Token where
  | openArray | closeArray | openObject | closeObject | comma | colon
  /-- A value that holds no others. -/
  | value (v : Json)
  deriving Repr, Inhabited

/-! ## Strings -/

/-- The number of the character that an escape of one letter stands for. -/
def escaped? (c : Char) : Option Nat :=
  match c with
  | '"' => some 0x22
  | '\\' => some 0x5C
  | '/' => some 0x2F
  | 'b' => some 0x08
  | 'f' => some 0x0C
  | 'n' => some 0x0A
  | 'r' => some 0x0D
  | 't' => some 0x09
  | _ => none

/-- The number of four hexadecimal digits. -/
def unit? (a b c d : Char) : Option Nat := Text.digits? 16 [a, b, c, d]

/-- The numbers of a string up to its closing quote, and what follows; `units` are those before, in
reverse. An escape of four digits may give half of a surrogate pair. -/
def stringBody (units : List Nat) : List Char → Option (List Nat × List Char)
  | [] => none
  | '"' :: rest => some (units.reverse, rest)
  | '\\' :: 'u' :: a :: b :: c :: d :: rest =>
    match unit? a b c d with
    | some unit => stringBody (unit :: units) rest
    | none => none
  | '\\' :: c :: rest =>
    match escaped? c with
    | some unit => stringBody (unit :: units) rest
    | none => none
  | c :: rest => if c.toNat < 0x20 then none else stringBody (c.toNat :: units) rest

/-- Whether a number is the first half of a surrogate pair. -/
def isHigh (n : Nat) : Bool := 0xD800 ≤ n && n ≤ 0xDBFF

/-- Whether a number is the second half of a surrogate pair. -/
def isLow (n : Nat) : Bool := 0xDC00 ≤ n && n ≤ 0xDFFF

/-- The characters of numbers, surrogate pairs joined; none if a half is left over. -/
def joinUnits : List Nat → Option (List Char)
  | [] => some []
  | [n] => if isHigh n || isLow n then none else some [Char.ofNat n]
  | n :: m :: rest =>
    if isHigh n && isLow m then
      (joinUnits rest).map (Char.ofNat (0x10000 + (n - 0xD800) * 0x400 + (m - 0xDC00)) :: ·)
    else if isHigh n || isLow n then none
    else (joinUnits (m :: rest)).map (Char.ofNat n :: ·)

/-- The string of numbers. -/
def ofUnits (units : List Nat) : Json :=
  match joinUnits units with
  | some cs => .string (String.ofList cs)
  | none => .unpaired

/-! ## Numbers -/

/-- Whether a character may stand in a number. -/
def isNumeric (c : Char) : Bool :=
  c.isDigit || c = '-' || c = '+' || c = '.' || c = 'e' || c = 'E'

/-- The text after a run of at least one digit. -/
def afterDigits? (cs : List Char) : Option (List Char) :=
  match cs with
  | c :: rest => if c.isDigit then some (rest.dropWhile (·.isDigit)) else none
  | [] => none

/-- The text after the digits in front of the point: no zero stands before another digit. -/
def afterWhole? (cs : List Char) : Option (List Char) :=
  match cs with
  | '0' :: rest => some rest
  | cs => afterDigits? cs

/-- The text after a point and its digits, if there is a point. -/
def afterFraction? (cs : List Char) : Option (List Char) :=
  match cs with
  | '.' :: rest => afterDigits? rest
  | cs => some cs

/-- The text after an exponent, if there is one. -/
def afterExponent? (cs : List Char) : Option (List Char) :=
  match cs with
  | c :: rest =>
    if c = 'e' || c = 'E' then
      match rest with
      | '+' :: digits => afterDigits? digits
      | '-' :: digits => afterDigits? digits
      | digits => afterDigits? digits
    else some (c :: rest)
  | [] => some []

/-- The number of a text that is one. Minus zero counts as no integer. -/
def ofNumeric? (cs : List Char) : Option Json := do
  let (negative, digits) := match cs with
    | '-' :: digits => (true, digits)
    | digits => (false, digits)
  let rest ← afterWhole? digits
  if rest.isEmpty && !(negative && digits = ['0']) then
    let n ← Text.digits? 10 digits
    some (.integer (if negative then -n else n))
  else
    let rest ← afterFraction? rest
    let rest ← afterExponent? rest
    if rest.isEmpty then some (.decimal (String.ofList cs)) else none

/-! ## Cutting -/

/-- Whether a character may stand between tokens. -/
def isGap (c : Char) : Bool := c = ' ' || c = '\n' || c = '\r' || c = '\t'

/-- The value of a word. -/
def ofWord? (cs : List Char) : Option Json :=
  if cs = "null".toList then some .null
  else if cs = "true".toList then some (.bool true)
  else if cs = "false".toList then some (.bool false)
  else none

/-- The token of a mark of one character. -/
def ofMark? (c : Char) : Option Token :=
  match c with
  | '[' => some .openArray
  | ']' => some .closeArray
  | '\x7b' => some .openObject
  | '\x7d' => some .closeObject
  | ',' => some .comma
  | ':' => some .colon
  | _ => none

theorem length_stringBody {units units' : List Nat} {cs rest : List Char}
    (h : stringBody units cs = some (units', rest)) : rest.length ≤ cs.length := by
  fun_induction stringBody units cs <;> simp_all <;> omega

/-- The first token of a text that starts with `c`, and what follows it. -/
def token? (c : Char) (cs : List Char) : Option (Token × List Char) :=
  if c = '"' then (stringBody [] cs).map fun (units, rest) => (.value (ofUnits units), rest)
  else if c = '-' || c.isDigit then
    (ofNumeric? (c :: cs.takeWhile isNumeric)).map fun v =>
      (.value v, cs.dropWhile isNumeric)
  else if c.isAlpha then
    (ofWord? (c :: cs.takeWhile (·.isAlpha))).map fun v =>
      (.value v, cs.dropWhile (·.isAlpha))
  else (ofMark? c).map fun mark => (mark, cs)

theorem length_dropWhile_le {α : Type} (p : α → Bool) (cs : List α) :
    (cs.dropWhile p).length ≤ cs.length := (List.dropWhile_sublist p).length_le

theorem length_token? {c : Char} {cs rest : List Char} {t : Token}
    (h : token? c cs = some (t, rest)) : rest.length ≤ cs.length := by
  unfold token? at h
  split at h
  · obtain ⟨⟨units, rest'⟩, hs, he⟩ := Option.map_eq_some_iff.mp h
    cases he
    exact length_stringBody hs
  · split at h
    · obtain ⟨v, _, he⟩ := Option.map_eq_some_iff.mp h
      cases he
      exact length_dropWhile_le ..
    · split at h
      · obtain ⟨v, _, he⟩ := Option.map_eq_some_iff.mp h
        cases he
        exact length_dropWhile_le ..
      · obtain ⟨v, _, he⟩ := Option.map_eq_some_iff.mp h
        cases he
        exact Nat.le_refl _

/-- The tokens of a text; `passed` are those before it, in reverse. -/
def tokensFrom (passed : List Token) : List Char → Option (List Token)
  | [] => some passed.reverse
  | c :: cs =>
    if isGap c then tokensFrom passed cs
    else
      match h : token? c cs with
      | some (t, rest) =>
        have := length_token? h
        tokensFrom (t :: passed) rest
      | none => none
termination_by cs => cs.length

/-- The tokens of a text. -/
def tokens? (text : String) : Option (List Token) := tokensFrom [] text.toList

end DebugBridge.Json
