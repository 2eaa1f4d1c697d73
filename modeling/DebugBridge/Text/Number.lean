/-!
# Unsigned numbers in text

Numbers are read from plain digits: one plus sign may stand in front, and the value must stay
below a bound, which is the size of the word that is to hold it. They are written in a base with
the digits `0` to `9` and `a` to `f`.
-/

namespace DebugBridge.Text

/-- The value of a digit: `0` to `9`, then the letters of either case. -/
def digitValue? (c : Char) : Option Nat :=
  let n := c.toNat
  if 0x30 ≤ n && n ≤ 0x39 then some (n - 0x30)
  else if 0x61 ≤ n && n ≤ 0x7A then some (n - 0x57)
  else if 0x41 ≤ n && n ≤ 0x5A then some (n - 0x37)
  else none

/-- The value of a digit of the given base. -/
def digitOf? (base : Nat) (c : Char) : Option Nat :=
  (digitValue? c).filter (· < base)

/-- Digits read on from a value that the digits before them have. -/
def digitsFrom? (base : Nat) : Nat → List Char → Option Nat
  | value, [] => some value
  | value, c :: cs =>
    match digitOf? base c with
    | some d => digitsFrom? base (value * base + d) cs
    | none => none

/-- The value of a non-empty run of digits. -/
def digits? (base : Nat) : List Char → Option Nat
  | [] => none
  | c :: cs => digitsFrom? base 0 (c :: cs)

/-- The value of a non-empty run of digits with at most one plus sign in front, if it is below the
bound. -/
def unsigned? (base bound : Nat) (cs : List Char) : Option Nat :=
  let plain := match cs with
    | '+' :: rest => rest
    | cs => cs
  (digits? base plain).filter (· < bound)

/-- A decimal number that fits a word of 16 bits. -/
def word16? (cs : List Char) : Option UInt16 :=
  (unsigned? 10 UInt16.size cs).map UInt16.ofNat

/-- A decimal number that fits a word of 32 bits. -/
def word32? (cs : List Char) : Option UInt32 :=
  (unsigned? 10 UInt32.size cs).map UInt32.ofNat

/-- A number in the digits of a base. -/
def inBase (base n : Nat) : String := String.ofList (Nat.toDigits base n)

/-- A number in base eight. -/
def octal (n : Nat) : String := inBase 8 n

/-- A text widened to the right with blanks. -/
def padRight (width : Nat) (text : String) : String :=
  text ++ String.ofList (List.replicate (width - text.length) ' ')

/-- A number in decimal digits, widened to the left with zeros. -/
def padZero (width n : Nat) : String :=
  let digits := toString n
  String.ofList (List.replicate (width - digits.length) '0') ++ digits

end DebugBridge.Text
