import DebugBridge.Text.Number

/-!
# Dates and times in TOML

A date, a time of day, or both with or without the distance of a time zone. Each reader takes the
text from where it stands and gives the text in its one written form, and what follows it.

In the written form a `T` stands between a date and a time of day, the seconds are never left out,
a fraction has at most nine digits and no zero at its end, and the time zone of a distance of
nothing is `+00:00`, or `Z` where it was written so.
-/

namespace DebugBridge.Toml.Time

/-- The number of exactly two digits. -/
def two? (a b : Char) : Option Nat :=
  if a.isDigit && b.isDigit then Text.digits? 10 [a, b] else none

/-- The days of a month. -/
def daysIn (year month : Nat) : Nat :=
  if month = 2 then
    if year % 4 = 0 && (year % 100 != 0 || year % 400 = 0) then 29 else 28
  else if month = 4 || month = 6 || month = 9 || month = 11 then 30 else 31

/-- A date. -/
def date? : List Char → Option (List Char × List Char)
  | a :: b :: c :: d :: '-' :: e :: f :: '-' :: g :: h :: rest => do
    let century ← two? a b
    let year ← two? c d
    let month ← two? e f
    let day ← two? g h
    if 1 ≤ month && month ≤ 12 && 1 ≤ day && day ≤ daysIn (100 * century + year) month then
      some ([a, b, c, d, '-', e, f, '-', g, h], rest)
    else none
  | _ => none

/-- A list without the zeros at its end. -/
def dropLastZeros (digits : List Char) : List Char :=
  (digits.reverse.dropWhile (· = '0')).reverse

/-- The written form of a fraction of a second. -/
def fraction (digits : List Char) : List Char :=
  match dropLastZeros (digits.take 9) with
  | [] => []
  | kept => '.' :: kept

/-- Seconds and their fraction. -/
def seconds? : List Char → Option (List Char × List Char)
  | a :: b :: rest => do
    let second ← two? a b
    if second ≤ 60 then
      match rest with
      | '.' :: digits =>
        match digits.takeWhile (·.isDigit) with
        | [] => none
        | read => some (a :: b :: fraction read, digits.dropWhile (·.isDigit))
      | rest => some ([a, b], rest)
    else none
  | _ => none

/-- A time of day, which may end with the minutes. -/
def clock? : List Char → Option (List Char × List Char)
  | a :: b :: ':' :: c :: d :: rest => do
    let hour ← two? a b
    let minute ← two? c d
    if hour ≤ 23 && minute ≤ 59 then
      match rest with
      | ':' :: rest =>
        let (seconds, rest) ← seconds? rest
        some (a :: b :: ':' :: c :: d :: ':' :: seconds, rest)
      | rest => some ([a, b, ':', c, d, ':', '0', '0'], rest)
    else none
  | _ => none

/-- The distance of a time zone, which ends the text. -/
def zone? : List Char → Option (List Char)
  | [] => some []
  | ['Z'] | ['z'] => some ['Z']
  | [sign, a, b, ':', c, d] => do
    let hours ← two? a b
    let minutes ← two? c d
    if (sign = '+' || sign = '-') && hours ≤ 23 && minutes ≤ 59 then
      some [if hours = 0 && minutes = 0 then '+' else sign, a, b, ':', c, d]
    else none
  | _ => none

/-- The written form of a whole word that is a date, a time of day, or both. -/
def ofWord? (cs : List Char) : Option String :=
  match date? cs with
  | some (date, []) => some (String.ofList date)
  | some (date, c :: rest) => do
    if c = 'T' || c = 't' || c = ' ' then
      let (clock, rest) ← clock? rest
      let zone ← zone? rest
      some (String.ofList (date ++ 'T' :: clock ++ zone))
    else none
  | none =>
    match clock? cs with
    | some (clock, []) => some (String.ofList clock)
    | _ => none

/-- Whether a word is a date without a time of day. -/
def isDate (cs : List Char) : Bool := (date? cs).any (·.2.isEmpty)

end DebugBridge.Toml.Time
