/-!
# Sizes for readers

A size is shown in the largest unit of which it has at least one, each unit being 1024 of the one
before it, and with one digit after the point unless it is in bytes. It is first rounded to 53
significant bits, which changes only sizes of 2^53 and more.

Both roundings go to the nearest value, and from the middle to the even one.
-/

namespace DebugBridge.Size

/-- The quotient rounded to the nearest number, from the middle to the even one. -/
def roundedQuotient (n d : Nat) : Nat :=
  let q := n / d
  let r := n % d
  if 2 * r < d then q
  else if d < 2 * r then q + 1
  else if q % 2 = 0 then q else q + 1

/-- A number rounded to 53 significant bits. -/
def significant (n : Nat) : Nat :=
  if n < Nat.pow 2 53 then n
  else
    let unit := Nat.pow 2 (n.log2 - 52)
    roundedQuotient n unit * unit

/-- The units. -/
def units : List String := ["B", "K", "M", "G", "T"]

/-- The index of the unit of a size: how often it can be divided by 1024, at most four times. -/
def unitIndex (n : Nat) : Nat :=
  if n < 1024 then 0
  else if n < Nat.pow 1024 2 then 1
  else if n < Nat.pow 1024 3 then 2
  else if n < Nat.pow 1024 4 then 3
  else 4

/-- A size in tenths of a unit. -/
def tenths (n index : Nat) : Nat := roundedQuotient (n * 10) (Nat.pow 1024 index)

/-- The text of a size. -/
def text (size : Nat) : String :=
  let n := significant size
  let index := unitIndex n
  let unit := units.getD index ""
  if index = 0 then toString size ++ unit
  else
    let t := tenths n index
    toString (t / 10) ++ "." ++ toString (t % 10) ++ unit

end DebugBridge.Size
