/-!
# TOML values

What a configuration file can say. A number that is not whole is kept only as what it is, since no
setting is one, and a time as its text.
-/

namespace DebugBridge

/-- A TOML value. -/
inductive Toml where
  | string (text : String)
  | integer (value : Int)
  /-- A number that is not whole; `huge` if it is beyond the doubles. -/
  | float (huge : Bool)
  | boolean (value : Bool)
  | time (text : String)
  | array (items : List Toml)
  | table (entries : List (String × Toml))
  deriving Repr, Inhabited

namespace Toml

/-! ## Numbers out of range

A number is checked when it is read, not when it is written, so one that nobody reads may be out of
range. -/

mutual

/-- Whether all numbers in a value are in their range. -/
def fits : Toml → Bool
  | .integer n => -(2 ^ 127) ≤ n && n < 2 ^ 128
  | .float huge => !huge
  | .array items => allFit items
  | .table entries => entriesFit entries
  | _ => true

/-- Whether all numbers in a list of values are in their range. -/
def allFit : List Toml → Bool
  | [] => true
  | v :: rest => fits v && allFit rest

/-- Whether all numbers in the entries of a table are in their range. -/
def entriesFit : List (String × Toml) → Bool
  | [] => true
  | (_, v) :: rest => fits v && entriesFit rest

end

/-! ## Reading values -/

/-- The key under which a time stands for a table. -/
def timeKey : String := "$__toml_private_datetime"

/-- The entries of a table. A time is a table too, whose only entry is its text. -/
def entries? : Toml → Option (List (String × Toml))
  | .table entries => some entries
  | .time text => some [(timeKey, .string text)]
  | _ => none

/-- The value of a key of a table. -/
def get? (entries : List (String × Toml)) (key : String) : Option Toml :=
  (entries.find? (·.1 = key)).map (·.2)

/-- A text. -/
def text? : Toml → Option String
  | .string text => some text
  | _ => none

/-- A truth value. -/
def truth? : Toml → Option Bool
  | .boolean value => some value
  | _ => none

/-- A natural number below a bound. -/
def below? (bound : Nat) : Toml → Option Nat
  | .integer n => if 0 ≤ n && n < bound then some n.toNat else none
  | _ => none

/-- Settings by name from a table; what has another name does not count, but its numbers are in
their range. -/
def named? (names : List String) (v : Toml) : Option (List (Option Toml)) := do
  let entries ← v.entries?
  if entries.all fun (key, v) => names.contains key || v.fits then
    some (names.map (get? entries))
  else none

/-- Settings by name from a table, or in their order from the front of an array; items after them do
not count. -/
def settings? (names : List String) : Toml → Option (List (Option Toml))
  | .array items => some ((List.range names.length).map (items[·]?))
  | v => v.named? names

end Toml

end DebugBridge
