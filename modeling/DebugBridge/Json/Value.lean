/-!
# JSON values

Numbers are kept as integers where they are written as such; any other number is kept as its text.
The members of an object are kept in the order in which they were written, repeats included.
-/

namespace DebugBridge

/-- A JSON value. -/
inductive Json where
  | null
  | bool (value : Bool)
  | integer (value : Int)
  /-- A number that is not written as an integer. -/
  | decimal (text : String)
  | string (text : String)
  /-- A string with half of a surrogate pair in it, which is no text, or an object with such a
  name. -/
  | unpaired
  | array (items : List Json)
  | object (members : List (String × Json))
  deriving Repr, Inhabited

namespace Json

/-- A natural number. -/
def ofNat (n : Nat) : Json := .integer n

/-- A word. -/
def ofWord (w : UInt32) : Json := .integer w.toNat

/-- A member with a text, if there is one. -/
def optional (name : String) : Option String → List (String × Json)
  | some text => [(name, .string text)]
  | none => []

/-- The text of a string. -/
def text? : Json → Option String
  | .string text => some text
  | _ => none

/-- The natural number below a bound. -/
def below? (bound : Nat) : Json → Option Nat
  | .integer n => if 0 ≤ n && n < bound then some n.toNat else none
  | _ => none

/-- The word of 32 bits. -/
def word? (v : Json) : Option UInt32 := (v.below? UInt32.size).map UInt32.ofNat

/-- The value that reading makes of a value that may be missing: `null` is none. -/
def orNull? {α : Type} (read : Json → Option α) : Json → Option (Option α)
  | .null => some none
  | v => (read v).map some

/-- The values of the members with a name. -/
def members? (members : List (String × Json)) (name : String) : List Json :=
  (members.filter (·.1 = name)).map (·.2)

/-- The fields of a record, in their order: from an object whose other members do not count, where
a field may be missing but not stand twice, or from an array that has all of them. -/
def fields? (names : List String) : Json → Option (List (Option Json))
  | .object members =>
    names.mapM fun name =>
      match members? members name with
      | [] => some none
      | [value] => some (some value)
      | _ => none
  | .array items => if items.length = names.length then some (items.map some) else none
  | _ => none

end Json

end DebugBridge
