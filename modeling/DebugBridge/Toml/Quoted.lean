import DebugBridge.Text.Number

/-!
# Strings in TOML

Four kinds of string: in double quotes with escapes, in single quotes as they stand, and both over
several lines, in three quotes each.

Each reader takes the text after the opening quotes and gives the string and what follows the
closing quotes.
-/

namespace DebugBridge.Toml

/-- Whether a character may stand in a string or a comment as it is. -/
def isPlain (c : Char) : Bool := c = '\t' || (0x20 ≤ c.toNat && c.toNat != 0x7F)

/-- The character of a number in hexadecimal digits. -/
def scalar? (digits : List Char) : Option Char := do
  let n ← Text.digits? 16 digits
  if h : n.isValidChar then some (Char.ofNatAux n h) else none

/-- The character of an escape after its backslash, and what follows it. -/
def escape? : List Char → Option (Char × List Char)
  | 'b' :: rest => some ('\x08', rest)
  | 't' :: rest => some ('\t', rest)
  | 'n' :: rest => some ('\n', rest)
  | 'f' :: rest => some ('\x0c', rest)
  | 'r' :: rest => some ('\r', rest)
  | 'e' :: rest => some ('\x1b', rest)
  | '"' :: rest => some ('"', rest)
  | '\\' :: rest => some ('\\', rest)
  | 'x' :: rest =>
    if rest.length < 2 then none else (scalar? (rest.take 2)).map fun c => (c, rest.drop 2)
  | 'u' :: rest =>
    if rest.length < 4 then none else (scalar? (rest.take 4)).map fun c => (c, rest.drop 4)
  | 'U' :: rest =>
    if rest.length < 8 then none else (scalar? (rest.take 8)).map fun c => (c, rest.drop 8)
  | _ => none

theorem length_escape? {cs rest : List Char} {c : Char} (h : escape? cs = some (c, rest)) :
    rest.length ≤ cs.length := by
  unfold escape? at h
  split at h
  case h_12 => cases h
  case h_9 | h_10 | h_11 =>
    split at h
    · cases h
    · obtain ⟨_, _, he⟩ := Option.map_eq_some_iff.mp h
      cases he
      simp
      omega
  all_goals cases h; simp

/-- A string in single quotes. -/
def literal (passed : List Char) : List Char → Option (List Char × List Char)
  | [] => none
  | '\'' :: rest => some (passed.reverse, rest)
  | c :: rest => if isPlain c then literal (c :: passed) rest else none

/-- A string in double quotes. -/
def basic (passed : List Char) : List Char → Option (List Char × List Char)
  | [] => none
  | '"' :: rest => some (passed.reverse, rest)
  | '\\' :: rest =>
    match h : escape? rest with
    | some (c, rest') =>
      have := length_escape? h
      basic (c :: passed) rest'
    | none => none
  | c :: rest => if isPlain c then basic (c :: passed) rest else none
termination_by cs => cs.length

/-! ## Several lines -/

/-- A line end right after the opening quotes does not count. -/
def dropFirstLineEnd : List Char → List Char
  | '\n' :: rest => rest
  | '\r' :: '\n' :: rest => rest
  | cs => cs

/-- A string in three single quotes. Up to two quotes may stand before the closing ones. -/
def longLiteral (passed : List Char) : List Char → Option (List Char × List Char)
  | [] => none
  | '\'' :: '\'' :: '\'' :: '\'' :: '\'' :: rest => some (('\'' :: '\'' :: passed).reverse, rest)
  | '\'' :: '\'' :: '\'' :: '\'' :: rest => some (('\'' :: passed).reverse, rest)
  | '\'' :: '\'' :: '\'' :: rest => some (passed.reverse, rest)
  | '\r' :: '\n' :: rest => longLiteral ('\n' :: passed) rest
  | '\n' :: rest => longLiteral ('\n' :: passed) rest
  | c :: rest => if isPlain c then longLiteral (c :: passed) rest else none

/-- The text from the next character that is neither a blank nor part of a line end. A carriage
return stands before a line feed only. -/
def afterSpace? : List Char → Option (List Char)
  | '\r' :: '\n' :: rest => afterSpace? rest
  | '\r' :: _ => none
  | c :: rest => if c = ' ' || c = '\t' || c = '\n' then afterSpace? rest else some (c :: rest)
  | [] => some []

theorem length_afterSpace? {cs rest : List Char} (h : afterSpace? cs = some rest) :
    rest.length ≤ cs.length := by
  fun_induction afterSpace? cs with
  | case1 _ ih => have := ih h; simp only [List.length_cons]; omega
  | case2 => cases h
  | case3 _ _ _ _ _ ih => have := ih h; simp only [List.length_cons]; omega
  | case4 | case5 => cases h; exact Nat.le_refl _

/-- What follows a backslash at the end of a line, up to the next character that is no blank. -/
def afterLineEnd? (cs : List Char) : Option (List Char) :=
  match cs.dropWhile fun c => c = ' ' || c = '\t' with
  | '\n' :: rest => afterSpace? rest
  | '\r' :: '\n' :: rest => afterSpace? rest
  | _ => none

theorem length_afterLineEnd? {cs rest : List Char} (h : afterLineEnd? cs = some rest) :
    rest.length ≤ cs.length := by
  have first := (List.dropWhile_sublist (l := cs) fun c => c = ' ' || c = '\t').length_le
  unfold afterLineEnd? at h
  split at h
  · next r heq =>
    have := length_afterSpace? h
    rw [heq] at first
    simp only [List.length_cons] at first
    omega
  · next r heq =>
    have := length_afterSpace? h
    rw [heq] at first
    simp only [List.length_cons] at first
    omega
  · cases h

/-- A string in three double quotes. Up to two quotes may stand before the closing ones. -/
def longBasic (passed : List Char) : List Char → Option (List Char × List Char)
  | [] => none
  | '"' :: '"' :: '"' :: '"' :: '"' :: rest => some (('"' :: '"' :: passed).reverse, rest)
  | '"' :: '"' :: '"' :: '"' :: rest => some (('"' :: passed).reverse, rest)
  | '"' :: '"' :: '"' :: rest => some (passed.reverse, rest)
  | '\\' :: rest =>
    match h : afterLineEnd? rest with
    | some rest' =>
      have := length_afterLineEnd? h
      longBasic passed rest'
    | none =>
      match h' : escape? rest with
      | some (c, rest') =>
        have := length_escape? h'
        longBasic (c :: passed) rest'
      | none => none
  | '\r' :: '\n' :: rest => longBasic ('\n' :: passed) rest
  | '\n' :: rest => longBasic ('\n' :: passed) rest
  | c :: rest => if isPlain c then longBasic (c :: passed) rest else none
termination_by cs => cs.length

/-- A string on one line, from its opening quote on. -/
def shortString? : List Char → Option (List Char × List Char)
  | '"' :: rest => basic [] rest
  | '\'' :: rest => literal [] rest
  | _ => none

/-- A string of any kind, from its opening quotes on. -/
def string? : List Char → Option (List Char × List Char)
  | '"' :: '"' :: '"' :: rest => longBasic [] (dropFirstLineEnd rest)
  | '\'' :: '\'' :: '\'' :: rest => longLiteral [] (dropFirstLineEnd rest)
  | cs => shortString? cs

end DebugBridge.Toml
