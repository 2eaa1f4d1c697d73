import DebugBridge.Bytes

/-!
# UTF-8

Writing characters as UTF-8, and two readings of bytes: a strict one that says where the bytes
stop being UTF-8, and a lenient one that puts the replacement character in place of each broken
part.

A *broken part* is the longest run of bytes that could still have started a character when the
next byte, or the end, ruled it out; it has at least one byte. Both readings walk with `front`,
which looks at one character, so they agree on what a character is.

## Why the walks stop

`front` hands back a rest that is no longer than what followed the first byte
(`Front.rest_length`), so each step of `decode` and `lenient` works on a shorter string.
-/

namespace DebugBridge.Utf8

/-! ## Writing -/

/-- The bytes of a character. -/
def encodeChar (c : Char) : Bytes :=
  let n := c.toNat
  if n < 0x80 then [UInt8.ofNat n]
  else if n < 0x800 then [UInt8.ofNat (0xC0 + n / 64), UInt8.ofNat (0x80 + n % 64)]
  else if n < 0x10000 then
    [UInt8.ofNat (0xE0 + n / 4096), UInt8.ofNat (0x80 + n / 64 % 64), UInt8.ofNat (0x80 + n % 64)]
  else
    [UInt8.ofNat (0xF0 + n / 262144), UInt8.ofNat (0x80 + n / 4096 % 64),
      UInt8.ofNat (0x80 + n / 64 % 64), UInt8.ofNat (0x80 + n % 64)]

/-- The bytes of a text. -/
def encode (cs : List Char) : Bytes := cs.flatMap encodeChar

/-- The bytes of a string. -/
def ofString (text : String) : Bytes := encode text.toList

/-- How many bytes a string takes. -/
def size (text : String) : Nat := text.utf8ByteSize

/-! ## One character -/

/-- What stands at the front of a byte string. -/
inductive Front where
  /-- A character of `size` bytes. -/
  | char (c : Char) (size : Nat) (rest : Bytes)
  /-- A broken part of `size` bytes, ruled out by the byte after it. -/
  | broken (size : Nat) (rest : Bytes)
  /-- The start of a character that the end of the bytes cuts short. -/
  | cut

/-- Reads the bytes that a character still needs. The next one must lie between `low` and `high`,
those after it are any continuation bytes; `value` and `size` are what was read before. -/
def follow (low high value size : Nat) : Nat → Bytes → Front
  | 0, bytes => .char (Char.ofNat value) size bytes
  | _ + 1, [] => .cut
  | more + 1, b :: bytes =>
    if low ≤ b.toNat && b.toNat ≤ high then
      follow 0x80 0xBF (value * 64 + b.toNat % 64) (size + 1) more bytes
    else .broken size (b :: bytes)

/-- The front of the byte string `first :: bytes`. -/
def front (first : UInt8) (bytes : Bytes) : Front :=
  let n := first.toNat
  if n < 0x80 then .char (Char.ofNat n) 1 bytes
  else if n < 0xC2 then .broken 1 bytes
  else if n < 0xE0 then follow 0x80 0xBF (n % 32) 1 1 bytes
  else if n = 0xE0 then follow 0xA0 0xBF (n % 16) 1 2 bytes
  else if n = 0xED then follow 0x80 0x9F (n % 16) 1 2 bytes
  else if n < 0xF0 then follow 0x80 0xBF (n % 16) 1 2 bytes
  else if n = 0xF0 then follow 0x90 0xBF (n % 8) 1 3 bytes
  else if n < 0xF4 then follow 0x80 0xBF (n % 8) 1 3 bytes
  else if n = 0xF4 then follow 0x80 0x8F (n % 8) 1 3 bytes
  else .broken 1 bytes

/-- What is left after the front. -/
def Front.rest : Front → Bytes
  | .char _ _ rest => rest
  | .broken _ rest => rest
  | .cut => []

theorem follow_rest_length (low high value size more : Nat) (bytes : Bytes) :
    (follow low high value size more bytes).rest.length ≤ bytes.length := by
  induction more generalizing low high value size bytes with
  | zero => simp [follow, Front.rest]
  | succ more ih =>
    cases bytes with
    | nil => simp [follow, Front.rest]
    | cons b bytes =>
      simp only [follow]
      split
      · exact Nat.le_trans (ih ..) (by simp)
      · simp [Front.rest]

theorem Front.rest_length (first : UInt8) (bytes : Bytes) :
    (front first bytes).rest.length ≤ bytes.length := by
  unfold front
  simp only
  repeat' split
  all_goals first
    | exact follow_rest_length ..
    | exact Nat.le_refl _

/-! ## Whole byte strings -/

/-- Where and how a byte string stops being UTF-8. -/
structure Invalid where
  /-- How many bytes before it are UTF-8. -/
  valid : Nat
  /-- The size of the broken part; none when the end cuts a character short. -/
  broken : Option Nat
  deriving DecidableEq, Repr

/-- Reads on after `position` bytes whose characters, last first, are `passed`. -/
def decodeFrom (position : Nat) (passed : List Char) : Bytes → Except Invalid (List Char)
  | [] => .ok passed.reverse
  | b :: bytes =>
    match h : front b bytes with
    | .char c size rest =>
      have : rest.length < bytes.length + 1 := by
        have := Front.rest_length b bytes
        simp [h, Front.rest] at this; omega
      decodeFrom (position + size) (c :: passed) rest
    | .broken size _ => .error ⟨position, some size⟩
    | .cut => .error ⟨position, none⟩
termination_by bytes => bytes.length

/-- The characters of a byte string that is UTF-8 throughout. -/
def decode (bytes : Bytes) : Except Invalid (List Char) := decodeFrom 0 [] bytes

/-- Stands for a broken part. -/
def replacement : Char := '\ufffd'

/-- Reads on leniently after the characters `passed`, last first. -/
def lenientFrom (passed : List Char) : Bytes → List Char
  | [] => passed.reverse
  | b :: bytes =>
    match h : front b bytes with
    | .char c _ rest =>
      have : rest.length < bytes.length + 1 := by
        have := Front.rest_length b bytes
        simp [h, Front.rest] at this; omega
      lenientFrom (c :: passed) rest
    | .broken _ rest =>
      have : rest.length < bytes.length + 1 := by
        have := Front.rest_length b bytes
        simp [h, Front.rest] at this; omega
      lenientFrom (replacement :: passed) rest
    | .cut => (replacement :: passed).reverse
termination_by bytes => bytes.length

/-- The characters of a byte string, each broken part replaced. -/
def lenient (bytes : Bytes) : List Char := lenientFrom [] bytes

/-- The text of a byte string, each broken part replaced. -/
def lenientString (bytes : Bytes) : String := String.ofList (lenient bytes)

/-- What is wrong with a byte string that is no UTF-8. -/
def Invalid.message (e : Invalid) : String :=
  match e.broken with
  | some size => s!"invalid utf-8 sequence of {size} bytes from index {e.valid}"
  | none => s!"incomplete utf-8 byte sequence from index {e.valid}"

end DebugBridge.Utf8
