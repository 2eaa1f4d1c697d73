/-!
# Byte strings

Byte strings are lists of bytes. Beside them stand the two plain readings of a byte string that
the wire formats use: one character per byte, and a word of 32 bits with its lowest byte first.
-/

namespace DebugBridge

/-- A byte string. -/
abbrev Bytes := List UInt8

namespace Bytes

/-- The characters of a byte string, one per byte. -/
def latin1 (bytes : Bytes) : List Char := bytes.map fun b => Char.ofNat b.toNat

/-- The four bytes of a word, lowest first. -/
def ofWord (w : UInt32) : Bytes :=
  let n := w.toNat
  [UInt8.ofNat n, UInt8.ofNat (n / 256), UInt8.ofNat (n / 65536), UInt8.ofNat (n / 16777216)]

/-- The word of four bytes, lowest first. -/
def word (a b c d : UInt8) : UInt32 :=
  UInt32.ofNat (a.toNat + 256 * b.toNat + 65536 * c.toNat + 16777216 * d.toNat)

/-- The word at the front of a byte string; missing bytes count as zero. -/
def frontWord : Bytes → UInt32
  | a :: b :: c :: d :: _ => word a b c d
  | [a, b, c] => word a b c 0
  | [a, b] => word a b 0 0
  | [a] => word a 0 0 0
  | [] => 0

/-- Reading the four bytes of a word gives the word. -/
@[simp] theorem frontWord_ofWord (w : UInt32) : frontWord (ofWord w) = w := by
  have h : w.toNat < 4294967296 := w.toNat_lt
  apply UInt32.toNat_inj.mp
  simp only [ofWord, frontWord, word, UInt32.toNat_ofNat', UInt8.toNat_ofNat']
  omega

@[simp] theorem length_ofWord (w : UInt32) : (ofWord w).length = 4 := rfl

theorem toNat_word (a b c d : UInt8) :
    (word a b c d).toNat =
      a.toNat + 256 * b.toNat + 65536 * c.toNat + 16777216 * d.toNat := by
  have ha := a.toNat_lt
  have hb := b.toNat_lt
  have hc := c.toNat_lt
  have hd := d.toNat_lt
  rw [word, UInt32.toNat_ofNat']
  omega

/-- Four bytes are those of their word. -/
theorem ofWord_frontWord {bytes : Bytes} (h : bytes.length = 4) :
    ofWord (frontWord bytes) = bytes := by
  match bytes, h with
  | [a, b, c, d], _ =>
    have ha := a.toNat_lt
    have hb := b.toNat_lt
    have hc := c.toNat_lt
    have hd := d.toNat_lt
    simp only [frontWord, ofWord, toNat_word, List.cons.injEq, and_true, ← UInt8.toNat_inj,
      UInt8.toNat_ofNat']
    omega

end Bytes

end DebugBridge
