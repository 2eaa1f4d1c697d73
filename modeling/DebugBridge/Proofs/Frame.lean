import DebugBridge.Proofs.Reply
import DebugBridge.Proofs.Utf8

/-!
# Frames of requests

Writing the frame of a request and reading it are inverse to each other, up to the case of the four
digits: a frame is read exactly if its digits, of either case, announce the bytes that follow and
these are UTF-8, and writing the text again gives the frame with capital digits.

* `length?_eq_some_iff` — a length field is four digits and their value in base 16
* `Announces.capital` — its capital form is the one that is written
* `encode_eq`, `sendText_long` — what is framed and sent, and what is refused
* `decode_eq_ok_iff`, `decode_error` — what is read, and how everything else is refused
* `framing_inverse` — writing and reading together
-/

namespace DebugBridge.Frame

/-! ## Hexadecimal digits -/

/-- The small hexadecimal digit of a value below sixteen. -/
def lowerDigit (n : Nat) : UInt8 :=
  UInt8.ofNat (if n < 10 then 0x30 + n else 0x57 + n)

/-- `b` is the hexadecimal digit of `value`, capital or small. -/
def IsDigit (value : Nat) (b : UInt8) : Prop :=
  (Utf8.ofString "0123456789ABCDEF")[value]? = some b ∨
    (Utf8.ofString "0123456789abcdef")[value]? = some b

/-- A length field announces a size: four hexadecimal digits, the highest one first. -/
inductive Announces : Bytes → Nat → Prop
  | digits {a b c d : Nat} {a' b' c' d' : UInt8} :
      IsDigit a a' → IsDigit b b' → IsDigit c c' → IsDigit d d' →
      Announces [a', b', c', d'] (a * 4096 + b * 256 + c * 16 + d)

/-- The capital letter of a small one; every other byte stays as it is. -/
def capital (b : UInt8) : UInt8 :=
  if 0x61 ≤ b.toNat ∧ b.toNat ≤ 0x7A then UInt8.ofNat (b.toNat - 0x20) else b

theorem capitals : ∀ value < 16,
    (Utf8.ofString "0123456789ABCDEF")[value]? = some (upperDigit value) ∧
      capital (upperDigit value) = upperDigit value := by decide

theorem smalls : ∀ value < 16,
    (Utf8.ofString "0123456789abcdef")[value]? = some (lowerDigit value) ∧
      capital (lowerDigit value) = upperDigit value := by decide

theorem isDigit_iff {value : Nat} {b : UInt8} :
    IsDigit value b ↔ value < 16 ∧ (b = upperDigit value ∨ b = lowerDigit value) := by
  by_cases hlt : value < 16
  · rw [IsDigit, (capitals value hlt).1, (smalls value hlt).1, Option.some_inj, Option.some_inj]
    exact ⟨fun h => ⟨hlt, h.imp Eq.symm Eq.symm⟩, fun h => h.2.imp Eq.symm Eq.symm⟩
  · have hcapitals : (Utf8.ofString "0123456789ABCDEF").length = 16 := rfl
    have hsmalls : (Utf8.ofString "0123456789abcdef").length = 16 := rfl
    rw [IsDigit, List.getElem?_eq_none (by omega), List.getElem?_eq_none (by omega)]
    refine ⟨fun h => ?_, fun h => absurd h.1 hlt⟩
    rcases h with h | h <;> cases h

theorem IsDigit.lt {value : Nat} {b : UInt8} (h : IsDigit value b) : value < 16 :=
  (isDigit_iff.mp h).1

theorem IsDigit.capital {value : Nat} {b : UInt8} (h : IsDigit value b) :
    Frame.capital b = upperDigit value := by
  obtain ⟨hlt, rfl | rfl⟩ := isDigit_iff.mp h
  · exact (capitals value hlt).2
  · exact (smalls value hlt).2

theorem toNat_upperDigit {value : Nat} (h : value < 16) :
    (upperDigit value).toNat = if value < 10 then 0x30 + value else 0x37 + value := by
  rw [upperDigit, UInt8.toNat_ofNat']
  split <;> omega

theorem toNat_lowerDigit {value : Nat} (h : value < 16) :
    (lowerDigit value).toNat = if value < 10 then 0x30 + value else 0x57 + value := by
  rw [lowerDigit, UInt8.toNat_ofNat']
  split <;> omega

/-- **A digit is read by its value**, in either case. -/
theorem hexDigit?_eq_some_iff {b : UInt8} {value : Nat} :
    hexDigit? b = some value ↔ IsDigit value b := by
  rw [isDigit_iff]
  constructor
  · intro h
    have hlt : value < 16 := by
      unfold hexDigit? at h
      grind
    rw [← UInt8.toNat_inj, ← UInt8.toNat_inj, toNat_upperDigit hlt, toNat_lowerDigit hlt]
    unfold hexDigit? at h
    grind
  · rintro ⟨hlt, rfl | rfl⟩
    · simp only [hexDigit?, toNat_upperDigit hlt]
      grind
    · simp only [hexDigit?, toNat_lowerDigit hlt]
      grind

/-! ## Length fields -/

/-- **A length field is four digits**, and its number is their value in base 16. -/
theorem length?_eq_some_iff {field : Bytes} {size : Nat} :
    length? field = some size ↔ Announces field size := by
  constructor
  · intro h
    unfold length? at h
    split at h
    · next a b c d =>
      obtain ⟨a', ha, h⟩ := Option.bind_eq_some_iff.mp h
      obtain ⟨b', hb, h⟩ := Option.bind_eq_some_iff.mp h
      obtain ⟨c', hc, h⟩ := Option.bind_eq_some_iff.mp h
      obtain ⟨d', hd, h⟩ := Option.bind_eq_some_iff.mp h
      cases h
      exact .digits (hexDigit?_eq_some_iff.mp ha) (hexDigit?_eq_some_iff.mp hb)
        (hexDigit?_eq_some_iff.mp hc) (hexDigit?_eq_some_iff.mp hd)
    · cases h
  · rintro ⟨ha, hb, hc, hd⟩
    simp only [length?, hexDigit?_eq_some_iff.mpr ha, hexDigit?_eq_some_iff.mpr hb,
      hexDigit?_eq_some_iff.mpr hc, hexDigit?_eq_some_iff.mpr hd]
    rfl

theorem Announces.length {field : Bytes} {size : Nat} (h : Announces field size) :
    field.length = 4 := by
  cases h
  rfl

theorem Announces.le {field : Bytes} {size : Nat} (h : Announces field size) : size ≤ maxSize := by
  rcases h with ⟨ha, hb, hc, hd⟩
  have ha := ha.lt
  have hb := hb.lt
  have hc := hc.lt
  have hd := hd.lt
  rw [maxSize]
  omega

/-- **The capital form of a length field is the one that is written.** -/
theorem Announces.capital {field : Bytes} {size : Nat} (h : Announces field size) :
    field.map Frame.capital = lengthField size := by
  rcases h with @⟨a, b, c, d, a', b', c', d', ha, hb, hc, hd⟩
  have hda := ha.lt
  have hdb := hb.lt
  have hdc := hc.lt
  have hdd := hd.lt
  have h₁ : (a * 4096 + b * 256 + c * 16 + d) / 4096 % 16 = a := by omega
  have h₂ : (a * 4096 + b * 256 + c * 16 + d) / 256 % 16 = b := by omega
  have h₃ : (a * 4096 + b * 256 + c * 16 + d) / 16 % 16 = c := by omega
  have h₄ : (a * 4096 + b * 256 + c * 16 + d) % 16 = d := by omega
  rw [lengthField, h₁, h₂, h₃, h₄, ← ha.capital, ← hb.capital, ← hc.capital, ← hd.capital]
  rfl

theorem isDigit_upperDigit {value : Nat} (h : value < 16) : IsDigit value (upperDigit value) :=
  isDigit_iff.mpr ⟨h, .inl rfl⟩

theorem announces_lengthField {size : Nat} (h : size ≤ maxSize) :
    Announces (lengthField size) size := by
  rw [maxSize] at h
  have hsize : size / 4096 % 16 * 4096 + size / 256 % 16 * 256 + size / 16 % 16 * 16 + size % 16 =
      size := by omega
  have hdigits := Announces.digits (isDigit_upperDigit (Nat.mod_lt (size / 4096) (by decide)))
    (isDigit_upperDigit (Nat.mod_lt (size / 256) (by decide)))
    (isDigit_upperDigit (Nat.mod_lt (size / 16) (by decide)))
    (isDigit_upperDigit (Nat.mod_lt size (by decide)))
  rwa [hsize] at hdigits

/-! ## Writing -/

theorem length_ofString (text : String) : (Utf8.ofString text).length = text.utf8ByteSize := by
  rw [Utf8.ofString_eq_toUTF8]
  rfl

/-- There are texts of every size. -/
theorem exists_size (n : Nat) : ∃ text : String, text.toUTF8.size = n := by
  have hbyte : (Utf8.encodeChar 'a').length = 1 := rfl
  refine ⟨String.ofList (List.replicate n 'a'), ?_⟩
  show (String.ofList (List.replicate n 'a')).utf8ByteSize = n
  rw [← length_ofString, Utf8.ofString, String.toList_ofList, Utf8.encode, List.length_flatMap,
    List.map_replicate, List.sum_replicate_nat, hbyte, Nat.mul_one]

/-- What is framed, and what is refused. -/
theorem encode_eq (text : String) :
    encode text =
      if text.utf8ByteSize ≤ maxSize then
        .ok (lengthField text.utf8ByteSize ++ Utf8.ofString text)
      else .error (.requestTooLong text.utf8ByteSize) := by
  simp only [encode, length_ofString]
  split
  · next h => rw [if_neg (Nat.not_le.mpr h)]
  · next h => rw [if_pos (Nat.not_lt.mp h)]

/-- A text that cannot be framed is not sent at all. -/
theorem sendText_long {text : String} (h : maxSize < text.utf8ByteSize) (link : Link) :
    Exchange.sendText text link = (.error (.requestTooLong text.utf8ByteSize), link) := by
  rw [Exchange.sendText, encode_eq, if_neg (Nat.not_le.mpr h)]
  rfl

/-! ## Reading -/

/-- **A frame is read exactly if its digits announce the bytes of the text behind them.** -/
theorem decode_eq_ok_iff {frame : Bytes} {text : String} :
    decode frame = .ok text ↔
      ∃ field, Announces field text.utf8ByteSize ∧ frame = field ++ Utf8.ofString text := by
  constructor
  · intro h
    unfold decode at h
    split at h
    · cases h
    · cases hsize : length? (frame.take 4) with
      | none =>
        rw [parseLength, hsize] at h
        cases h
      | some size =>
        rw [parseLength, hsize] at h
        replace h : (if (frame.drop 4).length ≠ size then _ else _) = Except.ok text := h
        split at h
        · cases h
        · next hlength =>
          split at h
          · next cs hcs =>
            cases h
            have hbytes : frame.drop 4 = Utf8.ofString (String.ofList cs) := by
              rw [Utf8.decode_eq_ok_iff.mp hcs, Utf8.ofString, String.toList_ofList]
            refine ⟨frame.take 4, ?_, ?_⟩
            · rw [← length_ofString, ← hbytes, Decidable.not_not.mp hlength]
              exact length?_eq_some_iff.mp hsize
            · rw [← hbytes, List.take_append_drop]
          · cases h
  · rintro ⟨field, hfield, rfl⟩
    have hlength := hfield.length
    have htake : (field ++ Utf8.ofString text).take 4 = field := by
      rw [← hlength, List.take_left]
    have hdrop : (field ++ Utf8.ofString text).drop 4 = Utf8.ofString text := by
      rw [← hlength, List.drop_left]
    have hdecode : Utf8.decode (Utf8.ofString text) = .ok text.toList :=
      Utf8.decode_eq_ok_iff.mpr rfl
    have hlong : ¬ (field ++ Utf8.ofString text).length < 4 := by
      rw [List.length_append]
      omega
    rw [decode, if_neg hlong, htake, hdrop, parseLength, length?_eq_some_iff.mpr hfield]
    show (if (Utf8.ofString text).length ≠ text.utf8ByteSize then _ else _) = _
    rw [if_neg (Decidable.not_not.mpr (length_ofString text)), hdecode]
    show Except.ok (String.ofList text.toList) = _
    rw [String.ofList_toList]

/-- A frame that is not read is malformed. -/
theorem decode_error {frame : Bytes} {e : Failure} (h : decode frame = .error e) :
    ∃ message, e = .malformed message := by
  unfold decode at h
  split at h
  · cases h
    exact ⟨_, rfl⟩
  · cases hsize : length? (frame.take 4) with
    | none =>
      rw [parseLength, hsize] at h
      cases h
      exact ⟨_, rfl⟩
    | some size =>
      rw [parseLength, hsize] at h
      replace h : (if (frame.drop 4).length ≠ size then _ else _) = Except.error e := h
      split at h
      · cases h
        exact ⟨_, rfl⟩
      · split at h
        · cases h
        · cases h
          exact ⟨_, rfl⟩

/-- What was framed is read back. -/
theorem decode_encode {text : String} {frame : Bytes} (h : encode text = .ok frame) :
    decode frame = .ok text := by
  rw [encode_eq] at h
  split at h
  · next hle =>
    cases h
    exact decode_eq_ok_iff.mpr ⟨_, announces_lengthField hle, rfl⟩
  · cases h

/-- Framing what was read gives the frame with capital digits. -/
theorem encode_of_decode {text : String} {frame : Bytes} (h : decode frame = .ok text) :
    encode text = .ok ((frame.take 4).map capital ++ frame.drop 4) := by
  obtain ⟨field, hfield, rfl⟩ := decode_eq_ok_iff.mp h
  rw [encode_eq, if_pos hfield.le, ← hfield.capital, ← hfield.length, List.take_left,
    List.drop_left]

/-- **Framing a request and reading its frame are inverse to each other**, over all texts and all
byte strings: what is framed, what is refused and then not sent, what is read back, what is read at
all, what its canonical form is, and how everything else is refused. -/
theorem framing_inverse :
    (∀ text : String,
      ((∃ frame, encode text = .ok frame) ↔ text.toUTF8.size ≤ 0xFFFF) ∧
      (0xFFFF < text.toUTF8.size →
        encode text = .error (.requestTooLong text.toUTF8.size) ∧
        ∀ link, Exchange.sendText text link =
          (.error (.requestTooLong text.toUTF8.size), link)) ∧
      ∀ frame, encode text = .ok frame → decode frame = .ok text) ∧
    ∀ frame : Bytes,
      (∀ text, decode frame = .ok text ↔
        ∃ field, Announces field text.toUTF8.size ∧ frame = field ++ text.toUTF8.data.toList) ∧
      (∀ text, decode frame = .ok text →
        encode text = .ok ((frame.take 4).map capital ++ frame.drop 4)) ∧
      ((∀ text, decode frame ≠ .ok text) →
        ∃ message, decode frame = .error (.malformed message)) := by
  refine ⟨fun text => ⟨?_, fun hlong => ?_, fun frame => decode_encode⟩,
    fun frame => ⟨fun text => ?_, fun text => encode_of_decode, fun hnone => ?_⟩⟩
  · show (∃ frame, encode text = .ok frame) ↔ text.utf8ByteSize ≤ maxSize
    rw [encode_eq]
    split
    · next h => exact ⟨fun _ => h, fun _ => ⟨_, rfl⟩⟩
    · next h => exact ⟨fun ⟨_, hframe⟩ => (by cases hframe), fun hle => absurd hle h⟩
  · refine ⟨?_, sendText_long hlong⟩
    rw [encode_eq]
    exact if_neg (Nat.not_le.mpr hlong)
  · rw [← Utf8.ofString_eq_toUTF8]
    exact decode_eq_ok_iff
  · cases h : decode frame with
    | ok text => exact absurd h (hnone text)
    | error e =>
      obtain ⟨message, rfl⟩ := decode_error h
      exact ⟨message, rfl⟩

/-- A frame with small digits is read, and its text is framed with capital ones; there is a text of
65536 bytes, and it is not sent. -/
theorem framing_small_digits :
    (decode (Utf8.ofString "000chost:version") = .ok "host:version" ∧
      encode "host:version" = .ok (Utf8.ofString "000Chost:version")) ∧
    ∃ text : String, text.toUTF8.size = 65536 ∧ ∀ link, (Exchange.sendText text link).2 = link := by
  have hfield : Announces (Utf8.ofString "000c") 12 :=
    @Announces.digits 0 0 0 12 48 48 48 99 (.inl rfl) (.inl rfl) (.inl rfl) (.inr rfl)
  have hread : decode (Utf8.ofString "000chost:version") = .ok "host:version" :=
    ((framing_inverse.2 _).1 _).mpr ⟨_, hfield, by decide⟩
  obtain ⟨text, hsize⟩ := exists_size 65536
  refine ⟨⟨hread, (framing_inverse.2 _).2.1 _ hread⟩, text, hsize, fun link => ?_⟩
  rw [((framing_inverse.1 text).2.1 (by omega)).2 link]

end DebugBridge.Frame
