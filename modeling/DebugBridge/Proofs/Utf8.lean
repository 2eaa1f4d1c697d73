import DebugBridge.Text.Utf8
import Mathlib.Algebra.Group.Nat.Defs

/-!
# Reading UTF-8 back

A character is a first byte, which says how many follow, and bytes that hold six bits each. `front`
reads exactly these bytes, so the strict reading accepts a byte string exactly if it is written so,
and gives back what was written.

The lenient reading starts anew at every byte that does not follow another one: what stands in front
of such a byte and what stands behind it are read apart. Hence a text without the replacement
character is found in what the lenient reading shows exactly if its bytes are found among the bytes.

* `ofString_eq_toUTF8` — the bytes of a string are those that the core library gives
* `front_encodeChar`, `front_char` — a character that is written is read, and the other way round
* `decode_eq_ok_iff` — the strict reading accepts exactly what is written
* `lenient_append` — the lenient reading starts anew
* `infix_lenient_iff` — what the lenient reading shows is what is written
-/

namespace DebugBridge.Utf8

/-! ## The bytes of a character -/

/-- The bytes that follow a first one: the last `more` digits of `n` in base 64. -/
def followers : Nat → Nat → Bytes
  | 0, _ => []
  | more + 1, n => UInt8.ofNat (0x80 + n / 64 ^ more % 64) :: followers more n

/-- Whether a byte follows another one inside a character. -/
def follows (b : UInt8) : Bool := 0x80 ≤ b.toNat && b.toNat ≤ 0xBF

theorem encodeChar_one {c : Char} (h : c.toNat < 0x80) :
    encodeChar c = [UInt8.ofNat c.toNat] := if_pos h

theorem encodeChar_two {c : Char} (h : 0x80 ≤ c.toNat) (h' : c.toNat < 0x800) :
    encodeChar c = UInt8.ofNat (0xC0 + c.toNat / 64) :: followers 1 c.toNat := by
  rw [encodeChar, if_neg (by omega), if_pos h']
  simp [followers]

theorem encodeChar_three {c : Char} (h : 0x800 ≤ c.toNat) (h' : c.toNat < 0x10000) :
    encodeChar c = UInt8.ofNat (0xE0 + c.toNat / 4096) :: followers 2 c.toNat := by
  rw [encodeChar, if_neg (by omega), if_neg (by omega), if_pos h']
  simp [followers]

theorem encodeChar_four {c : Char} (h : 0x10000 ≤ c.toNat) :
    encodeChar c = UInt8.ofNat (0xF0 + c.toNat / 262144) :: followers 3 c.toNat := by
  rw [encodeChar, if_neg (by omega), if_neg (by omega), if_neg (by omega)]
  simp [followers]

theorem encodeChar_ne_nil (c : Char) : encodeChar c ≠ [] := by
  unfold encodeChar
  simp only
  split
  · exact List.cons_ne_nil _ _
  split
  · exact List.cons_ne_nil _ _
  split <;> exact List.cons_ne_nil _ _

theorem toNat_lt (c : Char) : c.toNat < 0x110000 := by
  have h := c.valid
  simp only [UInt32.isValidChar, Nat.isValidChar] at h
  show c.val.toNat < _
  omega

theorem not_surrogate (c : Char) : c.toNat < 0xD800 ∨ 0xDFFF < c.toNat := by
  have h := c.valid
  simp only [UInt32.isValidChar, Nat.isValidChar] at h
  show c.val.toNat < _ ∨ _ < c.val.toNat
  omega

theorem le_of_mem_followers {more n : Nat} {b : UInt8} (h : b ∈ followers more n) :
    0x80 ≤ b.toNat := by
  induction more with
  | zero => cases h
  | succ more ih =>
    rcases List.mem_cons.mp h with rfl | h
    · rw [UInt8.toNat_ofNat']
      omega
    · exact ih h

/-- A byte of ASCII stands for itself. -/
theorem eq_of_mem_encodeChar {c : Char} {b : UInt8} (h : b ∈ encodeChar c) (hb : b.toNat < 0x80) :
    c.toNat = b.toNat := by
  have hlt := toNat_lt c
  have hlong : ∀ {first more}, 0x80 ≤ first → first < 0x100 →
      b ∉ UInt8.ofNat first :: followers more c.toNat := by
    intro first more hlow hhigh h
    rcases List.mem_cons.mp h with rfl | h
    · rw [UInt8.toNat_ofNat'] at hb
      omega
    · exact absurd (le_of_mem_followers h) (by omega)
  by_cases h₁ : c.toNat < 0x80
  · rw [encodeChar_one h₁, List.mem_singleton] at h
    rw [h, UInt8.toNat_ofNat']
    omega
  by_cases h₂ : c.toNat < 0x800
  · rw [encodeChar_two (by omega) h₂] at h
    exact absurd h (hlong (by omega) (by omega))
  by_cases h₃ : c.toNat < 0x10000
  · rw [encodeChar_three (by omega) h₃] at h
    exact absurd h (hlong (by omega) (by omega))
  · rw [encodeChar_four (by omega)] at h
    exact absurd h (hlong (by omega) (by omega))

/-- The bytes of a character are those that the core library gives. -/
theorem encodeChar_eq (c : Char) : encodeChar c = String.utf8EncodeChar c := by
  have hc : c.val.toNat = c.toNat := rfl
  have hlt := toNat_lt c
  simp only [encodeChar, String.utf8EncodeChar, hc]
  by_cases h₁ : c.toNat < 0x80
  · rw [if_pos h₁, if_pos (by omega)]
  rw [if_neg h₁, if_neg (show ¬ c.toNat ≤ 127 by omega)]
  by_cases h₂ : c.toNat < 0x800
  · rw [if_pos h₂, if_pos (by omega)]
    simp only [List.cons.injEq, and_true, ← UInt8.toNat_inj, UInt8.toNat_ofNat']
    omega
  rw [if_neg h₂, if_neg (show ¬ c.toNat ≤ 2047 by omega)]
  by_cases h₃ : c.toNat < 0x10000
  · rw [if_pos h₃, if_pos (by omega)]
    simp only [List.cons.injEq, and_true, ← UInt8.toNat_inj, UInt8.toNat_ofNat']
    omega
  · rw [if_neg h₃, if_neg (show ¬ c.toNat ≤ 65535 by omega)]
    simp only [List.cons.injEq, and_true, ← UInt8.toNat_inj, UInt8.toNat_ofNat']
    omega

/-- **The bytes of a string are those that the core library gives.** -/
theorem ofString_eq_toUTF8 (text : String) : ofString text = text.toUTF8.data.toList := by
  have hchars : encodeChar = String.utf8EncodeChar := funext encodeChar_eq
  have hbytes : text.toUTF8 = (text.toList.flatMap String.utf8EncodeChar).toByteArray := by
    have := String.toByteArray_ofList (l := text.toList)
    rwa [String.ofList_toList] at this
  rw [hbytes, List.toList_data_toByteArray, ofString, encode, hchars]

/-! ## One character -/

/-- Bytes that follow are read as the digits that they hold. -/
theorem follow_followers (n size : Nat) (rest : Bytes) (more : Nat) :
    follow 0x80 0xBF (n / 64 ^ more) size more (followers more n ++ rest) =
      .char (Char.ofNat n) (size + more) rest := by
  induction more generalizing size with
  | zero => simp [followers, follow]
  | succ more ih =>
    have hbyte : (UInt8.ofNat (0x80 + n / 64 ^ more % 64)).toNat = 0x80 + n / 64 ^ more % 64 := by
      rw [UInt8.toNat_ofNat']
      omega
    have hvalue : n / 64 ^ (more + 1) * 64 + (0x80 + n / 64 ^ more % 64) % 64 = n / 64 ^ more := by
      rw [Nat.pow_succ, ← Nat.div_div_eq_div_mul]
      omega
    rw [followers, List.cons_append, follow, hbyte, hvalue, ih]
    have hrange :
        (0x80 ≤ 0x80 + n / 64 ^ more % 64 && 0x80 + n / 64 ^ more % 64 ≤ 0xBF) = true := by
      simp only [Bool.and_eq_true, decide_eq_true_eq]
      omega
    rw [if_pos hrange, Nat.add_assoc, Nat.add_comm 1]

/-- The first of the bytes that follow may be bounded further. -/
theorem follow_first {low high n : Nat} (size more : Nat) (rest : Bytes)
    (hlow : low ≤ 0x80 + n / 64 ^ more % 64) (hhigh : 0x80 + n / 64 ^ more % 64 ≤ high) :
    follow low high (n / 64 ^ (more + 1)) size (more + 1) (followers (more + 1) n ++ rest) =
      .char (Char.ofNat n) (size + (more + 1)) rest := by
  have hbyte : (UInt8.ofNat (0x80 + n / 64 ^ more % 64)).toNat = 0x80 + n / 64 ^ more % 64 := by
    rw [UInt8.toNat_ofNat']
    omega
  have hfollow := follow_followers n size rest (more + 1)
  rw [followers, List.cons_append, follow, hbyte] at hfollow ⊢
  rw [if_pos (by simp only [Bool.and_eq_true, decide_eq_true_eq]; omega)] at hfollow ⊢
  exact hfollow

/-- **A character that is written is read**, whatever stands behind it. -/
theorem front_encodeChar {c : Char} {b : UInt8} {bytes : Bytes} (h : encodeChar c = b :: bytes)
    (rest : Bytes) : ∃ size, front b (bytes ++ rest) = .char c size rest := by
  have hlt := toNat_lt c
  have hsurrogate := not_surrogate c
  have hchar : Char.ofNat c.toNat = c := Char.ofNat_toNat c
  by_cases h₁ : c.toNat < 0x80
  · rw [encodeChar_one h₁] at h
    cases h
    refine ⟨1, ?_⟩
    have hb : (UInt8.ofNat c.toNat).toNat = c.toNat := by
      rw [UInt8.toNat_ofNat']
      omega
    simp only [front, hb, if_pos h₁, hchar, List.nil_append]
  by_cases h₂ : c.toNat < 0x800
  · rw [encodeChar_two (by omega) h₂] at h
    cases h
    have hb : (UInt8.ofNat (0xC0 + c.toNat / 64)).toNat = 0xC0 + c.toNat / 64 := by
      rw [UInt8.toNat_ofNat']
      omega
    have hvalue : (0xC0 + c.toNat / 64) % 32 = c.toNat / 64 ^ (0 + 1) := by omega
    refine ⟨2, ?_⟩
    simp only [front, hb]
    rw [if_neg (by omega), if_neg (by omega), if_pos (by omega), hvalue,
      follow_first 1 0 rest (by omega) (by omega), hchar]
  by_cases h₃ : c.toNat < 0x10000
  · rw [encodeChar_three (by omega) h₃] at h
    cases h
    have hb : (UInt8.ofNat (0xE0 + c.toNat / 4096)).toNat = 0xE0 + c.toNat / 4096 := by
      rw [UInt8.toNat_ofNat']
      omega
    have hvalue : (0xE0 + c.toNat / 4096) % 16 = c.toNat / 64 ^ (1 + 1) := by omega
    refine ⟨3, ?_⟩
    simp only [front, hb]
    rw [if_neg (by omega), if_neg (by omega), if_neg (by omega), hvalue]
    -- the second byte is bounded where the first alone would allow a shorter form or a surrogate
    split
    · rw [follow_first 1 1 rest (by omega) (by omega), hchar]
    · split
      · rw [follow_first 1 1 rest (by omega) (by omega), hchar]
      · rw [if_pos (by omega), follow_first 1 1 rest (by omega) (by omega), hchar]
  · rw [encodeChar_four (by omega)] at h
    cases h
    have hb : (UInt8.ofNat (0xF0 + c.toNat / 262144)).toNat = 0xF0 + c.toNat / 262144 := by
      rw [UInt8.toNat_ofNat']
      omega
    have hvalue : (0xF0 + c.toNat / 262144) % 8 = c.toNat / 64 ^ (2 + 1) := by omega
    refine ⟨4, ?_⟩
    simp only [front, hb]
    rw [if_neg (by omega), if_neg (by omega), if_neg (by omega), if_neg (by omega),
      if_neg (by omega), if_neg (by omega), hvalue]
    split
    · rw [follow_first 1 2 rest (by omega) (by omega), hchar]
    · split
      · rw [follow_first 1 2 rest (by omega) (by omega), hchar]
      · rw [if_pos (by omega), follow_first 1 2 rest (by omega) (by omega), hchar]

/-- Bytes that are read as following hold the digits of the character. -/
theorem follow_char {low high value size more : Nat} {bytes rest : Bytes} {c : Char} {s : Nat}
    (hlow : 0x80 ≤ low) (hhigh : high ≤ 0xBF)
    (h : follow low high value size more bytes = .char c s rest) :
    ∃ n, n / 64 ^ more = value ∧ c = Char.ofNat n ∧ bytes = followers more n ++ rest ∧
      ∀ k, more = k + 1 → low ≤ 0x80 + n / 64 ^ k % 64 ∧ 0x80 + n / 64 ^ k % 64 ≤ high := by
  induction more generalizing low high value size bytes with
  | zero =>
    rw [follow] at h
    cases h
    exact ⟨value, by simp, rfl, rfl, fun k hk => by omega⟩
  | succ more ih =>
    cases bytes with
    | nil => cases h
    | cons b bytes =>
      rw [follow] at h
      split at h
      · next hb =>
        simp only [Bool.and_eq_true, decide_eq_true_eq] at hb
        obtain ⟨n, hn, hc, hbytes, -⟩ := ih (Nat.le_refl _) (Nat.le_refl _) h
        have hdigit : 0x80 + n / 64 ^ more % 64 = b.toNat := by omega
        refine ⟨n, ?_, hc, ?_, fun k hk => ?_⟩
        · rw [Nat.pow_succ, ← Nat.div_div_eq_div_mul]
          omega
        · rw [followers, hdigit, UInt8.ofNat_toNat, hbytes, List.cons_append]
        · obtain rfl : more = k := by omega
          rw [hdigit]
          exact hb
      · cases h

theorem toNat_ofNat {n : Nat} (h : n < 0xD800 ∨ 0xDFFF < n) (hlt : n < 0x110000) :
    (Char.ofNat n).toNat = n := by
  have hvalid : n.isValidChar := h.imp id fun h => ⟨h, hlt⟩
  rw [Char.ofNat, dif_pos hvalid]
  rfl

/-- **What is read as a character is how that character is written.** -/
theorem front_char {c : Char} {b : UInt8} {bytes rest : Bytes} {size : Nat}
    (h : front b bytes = .char c size rest) : b :: bytes = encodeChar c ++ rest := by
  have hlt := b.toNat_lt
  have hb : ∀ {n : Nat}, n = b.toNat → UInt8.ofNat n = b := by
    rintro n rfl
    exact UInt8.ofNat_toNat
  -- one statement for each row of first bytes: the digits behind it decide the character
  have htwo : ∀ {low high : Nat}, 0xC2 ≤ b.toNat → b.toNat < 0xE0 → 0x80 ≤ low → high ≤ 0xBF →
      follow low high (b.toNat % 32) 1 1 bytes = .char c size rest →
      b :: bytes = encodeChar c ++ rest := by
    intro low high h₁ h₂ hlow hhigh h
    obtain ⟨n, hn, rfl, rfl, -⟩ := follow_char hlow hhigh h
    have hc : (Char.ofNat n).toNat = n := toNat_ofNat (by omega) (by omega)
    rw [encodeChar_two (by omega) (by omega), hc, hb (by omega), List.cons_append]
  have hthree : ∀ {low high : Nat}, 0xE0 ≤ b.toNat → b.toNat < 0xF0 → 0x80 ≤ low → high ≤ 0xBF →
      (b.toNat = 0xE0 → 0xA0 ≤ low) → (b.toNat = 0xED → high ≤ 0x9F) →
      follow low high (b.toNat % 16) 1 2 bytes = .char c size rest →
      b :: bytes = encodeChar c ++ rest := by
    intro low high h₁ h₂ hlow hhigh hfirst hlast h
    obtain ⟨n, hn, rfl, rfl, hk⟩ := follow_char hlow hhigh h
    obtain ⟨hk₁, hk₂⟩ := hk 1 rfl
    have hc : (Char.ofNat n).toNat = n := toNat_ofNat (by omega) (by omega)
    rw [encodeChar_three (by omega) (by omega), hc, hb (by omega), List.cons_append]
  have hfour : ∀ {low high : Nat}, 0xF0 ≤ b.toNat → b.toNat < 0xF5 → 0x80 ≤ low → high ≤ 0xBF →
      (b.toNat = 0xF0 → 0x90 ≤ low) → (b.toNat = 0xF4 → high ≤ 0x8F) →
      follow low high (b.toNat % 8) 1 3 bytes = .char c size rest →
      b :: bytes = encodeChar c ++ rest := by
    intro low high h₁ h₂ hlow hhigh hfirst hlast h
    obtain ⟨n, hn, rfl, rfl, hk⟩ := follow_char hlow hhigh h
    obtain ⟨hk₁, hk₂⟩ := hk 2 rfl
    have hc : (Char.ofNat n).toNat = n := toNat_ofNat (by omega) (by omega)
    rw [encodeChar_four (by omega), hc, hb (by omega), List.cons_append]
  unfold front at h
  simp only at h
  split at h
  · next h₁ =>
    cases h
    have hc : (Char.ofNat b.toNat).toNat = b.toNat := toNat_ofNat (by omega) (by omega)
    rw [encodeChar_one (by omega), hc, UInt8.ofNat_toNat, List.singleton_append]
  split at h
  · cases h
  split at h
  · exact htwo (by omega) (by omega) (Nat.le_refl _) (Nat.le_refl _) h
  split at h
  · exact hthree (by omega) (by omega) (by omega) (by omega) (by omega) (by omega) h
  split at h
  · exact hthree (by omega) (by omega) (by omega) (by omega) (by omega) (by omega) h
  split at h
  · exact hthree (by omega) (by omega) (by omega) (by omega) (by omega) (by omega) h
  split at h
  · exact hfour (by omega) (by omega) (by omega) (by omega) (by omega) (by omega) h
  split at h
  · exact hfour (by omega) (by omega) (by omega) (by omega) (by omega) (by omega) h
  split at h
  · exact hfour (by omega) (by omega) (by omega) (by omega) (by omega) (by omega) h
  · cases h

/-! ## The strict reading -/

theorem decodeFrom_append (position : Nat) (passed cs : List Char) :
    decodeFrom position passed (encode cs) = .ok (passed.reverse ++ cs) := by
  induction cs generalizing position passed with
  | nil => rw [encode, List.flatMap_nil, decodeFrom, List.append_nil]
  | cons c cs ih =>
    obtain ⟨b, bytes, hb⟩ := List.exists_cons_of_ne_nil (encodeChar_ne_nil c)
    obtain ⟨size, hfront⟩ := front_encodeChar hb (encode cs)
    have hencode : encode (c :: cs) = b :: (bytes ++ encode cs) := by
      rw [encode, List.flatMap_cons, hb, List.cons_append]
      rfl
    rw [hencode, decodeFrom]
    split
    · next heq =>
      rw [hfront] at heq
      cases heq
      rw [ih, List.reverse_cons, List.append_assoc, List.singleton_append]
    · next heq =>
      rw [hfront] at heq
      cases heq
    · next heq =>
      rw [hfront] at heq
      cases heq

theorem decodeFrom_ok {position : Nat} {passed cs : List Char} {bytes : Bytes}
    (h : decodeFrom position passed bytes = .ok cs) :
    ∃ more, cs = passed.reverse ++ more ∧ bytes = encode more := by
  fun_induction decodeFrom position passed bytes with
  | case1 position passed =>
    cases h
    exact ⟨[], (List.append_nil _).symm, rfl⟩
  | case2 position passed b bytes c size rest hfront _ ih =>
    obtain ⟨more, rfl, rfl⟩ := ih h
    refine ⟨c :: more, ?_, ?_⟩
    · rw [List.reverse_cons, List.append_assoc, List.singleton_append]
    · rw [front_char hfront]
      rfl
  | case3 => cases h
  | case4 => cases h

/-- **The strict reading accepts exactly what is written.** -/
theorem decode_eq_ok_iff {bytes : Bytes} {cs : List Char} :
    decode bytes = .ok cs ↔ bytes = encode cs := by
  constructor
  · intro h
    obtain ⟨more, rfl, hbytes⟩ := decodeFrom_ok h
    exact hbytes
  · rintro rfl
    exact decodeFrom_append 0 [] cs

/-! ## The lenient reading -/

/-- What the lenient reading shows of a front. -/
def Front.shown : Front → Char
  | .char c _ _ => c
  | _ => replacement

theorem lenientFrom_eq (passed : List Char) (bytes : Bytes) :
    lenientFrom passed bytes = passed.reverse ++ lenient bytes := by
  have hpassed : ∀ (c : Char) (before after : List Char),
      (c :: before).reverse ++ after = before.reverse ++ ([c].reverse ++ after) := by
    intro c before after
    rw [List.reverse_cons, List.append_assoc]
    rfl
  induction hn : bytes.length using Nat.strongRecOn generalizing passed bytes with
  | _ n ih =>
    subst hn
    cases bytes with
    | nil => rw [lenient, lenientFrom, lenientFrom, List.reverse_nil, List.append_nil]
    | cons b bytes =>
      have hrest := Front.rest_length b bytes
      rw [lenient, lenientFrom, lenientFrom]
      split
      · next c size rest hfront =>
        rw [hfront, Front.rest] at hrest
        rw [ih rest.length (by rw [List.length_cons]; omega) _ _ rfl,
          ih rest.length (by rw [List.length_cons]; omega) [c] _ rfl, hpassed]
      · next size rest hfront =>
        rw [hfront, Front.rest] at hrest
        rw [ih rest.length (by rw [List.length_cons]; omega) _ _ rfl,
          ih rest.length (by rw [List.length_cons]; omega) [replacement] _ rfl, hpassed]
      · rw [List.reverse_cons]
        rfl

@[simp] theorem lenient_nil : lenient [] = [] := by rw [lenient, lenientFrom, List.reverse_nil]

theorem lenient_cons (b : UInt8) (bytes : Bytes) :
    lenient (b :: bytes) = (front b bytes).shown :: lenient (front b bytes).rest := by
  rw [lenient, lenientFrom]
  split
  · next hfront => rw [lenientFrom_eq, hfront]; rfl
  · next hfront => rw [lenientFrom_eq, hfront]; rfl
  · next hfront => rw [hfront, Front.rest, lenient, lenientFrom]; rfl

/-- Behind the bytes of a character the reading goes on. -/
theorem lenient_encodeChar (c : Char) (rest : Bytes) :
    lenient (encodeChar c ++ rest) = c :: lenient rest := by
  obtain ⟨b, bytes, hb⟩ := List.exists_cons_of_ne_nil (encodeChar_ne_nil c)
  obtain ⟨size, hfront⟩ := front_encodeChar hb rest
  rw [hb, List.cons_append, lenient_cons, hfront]
  rfl

theorem lenient_encode (cs : List Char) (rest : Bytes) :
    lenient (encode cs ++ rest) = cs ++ lenient rest := by
  induction cs with
  | nil => rfl
  | cons c cs ih =>
    have hencode : encode (c :: cs) = encodeChar c ++ encode cs := rfl
    rw [hencode, List.append_assoc, lenient_encodeChar, ih, List.cons_append]

/-- A text is read from its own bytes. -/
theorem lenient_ofString (text : String) : lenient (ofString text) = text.toList := by
  have := lenient_encode text.toList []
  rwa [List.append_nil, lenient_nil, List.append_nil] at this

/-! ### Starting anew -/

/-- A byte that follows no other ends what stands in front of it, as the end of the bytes does. -/
theorem follow_append {b : UInt8} (hb : follows b = false) {low high : Nat} (hlow : 0x80 ≤ low)
    (hhigh : high ≤ 0xBF) (value size more : Nat) (bytes rest : Bytes) :
    (follow low high value size more (bytes ++ b :: rest)).shown =
        (follow low high value size more bytes).shown ∧
      (follow low high value size more (bytes ++ b :: rest)).rest =
        (follow low high value size more bytes).rest ++ b :: rest := by
  induction more generalizing low high value size bytes with
  | zero => exact ⟨rfl, rfl⟩
  | succ more ih =>
    cases bytes with
    | nil =>
      have hrange : ¬ (low ≤ b.toNat && b.toNat ≤ high) = true := by
        simp only [follows, Bool.and_eq_false_iff, decide_eq_false_iff_not] at hb
        simp only [Bool.and_eq_true, decide_eq_true_eq]
        omega
      have hbroken : follow low high value size (more + 1) (b :: rest) = .broken size (b :: rest) :=
        if_neg hrange
      rw [List.nil_append, hbroken]
      exact ⟨rfl, rfl⟩
    | cons b' bytes =>
      rw [List.cons_append, follow, follow]
      split
      · exact ih (Nat.le_refl _) (Nat.le_refl _) _ _ _
      · exact ⟨rfl, rfl⟩

theorem front_append {b : UInt8} (hb : follows b = false) (first : UInt8) (bytes rest : Bytes) :
    (front first (bytes ++ b :: rest)).shown = (front first bytes).shown ∧
      (front first (bytes ++ b :: rest)).rest = (front first bytes).rest ++ b :: rest := by
  unfold front
  simp only
  repeat' split
  all_goals first
    | exact follow_append hb (by omega) (by omega) ..
    | exact ⟨rfl, rfl⟩

/-- **The lenient reading starts anew at a byte that follows no other.** -/
theorem lenient_append {b : UInt8} (hb : follows b = false) (bytes rest : Bytes) :
    lenient (bytes ++ b :: rest) = lenient bytes ++ lenient (b :: rest) := by
  induction hn : bytes.length using Nat.strongRecOn generalizing bytes with
  | _ n ih =>
    subst hn
    cases bytes with
    | nil => rw [lenient_nil, List.nil_append, List.nil_append]
    | cons first bytes =>
      obtain ⟨hshown, hrest⟩ := front_append hb first bytes rest
      have hlength := Front.rest_length first bytes
      rw [List.cons_append, lenient_cons, hshown, hrest,
        ih _ (by rw [List.length_cons]; omega) _ rfl, lenient_cons first bytes, List.cons_append]

/-! ### Finding a text -/

theorem follow_rest_suffix (low high value size more : Nat) (bytes : Bytes) :
    (follow low high value size more bytes).rest <:+ bytes := by
  induction more generalizing low high value size bytes with
  | zero => exact List.suffix_refl _
  | succ more ih =>
    cases bytes with
    | nil => exact List.suffix_refl _
    | cons b bytes =>
      rw [follow]
      split
      · exact (ih ..).trans (List.suffix_cons _ _)
      · exact List.suffix_refl _

theorem front_rest_suffix (first : UInt8) (bytes : Bytes) :
    (front first bytes).rest <:+ bytes := by
  unfold front
  simp only
  repeat' split
  all_goals first
    | exact follow_rest_suffix ..
    | exact List.suffix_refl _

/-- Each rest of what the lenient reading shows is shown of a rest of the bytes. -/
theorem lenient_eq_append {bytes : Bytes} {before after : List Char}
    (h : lenient bytes = before ++ after) : ∃ rest, rest <:+ bytes ∧ lenient rest = after := by
  induction before generalizing bytes with
  | nil => exact ⟨bytes, List.suffix_refl _, h⟩
  | cons c before ih =>
    cases bytes with
    | nil =>
      rw [lenient_nil] at h
      cases h
    | cons b bytes =>
      rw [lenient_cons, List.cons_append] at h
      obtain ⟨rest, hrest, hafter⟩ := ih (List.cons.inj h).2
      exact ⟨rest, (hrest.trans (front_rest_suffix b bytes)).trans (List.suffix_cons _ _), hafter⟩

/-- A text in front of what the lenient reading shows is written in front of the bytes. -/
theorem encode_prefix_of_lenient {text after : List Char} (hplain : replacement ∉ text)
    {bytes : Bytes} (h : lenient bytes = text ++ after) : encode text <+: bytes := by
  induction text generalizing bytes with
  | nil => exact List.nil_prefix
  | cons c text ih =>
    obtain ⟨hc, htext⟩ := not_or.mp (mt List.mem_cons.mpr hplain)
    cases bytes with
    | nil =>
      rw [lenient_nil] at h
      cases h
    | cons b bytes =>
      rw [lenient_cons, List.cons_append] at h
      obtain ⟨hshown, hrest⟩ := List.cons.inj h
      cases hfront : front b bytes with
      | char c' size rest =>
        rw [hfront] at hshown hrest
        obtain rfl : c' = c := hshown
        rw [front_char hfront]
        exact (List.prefix_append_right_inj _).mpr (ih htext hrest)
      | broken size rest =>
        rw [hfront] at hshown
        exact absurd hshown hc
      | cut =>
        rw [hfront] at hshown
        exact absurd hshown hc

/-- The first byte of a character follows no other. -/
theorem follows_of_encodeChar {c : Char} {b : UInt8} {bytes : Bytes}
    (h : encodeChar c = b :: bytes) : follows b = false := by
  obtain ⟨size, hfront⟩ := front_encodeChar h []
  cases hb : follows b with
  | false => rfl
  | true =>
    simp only [follows, Bool.and_eq_true, decide_eq_true_eq] at hb
    rw [front] at hfront
    rw [if_neg (by omega), if_pos (by omega)] at hfront
    cases hfront

/-- **A text without the replacement character is found in what the lenient reading shows exactly
if its bytes are found among the bytes.** -/
theorem infix_lenient_iff {text : List Char} (hplain : replacement ∉ text) {bytes : Bytes} :
    text <:+: lenient bytes ↔ encode text <:+: bytes := by
  constructor
  · rintro ⟨before, after, h⟩
    rw [List.append_assoc] at h
    obtain ⟨rest, hrest, hshown⟩ := lenient_eq_append h.symm
    exact (encode_prefix_of_lenient hplain hshown).isInfix.trans hrest.isInfix
  · rintro ⟨before, after, rfl⟩
    cases text with
    | nil => exact List.nil_infix
    | cons c text =>
      obtain ⟨b, bytes, hb⟩ := List.exists_cons_of_ne_nil (encodeChar_ne_nil c)
      have hencode : encode (c :: text) = b :: (bytes ++ encode text) := by
        rw [← List.cons_append, ← hb]
        rfl
      have hshown := lenient_encode (c :: text) after
      rw [hencode, List.cons_append] at hshown
      rw [List.append_assoc, hencode, List.cons_append,
        lenient_append (follows_of_encodeChar hb), hshown]
      exact ⟨lenient before, lenient after, List.append_assoc _ _ _⟩

end DebugBridge.Utf8
