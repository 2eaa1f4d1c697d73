import DebugBridge.Output.Size
import DebugBridge.Proofs.Text
import Mathlib.Algebra.Order.Field.Rat
import Mathlib.Tactic.FieldSimp
import Mathlib.Tactic.Linarith
import Mathlib.Tactic.NormNum

/-!
# What the text of a size says

The text of a size is a decimal number and a unit, and `read?` takes it for that. Below 1024^4 bytes
the number is within a twentieth of a unit of the size, and a larger size never shows less.

The unit is chosen before the number is rounded. So a size that lacks at most a twentieth of a unit
to 1024 of it is shown as 1024.0, and not as one of the next unit.

* `le_roundedQuotient_iff` — what rounding gives; near, monotone and exact by it
* `read?_text` — what the text of a size says
* `text_magnitude` — how far that is from the size, and what larger sizes show
* `text_full_unit` — a size that is shown as 1024.0 units
-/

namespace DebugBridge.Size

/-! ## Rounding -/

/-- **A quotient is rounded to the nearest number**: it reaches `m` from the middle below `m` on,
and in the middle itself if `m` is even. -/
theorem le_roundedQuotient_iff {m n d : Nat} (hd : 0 < d) :
    m ≤ roundedQuotient n d ↔
      2 * (m * d) < 2 * n + d ∨ 2 * (m * d) = 2 * n + d ∧ m % 2 = 0 := by
  have hn := Nat.div_add_mod' n d
  have hr := Nat.mod_lt n hd
  have hnext : (n / d + 1) * d = n / d * d + d := Nat.succ_mul _ _
  have hround : roundedQuotient n d =
      if 2 * (n % d) < d then n / d
      else if d < 2 * (n % d) then n / d + 1
      else if n / d % 2 = 0 then n / d else n / d + 1 := rfl
  rw [hround]
  -- below the quotient, at the next number, or above it
  rcases Nat.lt_trichotomy m (n / d + 1) with hlt | rfl | hgt
  · have := Nat.mul_le_mul_right d (Nat.le_of_lt_succ hlt)
    grind
  · grind
  · have := Nat.mul_le_mul_right d (Nat.succ_le_of_lt hgt)
    have hafter : (n / d + 1 + 1) * d = (n / d + 1) * d + d := Nat.succ_mul _ _
    grind

theorem roundedQuotient_mono {m n d : Nat} (hd : 0 < d) (h : m ≤ n) :
    roundedQuotient m d ≤ roundedQuotient n d := by
  rw [le_roundedQuotient_iff hd]
  have := (le_roundedQuotient_iff hd).mp (Nat.le_refl (roundedQuotient m d))
  omega

/-- A rounded quotient is at most half of the divisor away. -/
theorem roundedQuotient_near (n : Nat) {d : Nat} (hd : 0 < d) :
    2 * (roundedQuotient n d * d) ≤ 2 * n + d ∧ 2 * n ≤ 2 * (roundedQuotient n d * d) + d := by
  have hreached := (le_roundedQuotient_iff hd).mp (Nat.le_refl (roundedQuotient n d))
  have hmissed := mt (le_roundedQuotient_iff hd).mpr (Nat.lt_irrefl (roundedQuotient n d))
  have hnext := Nat.succ_mul (roundedQuotient n d) d
  omega

/-! ## Reading an amount -/

/-- An amount: a number of units, each of `1024 ^ index` bytes. -/
structure Amount where
  number : ℚ
  index : Nat

/-- The bytes of an amount. -/
def Amount.bytes (a : Amount) : ℚ := a.number * 1024 ^ a.index

/-- The value of decimal digits, which may have a point between them. -/
def decimal? (cs : List Char) : Option ℚ :=
  match Text.splitFirst? '.' cs with
  | none => (Text.digits? 10 cs).map fun n => (n : ℚ)
  | some (whole, part) =>
    match Text.digits? 10 whole, Text.digits? 10 part with
    | some n, some m => some (n + m / 10 ^ part.length)
    | _, _ => none

/-- The units and their letters, from bytes on. -/
def unitOf? : Char → Option Nat
  | 'B' => some 0
  | 'K' => some 1
  | 'M' => some 2
  | 'G' => some 3
  | 'T' => some 4
  | _ => none

/-- The amount that a text gives: a decimal number, and one letter for the unit behind it. -/
def read? (text : String) : Option Amount := do
  let letter ← text.toList.getLast?
  let index ← unitOf? letter
  let number ← decimal? text.toList.dropLast
  return ⟨number, index⟩

theorem decimal?_toString (n : Nat) : decimal? (toString n).toList = some (n : ℚ) := by
  rw [decimal?, Text.splitFirst?_eq_none_iff.mpr (Text.notMem_toString (by decide)),
    Text.toList_toString, Text.digits?_toDigits]
  rfl

/-- A number of tenths is read back. -/
theorem decimal?_tenths (t : Nat) :
    decimal? (toString (t / 10) ++ "." ++ toString (t % 10)).toList = some (t / 10 : ℚ) := by
  have hdigit : (Nat.toDigits 10 (t % 10)).length = 1 := by
    rw [Nat.toDigits_of_lt_base (Nat.mod_lt t (by decide))]
    rfl
  have hvalue : ((t / 10 : Nat) : ℚ) + (t % 10 : Nat) / 10 = t / 10 := by
    have hparts : 10 * ((t / 10 : Nat) : ℚ) + (t % 10 : Nat) = t := by
      exact_mod_cast Nat.div_add_mod t 10
    linarith
  rw [decimal?, Text.toList_joined "." '.' rfl,
    Text.splitFirst?_eq_some_iff.mpr ⟨rfl, Text.notMem_toString (by decide)⟩]
  simp only [Text.toList_toString, Text.digits?_toDigits, hdigit, pow_one]
  rw [hvalue]

theorem unit_letter {index : Nat} (h : index < 5) :
    ∃ letter, units.getD index "" = String.singleton letter ∧
      unitOf? letter = some index := by
  match index, h with
  | 0, _ => exact ⟨'B', rfl, rfl⟩
  | 1, _ => exact ⟨'K', rfl, rfl⟩
  | 2, _ => exact ⟨'M', rfl, rfl⟩
  | 3, _ => exact ⟨'G', rfl, rfl⟩
  | 4, _ => exact ⟨'T', rfl, rfl⟩

theorem read?_append {number : String} {v : ℚ} {index : Nat}
    (hnumber : decimal? number.toList = some v) (hindex : index < 5) :
    read? (number ++ units.getD index "") = some ⟨v, index⟩ := by
  obtain ⟨letter, hletter, hunit⟩ := unit_letter hindex
  have hlist : (number ++ String.singleton letter).toList = number.toList ++ [letter] := by
    rw [String.toList_append, String.toList_singleton]
  rw [read?, hletter, hlist, List.getLast?_concat, List.dropLast_concat]
  simp only [Option.bind_eq_bind, Option.bind_some, hunit, hnumber]
  rfl

/-! ## The amount that is shown -/

variable {size larger : Nat}

theorem significant_of_lt (h : size < 1024 ^ 4) : significant size = size :=
  if_pos (Nat.lt_trans h (by decide))

/-- The unit of a size is the largest of which it has at least one. -/
theorem unitIndex_spec (h : size < 1024 ^ 4) :
    unitIndex size < 4 ∧ size < 1024 ^ (unitIndex size + 1) ∧
      (unitIndex size ≠ 0 → 1024 ^ unitIndex size ≤ size) := by
  have hpows : Nat.pow 1024 2 = 1024 ^ 2 ∧ Nat.pow 1024 3 = 1024 ^ 3 ∧ Nat.pow 1024 4 = 1024 ^ 4 :=
    ⟨rfl, rfl, rfl⟩
  rw [unitIndex, hpows.1, hpows.2.1, hpows.2.2]
  split_ifs <;> simp <;> omega

/-- The amount that the text of a size gives. -/
def shown (size : Nat) : Amount :=
  if unitIndex size = 0 then ⟨size, 0⟩
  else ⟨tenths size (unitIndex size) / 10, unitIndex size⟩

/-- **The text of a size can be read.** -/
theorem read?_text (h : size < 1024 ^ 4) : read? (text size) = some (shown size) := by
  have hindex := (unitIndex_spec h).1
  rw [text, shown, significant_of_lt h]
  split_ifs with hzero
  · simp only [hzero]
    exact read?_append (decimal?_toString size) (by decide)
  · exact read?_append (decimal?_tenths _) (by omega)

/-- The two forms of amounts that are shown: bytes, and tenths of the largest unit of which the size
has at least one. -/
theorem shown_cases (h : size < 1024 ^ 4) :
    size < 1024 ∧ shown size = ⟨size, 0⟩ ∨
      ∃ index, index ≠ 0 ∧ index < 4 ∧ 1024 ^ index ≤ size ∧ size < 1024 ^ (index + 1) ∧
        shown size = ⟨tenths size index / 10, index⟩ := by
  obtain ⟨hfour, hhigh, hlow⟩ := unitIndex_spec h
  by_cases hzero : unitIndex size = 0
  · rw [hzero] at hhigh
    exact .inl ⟨hhigh, if_pos hzero⟩
  · exact .inr ⟨_, hzero, hfour, hlow hzero, hhigh, if_neg hzero⟩

/-! ## How far that is from the size -/

section Tenths

variable {n index : Nat}

/-- What `le_roundedQuotient_iff` says of tenths. -/
theorem le_tenths_iff {m : Nat} :
    m ≤ tenths n index ↔ 2 * (m * 1024 ^ index) < 20 * n + 1024 ^ index ∨
      2 * (m * 1024 ^ index) = 20 * n + 1024 ^ index ∧ m % 2 = 0 := by
  have hn : 20 * n = 2 * (n * 10) := by omega
  rw [hn]
  exact le_roundedQuotient_iff (Nat.pow_pos (by decide))

theorem tenths_mono {m : Nat} (h : m ≤ n) (index : Nat) : tenths m index ≤ tenths n index :=
  roundedQuotient_mono (Nat.pow_pos (by decide)) (Nat.mul_le_mul_right 10 h)

theorem tenths_near (n index : Nat) :
    2 * (tenths n index * 1024 ^ index) ≤ 20 * n + 1024 ^ index ∧
      20 * n ≤ 2 * (tenths n index * 1024 ^ index) + 1024 ^ index := by
  have hn : 20 * n = 2 * (n * 10) := by omega
  rw [hn]
  exact roundedQuotient_near (n * 10) (Nat.pow_pos (by decide))

theorem ten_le_tenths (h : 1024 ^ index ≤ n) : 10 ≤ tenths n index := by
  rw [le_tenths_iff]
  have : 0 < 1024 ^ index := Nat.pow_pos (by decide)
  omega

theorem tenths_le (h : n < 1024 ^ (index + 1)) : tenths n index ≤ 10240 := by
  rw [← Nat.lt_succ_iff, ← Nat.not_le, le_tenths_iff]
  rw [Nat.pow_succ] at h
  omega

/-- The middle below 1024 units is rounded up, since 10240 tenths are even. -/
theorem full_le_tenths_iff :
    10240 ≤ tenths n index ↔ 20 * 1024 ^ (index + 1) ≤ 20 * n + 1024 ^ index := by
  rw [le_tenths_iff, Nat.pow_succ]
  omega

end Tenths

/-- What an amount tells of a size: in bytes the size itself, and in a larger unit, of which there is
at least one in the size and in the amount, the size up to a twentieth of the unit. -/
structure Amount.Tells (a : Amount) (size : Nat) : Prop where
  unit : (a.index ≠ 0 → 1024 ^ a.index ≤ size) ∧ size < 1024 ^ (a.index + 1)
  exact : a.index = 0 → a.number = size
  one_le : a.index ≠ 0 → 1 ≤ a.number
  near : |a.number - size / 1024 ^ a.index| ≤ 1 / 20
  le : a.number ≤ 1024

theorem tells_bytes (h : size < 1024) : Amount.Tells ⟨size, 0⟩ size where
  unit := ⟨fun hne => absurd rfl hne, by rwa [Nat.zero_add, Nat.pow_one]⟩
  exact _ := rfl
  one_le hne := absurd rfl hne
  near := by
    show |(size : ℚ) - size / 1024 ^ 0| ≤ 1 / 20
    norm_num
  le := by
    show (size : ℚ) ≤ 1024
    exact_mod_cast Nat.le_of_lt h

theorem tenths_near_unit (size index : Nat) :
    |(tenths size index / 10 : ℚ) - size / 1024 ^ index| ≤ 1 / 20 := by
  obtain ⟨hle, hge⟩ := tenths_near size index
  generalize tenths size index = t at hle hge ⊢
  have hunit : (0 : ℚ) < 1024 ^ index := by positivity
  -- in units instead of bytes
  have hx : (size : ℚ) = size / 1024 ^ index * 1024 ^ index :=
    (div_mul_cancel₀ _ hunit.ne').symm
  have hle : 2 * (t * (1024 : ℚ) ^ index) ≤ 20 * size + 1024 ^ index := by exact_mod_cast hle
  have hge : 20 * (size : ℚ) ≤ 2 * (t * 1024 ^ index) + 1024 ^ index := by exact_mod_cast hge
  rw [hx] at hle hge
  generalize (size : ℚ) / 1024 ^ index = x at hle hge ⊢
  have hle : 2 * (t : ℚ) ≤ 20 * x + 1 := le_of_mul_le_mul_right (by linarith) hunit
  have hge : 20 * x ≤ 2 * (t : ℚ) + 1 := le_of_mul_le_mul_right (by linarith) hunit
  rw [abs_le]
  constructor
  · linarith
  · linarith

theorem tells_tenths {index : Nat} (hne : index ≠ 0) (hlow : 1024 ^ index ≤ size)
    (hhigh : size < 1024 ^ (index + 1)) :
    Amount.Tells ⟨tenths size index / 10, index⟩ size where
  unit := ⟨fun _ => hlow, hhigh⟩
  exact hzero := absurd hzero hne
  one_le _ := by
    have hten : (10 : ℚ) ≤ tenths size index := by exact_mod_cast ten_le_tenths hlow
    show (1 : ℚ) ≤ tenths size index / 10
    linarith
  near := tenths_near_unit size index
  le := by
    have hfull : (tenths size index : ℚ) ≤ 10240 := by exact_mod_cast tenths_le hhigh
    show (tenths size index / 10 : ℚ) ≤ 1024
    linarith

/-- **The amount that is shown tells the size.** -/
theorem shown_tells (h : size < 1024 ^ 4) : (shown size).Tells size := by
  obtain ⟨hlt, heq⟩ | ⟨index, hne, -, hlow, hhigh, heq⟩ := shown_cases h
  · rw [heq]
    exact tells_bytes hlt
  · rw [heq]
    exact tells_tenths hne hlow hhigh

/-! ## Sizes just below a unit -/

theorem index_mono {index index' : Nat} (hlow : 1024 ^ index ≤ size) (h : size ≤ larger)
    (hhigh : larger < 1024 ^ (index' + 1)) : index ≤ index' :=
  Nat.lt_succ_iff.mp
    ((Nat.pow_lt_pow_iff_right (by decide)).mp (Nat.lt_of_le_of_lt (hlow.trans h) hhigh))

/-- A size that lacks at most a twentieth of a unit to 1024 of it, and so to one of the next unit. -/
def RoundsUp (size : Nat) : Prop :=
  ∃ index ∈ [1, 2, 3], 20 * 1024 ^ (index + 1) ≤ 20 * size + 1024 ^ index ∧
    size < 1024 ^ (index + 1)

instance (size : Nat) : Decidable (RoundsUp size) :=
  inferInstanceAs (Decidable (∃ index ∈ [1, 2, 3],
    20 * 1024 ^ (index + 1) ≤ 20 * size + 1024 ^ index ∧ size < 1024 ^ (index + 1)))

theorem not_roundsUp_bytes (h : size < 1024) : ¬ RoundsUp size := by
  rintro ⟨index, hmem, hnear, -⟩
  have hunit : 1024 ^ 1 ≤ 1024 ^ index := Nat.pow_le_pow_right (by decide) <| by
    simp only [List.mem_cons, List.not_mem_nil, or_false] at hmem
    omega
  rw [Nat.pow_succ] at hnear
  omega

theorem roundsUp_tenths {index : Nat} (hne : index ≠ 0) (hfour : index < 4)
    (hlow : 1024 ^ index ≤ size) (hhigh : size < 1024 ^ (index + 1)) :
    RoundsUp size ↔ 10240 ≤ tenths size index := by
  rw [full_le_tenths_iff]
  constructor
  · rintro ⟨index', -, hnear, hhigh'⟩
    have hlow' : 1024 ^ index' ≤ size := by
      rw [Nat.pow_succ] at hnear
      omega
    obtain rfl := Nat.le_antisymm (index_mono hlow (Nat.le_refl _) hhigh')
      (index_mono hlow' (Nat.le_refl _) hhigh)
    exact hnear
  · intro hnear
    refine ⟨index, ?_, hnear, hhigh⟩
    simp only [List.mem_cons, List.not_mem_nil, or_false]
    omega

/-- **The sizes that are shown as 1024 of a unit**, which are less than that. -/
theorem shown_full_iff (h : size < 1024 ^ 4) : (shown size).number = 1024 ↔ RoundsUp size := by
  obtain ⟨hlt, heq⟩ | ⟨index, hne, hfour, hlow, hhigh, heq⟩ := shown_cases h
  · rw [heq, iff_false_right (not_roundsUp_bytes hlt)]
    show ¬ (size : ℚ) = 1024
    exact_mod_cast Nat.ne_of_lt hlt
  · rw [heq, roundsUp_tenths hne hfour hlow hhigh]
    have hle := tenths_le hhigh
    show (tenths size index / 10 : ℚ) = 1024 ↔ _
    have hfull : (tenths size index / 10 : ℚ) = 1024 ↔ tenths size index = 10240 := by
      rw [div_eq_iff (by norm_num), show (1024 : ℚ) * 10 = (10240 : Nat) by norm_num, Nat.cast_inj]
    rw [hfull]
    omega

/-! ## Larger sizes -/

theorem bytes_le_of_index_lt {a b : Amount} (ha : a.Tells size) (hb : b.Tells larger)
    (h : a.index < b.index) : a.bytes ≤ b.bytes := by
  have hone := hb.one_le (Nat.ne_of_gt (Nat.zero_lt_of_lt h))
  calc a.number * 1024 ^ a.index
    _ ≤ 1024 * 1024 ^ a.index := mul_le_mul_of_nonneg_right ha.le (by positivity)
    _ = 1024 ^ (a.index + 1) := (pow_succ' _ _).symm
    _ ≤ 1024 ^ b.index := pow_le_pow_right₀ (by norm_num) h
    _ ≤ b.number * 1024 ^ b.index := le_mul_of_one_le_left (by positivity) hone

theorem shown_number (hne : (shown size).index ≠ 0) :
    (shown size).number = tenths size (shown size).index / 10 := by
  rw [shown] at hne ⊢
  split_ifs at hne ⊢
  · exact absurd rfl hne
  · rfl

/-- In one unit the numbers grow with the sizes. -/
theorem number_mono (h : size ≤ larger) (hlarger : larger < 1024 ^ 4)
    (hindex : (shown size).index = (shown larger).index) :
    (shown size).number ≤ (shown larger).number := by
  by_cases hzero : (shown size).index = 0
  · rw [(shown_tells (Nat.lt_of_le_of_lt h hlarger)).exact hzero,
      (shown_tells hlarger).exact (hindex ▸ hzero)]
    exact_mod_cast h
  · rw [shown_number hzero, shown_number (hindex ▸ hzero), ← hindex]
    have htenths := tenths_mono h (shown size).index
    exact div_le_div_of_nonneg_right (by exact_mod_cast htenths) (by norm_num)

/-- **A larger size never shows less.** -/
theorem shown_mono (h : size ≤ larger) (hlarger : larger < 1024 ^ 4) :
    (shown size).bytes ≤ (shown larger).bytes := by
  have htells := shown_tells (Nat.lt_of_le_of_lt h hlarger)
  have htells' := shown_tells hlarger
  have hindex : (shown size).index ≤ (shown larger).index := by
    by_cases hzero : (shown size).index = 0
    · rw [hzero]
      exact Nat.zero_le _
    · exact index_mono (htells.unit.1 hzero) h htells'.unit.2
  rcases Nat.eq_or_lt_of_le hindex with heq | hlt
  · rw [Amount.bytes, Amount.bytes, ← heq]
    exact mul_le_mul_of_nonneg_right (number_mono h hlarger heq) (by positivity)
  · exact bytes_le_of_index_lt htells htells' hlt

/-! ## The text of a size -/

/-- **The text of a size tells the size.** It is a number of units that is the size itself in bytes,
and otherwise at least one and within a twentieth of the size; larger sizes have texts that show no
less. The number is below 1024, except for the sizes that lack at most a twentieth of a unit to 1024
of it: these are shown as 1024.0 of that unit. -/
theorem text_magnitude (h : size < 1024 ^ 4) :
    ∃ amount, read? (text size) = some amount ∧ amount.Tells size ∧
      (amount.number < 1024 ↔ ¬ RoundsUp size) ∧
      ∀ larger < 1024 ^ 4, size ≤ larger →
        ∃ amount', read? (text larger) = some amount' ∧ amount.bytes ≤ amount'.bytes := by
  refine ⟨shown size, read?_text h, shown_tells h, ?_, fun larger hlarger hle =>
    ⟨shown larger, read?_text hlarger, shown_mono hle hlarger⟩⟩
  rw [← shown_full_iff h, lt_iff_le_and_ne]
  exact and_iff_right (shown_tells h).le

/-- The last size that is shown as less than a megabyte, 1023.9 kilobytes. -/
theorem text_magnitude_below_full :
    1048524 < 1024 ^ 4 ∧ text 1048524 = "1023.9K" ∧ ¬ RoundsUp 1048524 ∧
      ∃ amount, read? (text 1048524) = some amount ∧ amount.number < 1024 := by
  have hsize : 1048524 < 1024 ^ 4 := by decide
  have hnot : ¬ RoundsUp 1048524 := by decide
  obtain ⟨amount, hread, -, hnumber, -⟩ := text_magnitude hsize
  exact ⟨hsize, rfl, hnot, amount, hread, hnumber.mpr hnot⟩

/-- **A size that is shown as 1024.0 units.** It is one byte less than a megabyte, which is shown
as 1.0 of the next unit. -/
theorem text_full_unit :
    1048575 < 1024 ^ 4 ∧ text 1048575 = "1024.0K" ∧ text 1048576 = "1.0M" ∧
      ∃ amount, read? (text 1048575) = some amount ∧ ¬ amount.number < 1024 := by
  have hfull : RoundsUp 1048575 := by decide
  refine ⟨by decide, rfl, rfl, shown 1048575, read?_text (by decide), ?_⟩
  rw [(shown_full_iff (by decide)).mpr hfull]
  exact lt_irrefl _

end DebugBridge.Size
