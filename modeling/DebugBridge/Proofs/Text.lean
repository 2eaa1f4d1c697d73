import DebugBridge.Text.Blank
import DebugBridge.Text.Number
import DebugBridge.Text.Utf8

/-!
# Texts that are put together are taken apart again

Fields that are joined with a separator, and numbers that are written in decimal digits, are read
back as they were.

* `splitFirst?_eq_some_iff`, `splitLast?_eq_some_iff` — a text is cut at its first or last separator
* `splitAround?_append` — a text is cut where a separating text stands for the first time
* `unsigned?_eq_some_iff` — the numbers that are read, and how they may be written
* `unsigned?_toString`, `word32?_toString` — a number that is written is read back
* `Utf8.comma_notMem` — the bytes of decimal digits hold no comma
-/

namespace DebugBridge

namespace Text

/-! ## Separators -/

/-- Texts that are joined with a separator of one character. -/
theorem toList_joined (sep : String) (c : Char) (hsep : sep.toList = [c]) (s t : String) :
    (s ++ sep ++ t).toList = s.toList ++ c :: t.toList := by
  rw [String.toList_append, String.toList_append, hsep, List.append_assoc, List.singleton_append]

/-- **A text is cut at its first separator**, whatever separators stand behind that. -/
theorem splitFirst?_eq_some_iff {sep : Char} {cs before after : List Char} :
    splitFirst? sep cs = some (before, after) ↔ cs = before ++ sep :: after ∧ sep ∉ before := by
  have hother : ∀ {front : List Char}, sep ∉ front → ∀ c ∈ front, (c != sep) = true :=
    fun h c hc => bne_iff_ne.mpr fun heq => h (heq ▸ hc)
  constructor
  · intro h
    rw [splitFirst?] at h
    split at h
    · cases h
    · next c rest hdrop =>
      obtain ⟨rfl, rfl⟩ := Prod.mk.inj (Option.some.inj h)
      have hc : c = sep := by
        have := List.head?_dropWhile_not (· != sep) cs
        rw [hdrop] at this
        simpa using this
      subst hc
      refine ⟨?_, fun hmem => ?_⟩
      · rw [← hdrop, List.takeWhile_append_dropWhile]
      · have := List.all_eq_true.mp List.all_takeWhile _ hmem
        simp at this
  · rintro ⟨rfl, hbefore⟩
    rw [splitFirst?, List.dropWhile_append_of_pos (hother hbefore),
      List.takeWhile_append_of_pos (hother hbefore), List.dropWhile_cons_of_neg (by simp),
      List.takeWhile_cons_of_neg (by simp), List.append_nil]

/-- Texts are equal exactly if they are equal in front of their first separators and behind them. -/
theorem append_separator_inj {sep : Char} {before before' after after' : List Char}
    (h : sep ∉ before) (h' : sep ∉ before') :
    before ++ sep :: after = before' ++ sep :: after' ↔ before = before' ∧ after = after' := by
  constructor
  · intro heq
    have hcut := splitFirst?_eq_some_iff.mpr ⟨heq, h'⟩
    rw [splitFirst?_eq_some_iff.mpr ⟨rfl, h⟩] at hcut
    exact Prod.mk.inj (Option.some.inj hcut)
  · rintro ⟨rfl, rfl⟩
    rfl

theorem splitFirst?_eq_none_iff {sep : Char} {cs : List Char} :
    splitFirst? sep cs = none ↔ sep ∉ cs := by
  constructor
  · intro h hmem
    obtain ⟨before, after, heq, hbefore⟩ := List.eq_append_cons_of_mem hmem
    rw [splitFirst?_eq_some_iff.mpr ⟨heq, hbefore⟩] at h
    cases h
  · intro h
    cases hcut : splitFirst? sep cs with
    | none => rfl
    | some parts =>
      obtain ⟨rfl, -⟩ := splitFirst?_eq_some_iff.mp (hcut : _ = some (parts.1, parts.2))
      exact absurd (List.mem_append_right _ List.mem_cons_self) h

/-- **A text is cut at its last separator**, whatever separators stand before that. -/
theorem splitLast?_eq_some_iff {sep : Char} {cs before after : List Char} :
    splitLast? sep cs = some (before, after) ↔ cs = before ++ sep :: after ∧ sep ∉ after := by
  -- the last separator is the first one of the reversed text
  have hreverse : splitFirst? sep cs.reverse = some (after.reverse, before.reverse) ↔
      cs = before ++ sep :: after ∧ sep ∉ after := by
    rw [splitFirst?_eq_some_iff, List.mem_reverse, List.reverse_eq_iff]
    simp
  rw [← hreverse, splitLast?, Option.map_eq_some_iff]
  constructor
  · rintro ⟨parts, hcut, heq⟩
    obtain ⟨rfl, rfl⟩ := Prod.mk.inj heq
    rw [hcut, List.reverse_reverse, List.reverse_reverse]
  · exact fun hcut => ⟨_, hcut, by simp only [List.reverse_reverse]⟩

theorem splitLast?_eq_none_iff {sep : Char} {cs : List Char} :
    splitLast? sep cs = none ↔ sep ∉ cs := by
  rw [splitLast?, Option.map_eq_none_iff, splitFirst?_eq_none_iff, List.mem_reverse]

/-! ## Separating texts -/

theorem stripStart?_eq_some_iff {start cs rest : List Char} :
    stripStart? start cs = some rest ↔ cs = start ++ rest := by
  induction start generalizing cs with
  | nil => simp [stripStart?]
  | cons a as ih =>
    cases cs with
    | nil => simp [stripStart?]
    | cons c cs =>
      rw [stripStart?, List.cons_append, List.cons.injEq]
      split
      · next h => rw [ih, h, and_iff_right rfl]
      · next h => exact ⟨nofun, fun heq => absurd heq.1.symm h⟩

theorem stripStart?_eq_none_iff {start cs : List Char} :
    stripStart? start cs = none ↔ ¬ start <+: cs := by
  rw [← Option.not_isSome_iff_eq_none, Option.isSome_iff_exists]
  simp only [stripStart?_eq_some_iff]
  exact not_congr (exists_congr fun _ => eq_comm)

section Around

variable {first : Char} {more front behind : List Char}

/-- A text whose first character stands nowhere else in it does not start in front of itself,
where it does not stand in full. -/
theorem not_prefix_append (hfirst : first ∉ more) (hne : front ≠ [])
    (h : ¬ first :: more <+: front) (behind : List Char) :
    ¬ first :: more <+: front ++ first :: more ++ behind := by
  rintro ⟨rest, heq⟩
  rw [List.append_assoc, List.append_eq_append_iff] at heq
  rcases heq with ⟨as, rfl, -⟩ | ⟨bs, heq, hbs⟩
  · exact h (List.prefix_append _ _)
  · cases bs with
    | nil =>
      rw [List.append_nil] at heq
      exact h (heq ▸ List.prefix_rfl)
    | cons b bs =>
      obtain ⟨c, front, rfl⟩ := List.exists_cons_of_ne_nil hne
      have hb : first = b := (List.cons.inj hbs).1
      have hmore : more = front ++ b :: bs := (List.cons.inj heq).2
      exact hfirst (hmore ▸ hb ▸ List.mem_append_right _ List.mem_cons_self)

/-- **A text is cut at the first place where the separating text stands.** -/
theorem splitAround?_append (hfirst : first ∉ more) (h : ¬ first :: more <:+: front)
    (behind : List Char) :
    splitAround? (first :: more) (front ++ first :: more ++ behind) = some (front, behind) := by
  have hgo : ∀ passed, splitAround?.go (first :: more) passed (front ++ first :: more ++ behind) =
      some (passed.reverse ++ front, behind) := by
    induction front with
    | nil =>
      intro passed
      rw [List.nil_append, List.cons_append, splitAround?.go,
        stripStart?_eq_some_iff.mpr (List.cons_append ..).symm, List.append_nil]
    | cons c front ih =>
      intro passed
      rw [List.infix_cons_iff, not_or] at h
      have hnone := stripStart?_eq_none_iff.mpr
        (not_prefix_append hfirst (List.cons_ne_nil c front) h.1 behind)
      rw [List.cons_append, List.cons_append] at hnone ⊢
      rw [splitAround?.go, hnone]
      simp only
      rw [ih h.2, List.reverse_cons, List.append_assoc, List.singleton_append]
  exact hgo []

theorem splitAround?_eq_none {cs : List Char} (h : ¬ first :: more <:+: cs) :
    splitAround? (first :: more) cs = none := by
  have hgo : ∀ passed, splitAround?.go (first :: more) passed cs = none := by
    induction cs with
    | nil => exact fun _ => rfl
    | cons c cs ih =>
      intro passed
      rw [List.infix_cons_iff, not_or] at h
      rw [splitAround?.go, stripStart?_eq_none_iff.mpr h.1]
      exact ih h.2 (c :: passed)
  exact hgo []

/-- What stands in a text stands there for a first time. -/
theorem exists_first_of_infix {cs : List Char} (h : first :: more <:+: cs) :
    ∃ front behind, cs = front ++ first :: more ++ behind ∧ ¬ first :: more <:+: front := by
  induction cs with
  | nil => exact absurd (List.infix_nil.mp h) (List.cons_ne_nil _ _)
  | cons c cs ih =>
    by_cases hprefix : first :: more <+: c :: cs
    · obtain ⟨behind, hbehind⟩ := hprefix
      exact ⟨[], behind, hbehind.symm, fun h => List.cons_ne_nil _ _ (List.infix_nil.mp h)⟩
    · obtain ⟨front, behind, rfl, hfront⟩ := ih ((List.infix_cons_iff.mp h).resolve_left hprefix)
      refine ⟨c :: front, behind, rfl, fun h => ?_⟩
      rcases List.infix_cons_iff.mp h with h | h
      · rw [List.append_assoc, ← List.cons_append] at hprefix
        exact hprefix (h.trans (List.prefix_append _ _))
      · exact hfront h

end Around

/-! ## Decimal numbers -/

theorem isDigit_iff {c : Char} : c.isDigit = true ↔ 0x30 ≤ c.toNat ∧ c.toNat ≤ 0x39 := by
  simp [Char.isDigit, UInt32.le_iff_toNat_le]

theorem digitOf?_of_isDigit {c : Char} (h : c.isDigit = true) :
    digitOf? 10 c = some (c.toNat - '0'.toNat) := by
  have hrange := isDigit_iff.mp h
  have hzero : '0'.toNat = 0x30 := rfl
  simp only [digitOf?, digitValue?, hrange.1, hrange.2, decide_true, Bool.and_self, if_true,
    hzero]
  exact if_pos (decide_eq_true (by omega))

/-- Digits stand for the number that they write. -/
theorem digitsFrom?_of_isDigit {cs : List Char} (h : ∀ c ∈ cs, c.isDigit = true) (value : Nat) :
    digitsFrom? 10 value cs = some (Nat.ofDigitChars 10 cs value) := by
  induction cs generalizing value with
  | nil => rfl
  | cons c cs ih =>
    obtain ⟨hc, hcs⟩ := List.forall_mem_cons.mp h
    rw [digitsFrom?, digitOf?_of_isDigit hc]
    simp only
    rw [ih hcs, Nat.ofDigitChars_cons, Nat.mul_comm]

theorem toList_toString (n : Nat) : (toString n).toList = Nat.toDigits 10 n := by
  rw [Nat.toString_eq_ofList_toDigits, String.toList_ofList]

theorem isDigit_of_mem_toString {n : Nat} {c : Char} (h : c ∈ (toString n).toList) :
    c.isDigit = true := by
  rw [toList_toString] at h
  exact Nat.isDigit_of_mem_toDigits (by decide) (by decide) h

/-- What is no digit does not stand in a number. -/
theorem notMem_toString {c : Char} (h : c.isDigit = false) {n : Nat} : c ∉ (toString n).toList :=
  fun hmem => Bool.false_ne_true (h.symm.trans (isDigit_of_mem_toString hmem))

/-- A number in decimal digits, which may start with zeros, and at most one plus sign in front of
them. -/
def Decimal (cs : List Char) (n : Nat) : Prop :=
  ∃ digits, (cs = digits ∨ cs = '+' :: digits) ∧ digits ≠ [] ∧
    (∀ c ∈ digits, c.isDigit = true) ∧ Nat.ofDigitChars 10 digits 0 = n

theorem Decimal.notMem {cs : List Char} {n : Nat} (h : Decimal cs n) {c : Char}
    (hplus : c ≠ '+') (hdigit : c.isDigit = false) : c ∉ cs := by
  obtain ⟨digits, hcs, -, hdigits, -⟩ := h
  have hnot : c ∉ digits := fun hmem =>
    Bool.false_ne_true (hdigit.symm.trans (hdigits c hmem))
  rcases hcs with rfl | rfl
  · exact hnot
  · exact List.not_mem_cons_of_ne_of_not_mem hplus hnot

/-- Nothing but a digit of ASCII counts as a decimal digit. -/
theorem isDigit_of_digitOf? {c : Char} {d : Nat} (h : digitOf? 10 c = some d) :
    c.isDigit = true := by
  obtain ⟨hvalue, hd⟩ := Option.filter_eq_some_iff.mp h
  have hd : d < 10 := of_decide_eq_true hd
  rw [isDigit_iff]
  simp only [digitValue?, Bool.and_eq_true, decide_eq_true_eq] at hvalue
  split at hvalue
  · assumption
  · split at hvalue
    · have := Option.some.inj hvalue
      omega
    · split at hvalue
      · have := Option.some.inj hvalue
        omega
      · cases hvalue

theorem isDigit_of_digitsFrom? {cs : List Char} {value n : Nat}
    (h : digitsFrom? 10 value cs = some n) : ∀ c ∈ cs, c.isDigit = true := by
  induction cs generalizing value with
  | nil => exact fun c hc => absurd hc List.not_mem_nil
  | cons c cs ih =>
    rw [digitsFrom?] at h
    split at h
    · next d hd => exact List.forall_mem_cons.mpr ⟨isDigit_of_digitOf? hd, ih h⟩
    · cases h

theorem digits?_eq_some_iff {cs : List Char} {n : Nat} :
    digits? 10 cs = some n ↔
      cs ≠ [] ∧ (∀ c ∈ cs, c.isDigit = true) ∧ Nat.ofDigitChars 10 cs 0 = n := by
  cases cs with
  | nil =>
    constructor
    · intro h
      cases h
    · exact fun h => absurd rfl h.1
  | cons c cs =>
    rw [digits?]
    constructor
    · intro h
      have hdigits := isDigit_of_digitsFrom? h
      rw [digitsFrom?_of_isDigit hdigits] at h
      exact ⟨List.cons_ne_nil _ _, hdigits, Option.some.inj h⟩
    · rintro ⟨-, hdigits, rfl⟩
      exact digitsFrom?_of_isDigit hdigits 0

theorem digits?_toDigits (n : Nat) : digits? 10 (Nat.toDigits 10 n) = some n :=
  digits?_eq_some_iff.mpr ⟨Nat.toDigits_ne_nil,
    fun _ hc => Nat.isDigit_of_mem_toDigits (by decide) (by decide) hc,
    Nat.ofDigitChars_toDigits (by decide) (by decide)⟩

/-- **Which numbers are read, and how they may be written.** -/
theorem unsigned?_eq_some_iff {bound n : Nat} {cs : List Char} :
    unsigned? 10 bound cs = some n ↔ Decimal cs n ∧ n < bound := by
  have hplus : ∀ rest, ¬ ∀ c ∈ '+' :: rest, c.isDigit = true := fun rest h =>
    absurd (h '+' List.mem_cons_self) (by decide)
  unfold unsigned?
  rw [Option.filter_eq_some_iff, decide_eq_true_iff]
  refine and_congr_left fun _ => ?_
  split
  · next rest =>
    rw [digits?_eq_some_iff]
    constructor
    · exact fun h => ⟨rest, .inr rfl, h⟩
    · rintro ⟨digits, rfl | heq, hne, hdigits, hvalue⟩
      · exact absurd hdigits (hplus rest)
      · rw [(List.cons.inj heq).2]
        exact ⟨hne, hdigits, hvalue⟩
  · next hnot =>
    rw [digits?_eq_some_iff]
    constructor
    · exact fun h => ⟨cs, .inl rfl, h⟩
    · rintro ⟨digits, rfl | rfl, h⟩
      · exact h
      · exact absurd rfl (hnot digits)

/-- **A number that is written in decimal digits is read back**, if it is below the bound. -/
theorem unsigned?_toString {n bound : Nat} (h : n < bound) :
    unsigned? 10 bound (toString n).toList = some n := by
  rw [toList_toString]
  exact unsigned?_eq_some_iff.mpr
    ⟨⟨_, .inl rfl, digits?_eq_some_iff.mp (digits?_toDigits n)⟩, h⟩

theorem word16?_eq_some_iff {cs : List Char} {w : UInt16} :
    word16? cs = some w ↔ ∃ n, Decimal cs n ∧ n ≤ 65535 ∧ UInt16.ofNat n = w := by
  simp only [word16?, Option.map_eq_some_iff, unsigned?_eq_some_iff, and_assoc,
    show UInt16.size = 65535 + 1 from rfl, Nat.lt_succ_iff]

theorem word32?_eq_some_iff {cs : List Char} {w : UInt32} :
    word32? cs = some w ↔ ∃ n, Decimal cs n ∧ n ≤ 4294967295 ∧ UInt32.ofNat n = w := by
  simp only [word32?, Option.map_eq_some_iff, unsigned?_eq_some_iff, and_assoc,
    show UInt32.size = 4294967295 + 1 from rfl, Nat.lt_succ_iff]

theorem word16?_toString (w : UInt16) : word16? (toString w.toNat).toList = some w := by
  rw [word16?, unsigned?_toString w.toNat_lt, Option.map_some, UInt16.ofNat_toNat]

theorem word32?_toString (w : UInt32) : word32? (toString w.toNat).toList = some w := by
  rw [word32?, unsigned?_toString w.toNat_lt, Option.map_some, UInt32.ofNat_toNat]

end Text

namespace Utf8

/-! ## Bytes -/

theorem ofString_append (s t : String) : ofString (s ++ t) = ofString s ++ ofString t := by
  rw [ofString, String.toList_append, encode, List.flatMap_append]
  rfl

/-- The bytes of a decimal number are those of its digits, and none of them is a comma. -/
theorem comma_notMem (n : Nat) : 0x2C ∉ ofString (toString n) := by
  intro h
  obtain ⟨c, hc, hb⟩ := List.mem_flatMap.mp h
  have hrange := Text.isDigit_iff.mp (Text.isDigit_of_mem_toString hc)
  have hbyte : encodeChar c = [UInt8.ofNat c.toNat] := if_pos (by omega)
  rw [hbyte, List.mem_singleton] at hb
  have := congrArg UInt8.toNat hb
  rw [UInt8.toNat_ofNat'] at this
  have hcomma : UInt8.toNat 0x2C = 0x2C := rfl
  omega

end Utf8

end DebugBridge
