import DebugBridge.Proofs.Json.Layout
import DebugBridge.Proofs.Text

/-!
# Strings, numbers and words are one token each

What is written for a string, a number or a word is cut off as one token, which is the value again.
The end of a string is its closing quote. A number or a word ends where what follows cannot go on
with it, and nothing that a layout puts behind a value can.

* `stringBody_escape` — an escaped character is read as the character, whatever it is
* `token?_quote`, `token?_numeric`, `token?_alphabetic` — the tokens that come first in a text
* `ofNumeric?_toString` — an integer that is written is read back
* `first_of_ofNumeric?` — how numbers start
-/

namespace DebugBridge.Json

variable {rest cs : List Char} {c : Char} {v : Json}

/-! ## Strings -/

/-- The digits of a control character are read as its number. -/
theorem unit?_control {n : Nat} (h : n < 0x20) :
    unit? '0' '0' (hexDigit (n / 16)) (hexDigit (n % 16)) = some n := by
  have hall : ∀ n < 0x20, unit? '0' '0' (hexDigit (n / 16)) (hexDigit (n % 16)) = some n := by
    decide
  exact hall n h

/-- **An escaped character is read as the character.** -/
theorem stringBody_escape (c : Char) (units : List Nat) (rest : List Char) :
    stringBody units (escape c ++ rest) = stringBody (c.toNat :: units) rest := by
  unfold escape
  split
  · next h => subst h; rfl
  split
  · next h => subst h; rfl
  split
  · next h => subst h; rfl
  split
  · next h => subst h; rfl
  split
  · next h => subst h; rfl
  split
  · next h => subst h; rfl
  split
  · next h => subst h; rfl
  split
  · next hcontrol =>
    simp only [List.cons_append, List.nil_append]
    rw [stringBody, unit?_control hcontrol]
  · next hquote hslash _ _ _ _ _ hcontrol =>
    rw [List.singleton_append, stringBody, if_neg hcontrol]
    · exact hquote
    · rintro a b c d rest rfl
      exact absurd rfl hslash
    · rintro a rest rfl
      exact absurd rfl hslash

/-- **A quoted text is read to its closing quote.** -/
theorem stringBody_quoted (cs : List Char) (units : List Nat) (rest : List Char) :
    stringBody units (cs.flatMap escape ++ '"' :: rest) =
      some (units.reverse ++ cs.map Char.toNat, rest) := by
  induction cs generalizing units with
  | nil => rw [List.flatMap_nil, List.nil_append, stringBody, List.map_nil, List.append_nil]
  | cons c cs ih =>
    rw [List.flatMap_cons, List.append_assoc, stringBody_escape, ih]
    simp

/-- A character is no half of a surrogate pair. -/
theorem isHigh_toNat (c : Char) : isHigh c.toNat = false ∧ isLow c.toNat = false := by
  have := c.valid
  simp only [UInt32.isValidChar, Nat.isValidChar] at this
  have hval : c.toNat = c.val.toNat := rfl
  simp only [isHigh, isLow, hval, Bool.and_eq_false_iff, decide_eq_false_iff_not]
  omega

/-- **The numbers of characters are those characters.** -/
theorem joinUnits_toNat (cs : List Char) : joinUnits (cs.map Char.toNat) = some cs := by
  induction cs with
  | nil => rfl
  | cons c cs ih =>
    obtain ⟨hhigh, hlow⟩ := isHigh_toNat c
    cases cs with
    | nil => simp [joinUnits, hhigh, hlow, Char.ofNat_toNat]
    | cons d cs =>
      rw [List.map_cons] at ih ⊢
      rw [List.map_cons, joinUnits, hhigh, hlow, ih]
      simp [Char.ofNat_toNat]

/-- **A quoted text is one token.** -/
theorem token?_quote (text : String) (rest : List Char) :
    token? '"' (text.toList.flatMap escape ++ '"' :: rest) =
      some (.value (.string text), rest) := by
  rw [token?, if_pos rfl, stringBody_quoted, Option.map_some, List.reverse_nil, List.nil_append]
  simp only [ofUnits, joinUnits_toNat, String.ofList_toList]

/-! ## Where numbers and words end -/

/-- What follows cannot go on with a number or a word. -/
def Stops (rest : List Char) : Prop :=
  ∀ c ∈ rest.head?, isNumeric c = false ∧ c.isAlpha = false

theorem Stops.nil : Stops [] := nofun

theorem Stops.cons (hnumeric : isNumeric c = false) (halpha : c.isAlpha = false)
    (rest : List Char) : Stops (c :: rest) := by
  rintro _ ⟨⟩
  exact ⟨hnumeric, halpha⟩

/-- A run of characters ends where what follows does not go on with it. -/
theorem takeWhile_run {p : Char → Bool} (h : ∀ c ∈ cs, p c = true)
    (hrest : ∀ c ∈ rest.head?, p c = false) :
    (cs ++ rest).takeWhile p = cs ∧ (cs ++ rest).dropWhile p = rest := by
  have hstop : rest.takeWhile p = [] ∧ rest.dropWhile p = rest := by
    cases rest with
    | nil => exact ⟨rfl, rfl⟩
    | cons c rest =>
      have hc := hrest c rfl
      exact ⟨List.takeWhile_cons_of_neg (by simp [hc]), List.dropWhile_cons_of_neg (by simp [hc])⟩
  rw [List.takeWhile_append_of_pos h, List.dropWhile_append_of_pos h, hstop.1, hstop.2,
    List.append_nil]
  exact ⟨rfl, rfl⟩

/-- **A number is one token.** -/
theorem token?_numeric (hvalue : ofNumeric? (c :: cs) = some v)
    (hall : ∀ d ∈ c :: cs, isNumeric d = true) (hfirst : c = '-' ∨ c.isDigit = true)
    (hrest : Stops rest) : token? c (cs ++ rest) = some (.value v, rest) := by
  obtain ⟨htake, hdrop⟩ := takeWhile_run (fun d hd => hall d (List.mem_cons_of_mem c hd))
    fun d hd => (hrest d hd).1
  have hquote : c ≠ '"' := by
    rintro rfl
    rcases hfirst with h | h <;> cases h
  rw [token?, if_neg hquote, if_pos (by simpa using hfirst), htake, hdrop, hvalue, Option.map_some]

theorem not_isAlpha_of_isDigit (h : c.isDigit = true) : ¬ c.isAlpha = true := by
  obtain ⟨-, hbelow⟩ := Text.isDigit_iff.mp h
  intro halpha
  have hletter : 0x41 ≤ c.toNat := by
    rcases Bool.or_eq_true_iff.mp halpha with hupper | hlower
    · obtain ⟨hle, -⟩ := of_decide_eq_true hupper
      exact hle
    · obtain ⟨hle, -⟩ := Bool.and_eq_true_iff.mp hlower
      exact Nat.le_trans (by decide) (UInt32.le_iff_toNat_le.mp (of_decide_eq_true hle))
  omega

/-- **A word is one token.** -/
theorem token?_alphabetic (hvalue : ofWord? (c :: cs) = some v)
    (hall : ∀ d ∈ c :: cs, d.isAlpha = true) (hrest : Stops rest) :
    token? c (cs ++ rest) = some (.value v, rest) := by
  obtain ⟨htake, hdrop⟩ := takeWhile_run (fun d hd => hall d (List.mem_cons_of_mem c hd))
    fun d hd => (hrest d hd).2
  have hc := hall c List.mem_cons_self
  have hquote : c ≠ '"' := by
    rintro rfl
    cases hc
  have hdigit : ¬ (decide (c = '-') || c.isDigit) = true := by
    intro h
    rcases Bool.or_eq_true_iff.mp h with h | h
    · rw [of_decide_eq_true h] at hc
      cases hc
    · exact absurd hc (not_isAlpha_of_isDigit h)
  rw [token?, if_neg hquote, if_neg hdigit, if_pos hc, htake, hdrop, hvalue, Option.map_some]

/-! ## Numbers -/

theorem isNumeric_of_isDigit (h : c.isDigit = true) : isNumeric c = true := by
  simp [isNumeric, h]

/-- No number but zero starts with a zero. -/
theorem toDigits_head {n : Nat} (h : 0 < n) : (Nat.toDigits 10 n).head? ≠ some '0' := by
  induction n using Nat.strongRecOn with
  | _ n ih =>
    rw [Nat.toDigits_eq_if (by decide)]
    split
    · next hlt =>
      have hdigit : ∀ n < 10, 0 < n → [Nat.digitChar n].head? ≠ some '0' := by decide
      exact hdigit n hlt h
    · next hge =>
      rw [List.head?_append_of_ne_nil _ Nat.toDigits_ne_nil]
      exact ih (n / 10) (by omega) (by omega)

/-- The digits of a number are read to their end. -/
theorem afterWhole?_toDigits (n : Nat) : afterWhole? (Nat.toDigits 10 n) = some [] := by
  have hdigits : ∀ c ∈ Nat.toDigits 10 n, c.isDigit = true := fun c hc =>
    Nat.isDigit_of_mem_toDigits (by decide) (by decide) hc
  rcases Nat.eq_zero_or_pos n with rfl | hn
  · rfl
  · have hhead := toDigits_head hn
    cases hcs : Nat.toDigits 10 n with
    | nil => exact absurd hcs Nat.toDigits_ne_nil
    | cons c cs =>
      rw [hcs] at hhead hdigits
      obtain ⟨hc, hcs⟩ := List.forall_mem_cons.mp hdigits
      have hrun : cs.dropWhile (·.isDigit) = [] := by
        simpa using (@takeWhile_run [] cs _ hcs nofun).2
      rw [afterWhole?, afterDigits?, if_pos hc, hrun]
      rintro rest ⟨⟩
      exact hhead rfl

/-- How integers are written. -/
theorem toList_toString_int (n : Int) :
    (toString n).toList = (if n < 0 then ['-'] else []) ++ Nat.toDigits 10 n.natAbs := by
  cases n with
  | ofNat n =>
    rw [if_neg (by simp)]
    exact Text.toList_toString n
  | negSucc n =>
    rw [if_pos (Int.negSucc_lt_zero n)]
    exact (String.toList_append ..).trans (congrArg _ (Text.toList_toString (n + 1)))

/-- **An integer that is written is read back.** -/
theorem ofNumeric?_toString (n : Int) : ofNumeric? (toString n).toList = some (.integer n) := by
  rw [toList_toString_int]
  split
  · next hneg =>
    have hdigits : Nat.toDigits 10 n.natAbs ≠ ['0'] := fun h =>
      toDigits_head (Int.natAbs_pos.mpr (Int.ne_of_lt hneg)) (congrArg List.head? h)
    have habs : n = -(n.natAbs : Int) := by omega
    generalize n.natAbs = digits at hdigits habs
    subst habs
    simp [ofNumeric?, afterWhole?_toDigits, Text.digits?_toDigits, hdigits]
  · next hpos =>
    have hhead : ∀ digits, Nat.toDigits 10 n.natAbs ≠ '-' :: digits := fun digits h =>
      absurd (Nat.isDigit_of_mem_toDigits (by decide) (by decide) (h ▸ List.mem_cons_self))
        (by decide)
    have habs : (n.natAbs : Int) = n := by omega
    rw [List.nil_append, ofNumeric?]
    · simp [afterWhole?_toDigits, Text.digits?_toDigits, habs]
    · exact hhead

theorem isNumeric_of_mem_toString {n : Int} (h : c ∈ (toString n).toList) :
    isNumeric c = true := by
  rw [toList_toString_int, List.mem_append] at h
  rcases h with h | h
  · split at h
    · rw [List.mem_singleton.mp h]
      rfl
    · cases h
  · exact isNumeric_of_isDigit (Nat.isDigit_of_mem_toDigits (by decide) (by decide) h)

/-- A text that is a number starts with a sign or a digit. -/
theorem first_of_ofNumeric? (h : ofNumeric? cs = some v) :
    ∃ c rest, cs = c :: rest ∧ (c = '-' ∨ c.isDigit = true) := by
  cases cs with
  | nil => simp [ofNumeric?, afterWhole?, afterDigits?] at h
  | cons c rest =>
    refine ⟨c, rest, rfl, ?_⟩
    by_cases hsign : c = '-'
    · exact .inl hsign
    · right
      rw [ofNumeric?] at h
      · obtain ⟨after, hafter, -⟩ := Option.bind_eq_some_iff.mp h
        unfold afterWhole? at hafter
        split at hafter
        · next heq => exact (List.cons.inj heq).1 ▸ rfl
        · rw [afterDigits?] at hafter
          split at hafter
          · assumption
          · cases hafter
      · rintro digits ⟨⟩
        exact hsign rfl

end DebugBridge.Json
