import DebugBridge.Proofs.Json.Scalar

/-!
# The characters of JSON texts

The texts of values are printable: a control character is written as an escape, and only the pretty
layout has ends of lines. A value starts with no blank, and with a quote only if it is a string.

* `escape_cases` — how a character is written in a string
* `compact_start` — how the text of a value that holds no others starts
* `printable_pretty`, `pretty_last` — a pretty text is printable, and its last line is not empty
-/

namespace DebugBridge.Json

variable {c : Char} {cs : List Char} {v : Json}

/-! ## Strings and numbers -/

/-- What each character of a row is found to have when the row is checked. To decide the statement
itself would be to go through all characters that there are. -/
theorem of_all {p : Char → Prop} [DecidablePred p] (h : cs.all (fun c => decide (p c)) = true) :
    ∀ c ∈ cs, p c := fun c hc => of_decide_eq_true (List.all_eq_true.mp h c hc)

/-- **A character is written as it is, or behind a backslash.** Nothing that is written is a control
character, and no quote is written but for a quote. -/
theorem escape_cases (c : Char) :
    (escape c = [c] ∧ 0x20 ≤ c.toNat) ∨
      ∃ rest, escape c = '\\' :: rest ∧ ∀ d ∈ rest, 0x20 ≤ d.toNat ∧ (d = '"' → c = '"') := by
  have hdigits : ∀ n < 0x20, (['u', '0', '0', hexDigit (n / 16), hexDigit (n % 16)].all
      fun d => decide (0x20 ≤ d.toNat ∧ d ≠ '"')) = true := by decide
  unfold escape
  iterate 7
    split
    · next h =>
      subst h
      exact .inr ⟨_, rfl, of_all rfl⟩
  split
  · next h =>
    refine .inr ⟨_, rfl, fun d hd => ?_⟩
    obtain ⟨hprintable, hquote⟩ := of_all (hdigits _ h) d hd
    exact ⟨hprintable, fun heq => absurd heq hquote⟩
  · next h => exact .inl ⟨rfl, Nat.le_of_not_lt h⟩

theorem printable_escape (c : Char) : ∀ d ∈ escape c, 0x20 ≤ d.toNat := by
  rcases escape_cases c with ⟨hc, hprintable⟩ | ⟨rest, hc, hrest⟩
  · simpa [hc] using hprintable
  · rw [hc]
    exact List.forall_mem_cons.mpr ⟨by decide, fun d hd => (hrest d hd).1⟩

theorem quote_notMem_escape (h : c ≠ '"') : '"' ∉ escape c := by
  rcases escape_cases c with ⟨hc, -⟩ | ⟨rest, hc, hrest⟩
  · simpa [hc] using Ne.symm h
  · rw [hc]
    intro hmem
    rcases List.mem_cons.mp hmem with heq | hmem
    · cases heq
    · exact h ((hrest _ hmem).2 rfl)

/-- A number starts with no blank and no quote. -/
theorem numeric_start (h : ofNumeric? cs = some v) :
    ∃ c rest, cs = c :: rest ∧ Text.isBlank c = false ∧ c ≠ '"' := by
  obtain ⟨c, rest, rfl, hfirst⟩ := first_of_ofNumeric? h
  refine ⟨c, rest, rfl, ?_⟩
  rcases hfirst with rfl | hdigit
  · exact ⟨rfl, by decide⟩
  · have hrange := Text.isDigit_iff.mp hdigit
    constructor
    · simp only [Text.isBlank, Bool.or_eq_false_iff, beq_eq_false_iff_ne, Bool.and_eq_false_iff,
        decide_eq_false_iff_not]
      omega
    · rintro rfl
      cases hdigit

/-! ## Values that hold no others -/

/-- The text of a value that holds no others starts with a quote if it is a string, and with no
blank. -/
theorem compact_start (hflat : v.IsFlat) (h : v.Proper) :
    (∃ text, v = .string text) ∨
      ∃ c cs, v.compact = c :: cs ∧ Text.isBlank c = false ∧ c ≠ '"' := by
  cases h with
  | null => exact .inr ⟨'n', _, rfl, rfl, by decide⟩
  | bool b =>
    cases b with
    | true => exact .inr ⟨'t', _, rfl, rfl, by decide⟩
    | false => exact .inr ⟨'f', _, rfl, rfl, by decide⟩
  | integer n => exact .inr (numeric_start (ofNumeric?_toString n))
  | decimal h => exact .inr (numeric_start h.1)
  | string text => exact .inl ⟨text, rfl⟩
  | @array items =>
    cases items with
    | nil => exact .inr ⟨'[', _, rfl, rfl, by decide⟩
    | cons item rest => exact hflat.elim
  | @object members =>
    cases members with
    | nil => exact .inr ⟨'\x7b', _, rfl, rfl, by decide⟩
    | cons member rest => exact hflat.elim

theorem printable_numeric (h : isNumeric c = true) : 0x20 ≤ c.toNat := by
  simp only [isNumeric, Bool.or_eq_true, decide_eq_true_eq] at h
  rcases h with ((((h | rfl) | rfl) | rfl) | rfl) | rfl
  · exact Nat.le_trans (by decide) (Text.isDigit_iff.mp h).1
  all_goals decide

theorem printable_quote (text : String) : ∀ c ∈ quote text, 0x20 ≤ c.toNat := by
  intro c hc
  rcases List.mem_cons.mp hc with rfl | hc
  · decide
  rcases List.mem_append.mp hc with hc | hc
  · obtain ⟨d, -, hd⟩ := List.mem_flatMap.mp hc
    exact printable_escape d c hd
  · rw [List.mem_singleton.mp hc]
    decide

/-- What is written for a value that holds no others has no control characters. -/
theorem printable_compact (hflat : v.IsFlat) (h : v.Proper) : ∀ c ∈ v.compact, 0x20 ≤ c.toNat := by
  cases h with
  | null => exact of_all rfl
  | bool b => cases b <;> exact of_all rfl
  | integer n => exact fun c hc => printable_numeric (isNumeric_of_mem_toString hc)
  | decimal h => exact fun c hc => printable_numeric (h.2 c hc)
  | string text => exact printable_quote text
  | @array items =>
    cases items with
    | nil => exact of_all rfl
    | cons item rest => exact hflat.elim
  | @object members =>
    cases members with
    | nil => exact of_all rfl
    | cons member rest => exact hflat.elim

/-! ## Pretty texts -/

/-- No control characters but the ends of lines. -/
def Printable (cs : List Char) : Prop := ∀ c ∈ cs, c = '\n' ∨ 0x20 ≤ c.toNat

theorem printable_newLine (level : Nat) : Printable (newLine level) := by
  refine List.forall_mem_cons.mpr ⟨.inl rfl, fun c hc => .inr ?_⟩
  rw [List.eq_of_mem_replicate hc]
  decide

theorem prettyLayout_printable :
    Layout.Related (fun cs _ _ => Printable cs) prettyLayout prettyLayout prettyLayout where
  nil := nofun
  append h h' := List.forall_mem_append.mpr ⟨h, h'⟩
  item hflat h c hc := .inr (printable_compact hflat h c hc)
  value hflat h c hc := .inr (printable_compact hflat h c hc)
  name text := List.forall_mem_append.mpr ⟨fun c hc => .inr (printable_quote text c hc), of_all rfl⟩
  beginArray level := List.forall_mem_cons.mpr ⟨by decide, printable_newLine level⟩
  endArray level := List.forall_mem_append.mpr ⟨printable_newLine level, of_all rfl⟩
  beginObject level := List.forall_mem_cons.mpr ⟨by decide, printable_newLine level⟩
  endObject level := List.forall_mem_append.mpr ⟨printable_newLine level, of_all rfl⟩
  comma level := List.forall_mem_cons.mpr ⟨by decide, printable_newLine level⟩

theorem printable_pretty (h : v.Proper) : Printable (v.pretty 0) := by
  rw [pretty_eq v true 0]
  exact prettyLayout_printable.written h true 0

/-- The last line of a pretty text is not empty. -/
theorem pretty_last (h : v.Proper) : ∃ front c, v.pretty 0 = front ++ [c] ∧ c ≠ '\n' := by
  by_cases hflat : v.IsFlat
  · have hne : v.compact ≠ [] := by
      rcases compact_start hflat h with ⟨text, rfl⟩ | ⟨c, cs, hcompact, -⟩
      · exact List.cons_ne_nil _ _
      · exact hcompact ▸ List.cons_ne_nil _ _
    refine ⟨v.compact.dropLast, v.compact.getLast hne, ?_, fun heq => ?_⟩
    · rw [pretty_flat hflat, List.dropLast_append_getLast]
    · have := printable_compact hflat h _ (List.getLast_mem hne)
      rw [heq] at this
      exact absurd this (by decide)
  · unfold IsFlat at hflat
    split at hflat
    · exact ⟨_, ']', by rw [pretty, ← List.cons_append], by decide⟩
    · next member rest =>
      exact ⟨_, '\x7d', by rw [pretty, ← List.cons_append], by decide⟩
    · exact absurd trivial hflat

end DebugBridge.Json
