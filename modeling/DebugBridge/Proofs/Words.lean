import DebugBridge.Proofs.Lines
import Mathlib.Data.List.Induction
import Mathlib.Data.List.TakeWhile

/-!
# Words between blanks, rows between line ends

The words of a text are what stands between its blanks, however many blanks there are and
whichever. A carriage return is a blank, so it makes no difference whether a row of words ends with
one: rows are read the same, whichever line end they have.

* `words_eq_iff` — a text is cut exactly into the words that stand in it between blanks
* `Follow.trimRight` — words that go on behind others are not lost where blanks are trimmed
* `lines_laidOut` — rows with line ends behind them are the lines, up to a carriage return
-/

namespace DebugBridge.Text

variable {cs gap word rest : List Char} {row : List (List Char)}

/-- Blanks, or nothing. -/
def Blank (cs : List Char) : Prop := ∀ c ∈ cs, isBlank c = true

/-- Something without blanks. -/
def IsWord (cs : List Char) : Prop := cs ≠ [] ∧ ∀ c ∈ cs, isBlank c = false

/-- A row of words behind something else: there are blanks in front of each of them, and there may
be some at the end. -/
inductive Follow : List (List Char) → List Char → Prop
  | nil {trail : List Char} (htrail : Blank trail) : Follow [] trail
  | cons {gap word : List Char} {row : List (List Char)} {rest : List Char} (hne : gap ≠ [])
    (hgap : Blank gap) (hrest : Follow row rest) : Follow (word :: row) (gap ++ word ++ rest)

/-- A row of words: there are blanks between them, and there may be some at either end. -/
inductive Spaced : List (List Char) → List Char → Prop
  | nil {trail : List Char} (htrail : Blank trail) : Spaced [] trail
  | cons {lead word : List Char} {row : List (List Char)} {rest : List Char} (hlead : Blank lead)
    (hrest : Follow row rest) : Spaced (word :: row) (lead ++ word ++ rest)

/-- The words of a text. -/
def HasWords (cs : List Char) (row : List (List Char)) : Prop :=
  Spaced row cs ∧ ∀ word ∈ row, IsWord word

instance : Decidable (Blank cs) := decidable_of_iff (cs.all isBlank = true) List.all_eq_true

instance : Decidable (IsWord cs) :=
  decidable_of_iff (cs ≠ [] ∧ cs.all (!isBlank ·) = true) (by simp [IsWord])

theorem Blank.nil : Blank [] := fun _ hc => absurd hc List.not_mem_nil

theorem Blank.append {more : List Char} (h : Blank cs) (hmore : Blank more) : Blank (cs ++ more) :=
  fun c hc => (List.mem_append.mp hc).elim (h c) (hmore c)

/-- Two words with a letter between them are a word. -/
theorem IsWord.append_cons {c : Char} (h : IsWord word) (hc : isBlank c = false)
    (hrest : IsWord rest) : IsWord (word ++ c :: rest) := by
  refine ⟨List.append_ne_nil_of_left_ne_nil h.1 _, ?_⟩
  simp only [List.forall_mem_append, List.forall_mem_cons]
  exact ⟨h.2, hc, hrest.2⟩

/-! ## Cutting -/

theorem foldr_blank (h : Blank gap) (hne : gap ≠ []) (state : Bool × List (List Char)) :
    gap.foldr consWord state = (false, state.2) := by
  cases gap with
  | nil => exact absurd rfl hne
  | cons c gap =>
    clear hne
    induction gap generalizing c with
    | nil => exact if_pos (h c List.mem_cons_self)
    | cons next gap ih =>
      obtain ⟨hc, hgap⟩ := List.forall_mem_cons.mp h
      rw [List.foldr_cons, ih next hgap]
      exact if_pos hc

theorem foldr_word (h : IsWord word) (found : List (List Char)) :
    word.foldr consWord (false, found) = (true, word :: found) := by
  obtain ⟨hne, hword⟩ := h
  cases word with
  | nil => exact absurd rfl hne
  | cons c word =>
    clear hne
    induction word generalizing c with
    | nil => exact if_neg (by rw [hword c List.mem_cons_self]; decide)
    | cons next word ih =>
      obtain ⟨hc, hword⟩ := List.forall_mem_cons.mp hword
      rw [List.foldr_cons, ih _ hword]
      exact if_neg (by rw [hc]; decide)

/-- Blanks at the end of a text are no words, and end none. -/
theorem words_append_blank (h : Blank gap) (cs : List Char) : words (cs ++ gap) = words cs := by
  rw [words, words, List.foldr_append]
  cases gap with
  | nil => rfl
  | cons c gap => rw [foldr_blank h (List.cons_ne_nil _ _)]

/-- Blanks in front of a text are no words. -/
theorem words_blank_append (h : Blank gap) (cs : List Char) : words (gap ++ cs) = words cs := by
  rw [words, words, List.foldr_append]
  cases gap with
  | nil => rfl
  | cons c gap => rw [foldr_blank h (List.cons_ne_nil _ _)]

/-- What stands behind a word starts with a blank. -/
theorem Follow.head {c : Char} (h : Follow row (c :: rest)) : isBlank c = true := by
  generalize htext : c :: rest = text at h
  cases h with
  | nil htrail => exact htrail c (htext ▸ List.mem_cons_self)
  | cons hne hgap _ =>
    obtain ⟨first, gap, rfl⟩ := List.exists_cons_of_ne_nil hne
    obtain ⟨rfl, -⟩ := List.cons.inj htext
    exact hgap c List.mem_cons_self

theorem Follow.foldr (h : Follow row rest) (hrow : ∀ word ∈ row, IsWord word) :
    rest.foldr consWord (false, []) = (false, row) := by
  induction h with
  | @nil trail htrail =>
    cases trail with
    | nil => rfl
    | cons c trail => exact foldr_blank htrail (List.cons_ne_nil _ _) _
  | cons hne hgap hrest ih =>
    obtain ⟨hword, hrow⟩ := List.forall_mem_cons.mp hrow
    rw [List.foldr_append, List.foldr_append, ih hrow, foldr_word hword, foldr_blank hgap hne]

/-- Words that go on behind others are the words of their part of the text. -/
theorem Follow.words (h : Follow row rest) (hrow : ∀ word ∈ row, IsWord word) :
    words rest = row := by
  rw [Text.words, h.foldr hrow]

theorem Spaced.words (h : Spaced row cs) (hrow : ∀ word ∈ row, IsWord word) : words cs = row := by
  cases h with
  | nil htrail => exact (Follow.nil htrail).words hrow
  | cons hlead hrest =>
    obtain ⟨hword, hrow⟩ := List.forall_mem_cons.mp hrow
    rw [List.append_assoc, words_blank_append hlead, Text.words, List.foldr_append,
      hrest.foldr hrow, foldr_word hword]

/-- Each text is a row of words. -/
theorem exists_hasWords (cs : List Char) : ∃ row, HasWords cs row := by
  induction cs with
  | nil => exact ⟨[], .nil .nil, fun _ h => absurd h List.not_mem_nil⟩
  | cons c cs ih =>
    obtain ⟨row, hspaced, hrow⟩ := ih
    cases hc : isBlank c with
    | true =>
      have hsingle : Blank [c] := List.forall_mem_singleton.mpr hc
      cases hspaced with
      | nil htrail => exact ⟨[], .nil (hsingle.append htrail), hrow⟩
      | cons hlead hrest => exact ⟨_, .cons (hsingle.append hlead) hrest, hrow⟩
    | false =>
      have hsingle : IsWord [c] := ⟨List.cons_ne_nil _ _, List.forall_mem_singleton.mpr hc⟩
      cases hspaced with
      | nil htrail =>
        exact ⟨[[c]], .cons .nil (.nil htrail), List.forall_mem_singleton.mpr hsingle⟩
      | @cons lead word row rest hlead hrest =>
        cases lead with
        | nil =>
          -- the character belongs to the word that stands behind it
          obtain ⟨hword, hrow⟩ := List.forall_mem_cons.mp hrow
          refine ⟨(c :: word) :: row, .cons .nil hrest, List.forall_mem_cons.mpr ⟨?_, hrow⟩⟩
          exact ⟨List.cons_ne_nil _ _, List.forall_mem_cons.mpr ⟨hc, hword.2⟩⟩
        | cons b lead =>
          exact ⟨[c] :: word :: row, .cons .nil (.cons (List.cons_ne_nil _ _) hlead hrest),
            List.forall_mem_cons.mpr ⟨hsingle, hrow⟩⟩

/-- **A text is cut exactly into the words that stand in it between blanks.** -/
theorem words_eq_iff : words cs = row ↔ HasWords cs row := by
  constructor
  · rintro rfl
    obtain ⟨row, hspaced, hrow⟩ := exists_hasWords cs
    rw [hspaced.words hrow]
    exact ⟨hspaced, hrow⟩
  · exact fun ⟨hspaced, hrow⟩ => hspaced.words hrow

/-- A word has letters and no blanks. -/
theorem mem_words (h : word ∈ words cs) : IsWord word := (words_eq_iff.mp rfl).2 word h

/-- Words go on behind something else exactly if there is a blank in front of them. -/
theorem follow_iff :
    (Follow row cs ∧ ∀ word ∈ row, IsWord word) ↔
      words cs = row ∧ cs.head?.all isBlank = true := by
  constructor
  · rintro ⟨hfollow, hrow⟩
    refine ⟨hfollow.words hrow, ?_⟩
    cases cs with
    | nil => rfl
    | cons c rest => exact hfollow.head
  · rintro ⟨hwords, hhead⟩
    obtain ⟨hspaced, hrow⟩ := words_eq_iff.mp hwords
    refine ⟨?_, hrow⟩
    cases hspaced with
    | nil htrail => exact .nil htrail
    | @cons lead word row rest hlead hrest =>
      refine .cons ?_ hlead hrest
      rintro rfl
      obtain ⟨hne, hletters⟩ := hrow word List.mem_cons_self
      obtain ⟨c, letters, rfl⟩ := List.exists_cons_of_ne_nil hne
      have hblank : isBlank c = true := hhead
      rw [hletters c List.mem_cons_self] at hblank
      cases hblank

theorem words_eq_nil_iff : words cs = [] ↔ Blank cs := by
  rw [words_eq_iff]
  constructor
  · rintro ⟨hspaced, -⟩
    cases hspaced with
    | nil htrail => exact htrail
  · exact fun h => ⟨.nil h, fun _ hmem => absurd hmem List.not_mem_nil⟩

theorem HasWords.not_blank (h : HasWords cs row) (hne : row ≠ []) : ¬ Blank cs := by
  rw [← words_eq_nil_iff, words_eq_iff.mpr h]
  exact hne

/-! ## The first word -/

theorem splitBlank?_cons {c : Char} (hword : ∀ c ∈ word, isBlank c = false)
    (hc : isBlank c = true) (rest : List Char) :
    splitBlank? (word ++ c :: rest) = some (word, rest) := by
  have hletters : ∀ c ∈ word, (!isBlank c) = true := fun c h => by rw [hword c h]; rfl
  rw [splitBlank?, List.dropWhile_append_of_pos hletters, List.takeWhile_append_of_pos hletters,
    List.dropWhile_cons_of_neg (by rw [hc]; decide), List.takeWhile_cons_of_neg (by rw [hc]; decide),
    List.append_nil]

theorem splitBlank?_none (hword : ∀ c ∈ word, isBlank c = false) : splitBlank? word = none := by
  have hletters : ∀ c ∈ word, (!isBlank c) = true := fun c h => by rw [hword c h]; rfl
  rw [splitBlank?, List.dropWhile_eq_nil_iff.mpr hletters]

/-! ## Trimming -/

theorem trimLeft_blank (h : Blank gap) (cs : List Char) : trimLeft (gap ++ cs) = trimLeft cs :=
  List.dropWhile_append_of_pos h

theorem trimLeft_word (h : IsWord word) (rest : List Char) :
    trimLeft (word ++ rest) = word ++ rest := by
  obtain ⟨c, letters, rfl⟩ := List.exists_cons_of_ne_nil h.1
  exact List.dropWhile_cons_of_neg (by rw [h.2 c List.mem_cons_self]; decide)

theorem trimRight_blank (h : Blank gap) (cs : List Char) : trimRight (cs ++ gap) = trimRight cs := by
  have hreverse : ∀ c ∈ gap.reverse, isBlank c = true := fun c hc => h c (List.mem_reverse.mp hc)
  rw [trimRight, List.reverse_append, List.dropWhile_append_of_pos hreverse, trimRight]

theorem trimRight_word (h : IsWord word) (front : List Char) :
    trimRight (front ++ word) = front ++ word := by
  have hreverse : IsWord word.reverse :=
    ⟨mt List.reverse_eq_nil_iff.mp h.1, fun c hc => h.2 c (List.mem_reverse.mp hc)⟩
  have hkept := trimLeft_word hreverse front.reverse
  rw [trimLeft] at hkept
  rw [trimRight, List.reverse_append, hkept, List.reverse_append, List.reverse_reverse,
    List.reverse_reverse]

/-- What stands in front of the end of a word is kept. -/
theorem exists_trimRight_append (h : IsWord word) (front more : List Char) :
    ∃ kept, trimRight (front ++ word ++ more) = front ++ word ++ kept := by
  induction more using List.reverseRecOn with
  | nil => exact ⟨[], by rw [List.append_nil, trimRight_word h]⟩
  | append_singleton more c ih =>
    rw [← List.append_assoc]
    cases hc : isBlank c with
    | true => rwa [trimRight_blank (List.forall_mem_singleton.mpr hc)]
    | false =>
      have hletter : IsWord [c] := ⟨List.cons_ne_nil _ _, List.forall_mem_singleton.mpr hc⟩
      exact ⟨more ++ [c], by rw [trimRight_word hletter, List.append_assoc]⟩

/-- **Words that go on behind others are not lost where blanks are trimmed.** -/
theorem Follow.trimRight (h : Follow row rest) (hrow : ∀ word ∈ row, IsWord word)
    (hword : IsWord word) (front : List Char) :
    ∃ kept, trimRight (front ++ word ++ rest) = front ++ word ++ kept ∧ Follow row kept := by
  induction h generalizing front word with
  | nil htrail =>
    refine ⟨[], ?_, .nil .nil⟩
    rw [trimRight_blank htrail, trimRight_word hword, List.append_nil]
  | @cons gap next row rest hne hgap hrest ih =>
    obtain ⟨hnext, hrow⟩ := List.forall_mem_cons.mp hrow
    obtain ⟨kept, hkept, hfollow⟩ := ih hrow hnext (front ++ word ++ gap)
    refine ⟨gap ++ next ++ kept, ?_, .cons hne hgap hfollow⟩
    simpa only [List.append_assoc] using hkept

/-- Nothing is left of blanks. -/
theorem trim_blank (h : Blank cs) : trim cs = [] := by
  rw [trim, trimLeft, List.dropWhile_eq_nil_iff.mpr h]
  rfl

theorem trim_blank_append (h : Blank gap) (cs : List Char) : trim (cs ++ gap) = trim cs := by
  obtain ⟨row, hspaced, hrow⟩ := exists_hasWords cs
  cases hspaced with
  | nil htrail => rw [trim_blank (htrail.append h), trim_blank htrail]
  | @cons lead word row rest hlead hrest =>
    have hword := (List.forall_mem_cons.mp hrow).1
    have hleft : ∀ more, trimLeft (lead ++ word ++ more) = word ++ more := fun more => by
      rw [List.append_assoc, trimLeft_blank hlead, trimLeft_word hword]
    rw [trim, trim, List.append_assoc, hleft, hleft, ← List.append_assoc, trimRight_blank h]

/-- Something is left of anything else. -/
theorem trim_eq_nil_iff : trim cs = [] ↔ Blank cs := by
  refine ⟨fun h => ?_, trim_blank⟩
  obtain ⟨row, hspaced, hrow⟩ := exists_hasWords cs
  cases hspaced with
  | nil htrail => exact htrail
  | @cons lead word row rest hlead hrest =>
    obtain ⟨hword, hrow⟩ := List.forall_mem_cons.mp hrow
    obtain ⟨kept, hkept, -⟩ := hrest.trimRight hrow hword []
    rw [trim, List.append_assoc, trimLeft_blank hlead, trimLeft_word hword] at h
    rw [List.nil_append, h] at hkept
    exact absurd (List.append_eq_nil_iff.mp hkept.symm).1 hword.1

/-! ## Rows -/

/-- Rows with a line end behind each of them; the last one may do without. -/
inductive LaidOut : List (List Char) → List Char → Prop
  | nil : LaidOut [] []
  | last {row : List Char} (hne : row ≠ []) (hrow : '\n' ∉ row) : LaidOut [row] row
  | feed {row : List Char} {rows : List (List Char)} {body : List Char} (hrow : '\n' ∉ row)
    (hbody : LaidOut rows body) : LaidOut (row :: rows) (row ++ '\n' :: body)
  | returnFeed {row : List Char} {rows : List (List Char)} {body : List Char} (hrow : '\n' ∉ row)
    (hbody : LaidOut rows body) : LaidOut (row :: rows) (row ++ '\r' :: '\n' :: body)

/-- A line is read from a row: a carriage return at the end of the row may be left out. -/
def ReadFrom (row line : List Char) : Prop := row = line ∨ row = line ++ ['\r']

theorem readFrom_dropReturn (row : List Char) : ReadFrom row (dropReturn row) := by
  rw [dropReturn]
  split
  · next hlast =>
    obtain ⟨front, rfl⟩ := List.getLast?_eq_some_iff.mp hlast
    rw [List.dropLast_concat]
    exact .inr rfl
  · exact .inl rfl

theorem blank_return : Blank ['\r'] := by decide

theorem ReadFrom.words {row line : List Char} (h : ReadFrom row line) : words line = words row := by
  rcases h with rfl | rfl
  · rfl
  · exact (words_append_blank blank_return line).symm

theorem ReadFrom.trim {row line : List Char} (h : ReadFrom row line) : trim line = trim row := by
  rcases h with rfl | rfl
  · rfl
  · exact (trim_blank_append blank_return line).symm

/-- **Rows with line ends behind them are the lines**, up to a carriage return. -/
theorem lines_laidOut {rows : List (List Char)} {body : List Char} (h : LaidOut rows body) :
    List.Forall₂ ReadFrom rows (lines body) := by
  induction h with
  | nil => exact .nil
  | @last row hne hrow =>
    obtain ⟨c, rest, rfl⟩ := List.exists_cons_of_ne_nil hne
    rw [lines, fields_of_notMem hrow]
    exact .cons (.inl rfl) .nil
  | @feed row rows body hrow _ ih =>
    rw [lines_append, fields_of_notMem hrow]
    exact .cons (readFrom_dropReturn row) ih
  | @returnFeed row rows body hrow _ ih =>
    have hreturn : '\n' ∉ row ++ ['\r'] := by simpa using hrow
    have hsplit : row ++ '\r' :: '\n' :: body = (row ++ ['\r']) ++ '\n' :: body := by simp
    have hdrop : dropReturn (row ++ ['\r']) = row := by
      rw [dropReturn, List.getLast?_concat, if_pos rfl, List.dropLast_concat]
    rw [hsplit, lines_append, fields_of_notMem hreturn, List.map_singleton, hdrop]
    exact .cons (.inl rfl) ih

end DebugBridge.Text
