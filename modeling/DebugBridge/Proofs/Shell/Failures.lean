import DebugBridge.Proofs.Words
import DebugBridge.Proofs.Utf8
import DebugBridge.Shell.Failures

/-!
# The phrases that show a failure

Some texts show a failure wherever they stand in the output of a program. None of them holds a line
end or a replacement character, so each stands in a single line, and the lenient reading of bytes
shows it exactly where its own bytes stand. Output that is cut at line ends shows a failure exactly
if one of its parts does.

* `Telltale` — these texts; `phraseFailure?_isSome_iff`, that there are no others
* `phraseFailure?_lenient` — what shows a failure among the bytes of an output
* `lastLine?_lenient` — the last line that is not blank, of output that is cut at a line end
-/

namespace DebugBridge.ShellOutput

/-! ## Telltales -/

/-- Phrases that show a failure of any program. -/
def phrases : List (List Char) :=
  ["applet not found".toList, "No such file or directory".toList, "Unknown option".toList]

/-- Phrases that do so in letters of either case. -/
def denials : List (List Char) := ["permission denied".toList, "access denied".toList]

/-- The texts that show a failure of a program. -/
inductive Telltale (program : List Char) : List Char → Prop
  | notFound : Telltale program (program ++ ": not found".toList)
  | phrase {text : List Char} : text ∈ phrases → Telltale program text
  | denial {text : List Char} : Text.asciiLower text ∈ denials → Telltale program text

/-- The failures that a phrase shows. -/
inductive ByPhrase : Failure → Prop
  | commandNotFound (program : String) : ByPhrase (.commandNotFound program)
  | fileNotFound (text : String) : ByPhrase (.fileNotFound text)
  | unknownOption (text : String) : ByPhrase (.unknownOption text)
  | permissionDenied (text : String) : ByPhrase (.permissionDenied text)

theorem byPhrase_of_phraseFailure? {command output : List Char} {e : Failure}
    (h : phraseFailure? command output = some e) : ByPhrase e := by
  unfold phraseFailure? at h
  simp only at h
  split at h
  · cases h
    exact .commandNotFound _
  split at h
  · cases h
    exact .commandNotFound _
  split at h
  · cases h
    exact .fileNotFound _
  split at h
  · cases h
    exact .unknownOption _
  · obtain ⟨line, -, rfl⟩ := Option.map_eq_some_iff.mp h
    exact .permissionDenied _

/-- A denial is shown by its letters, of either case. -/
theorem denial?_isSome_iff {phrase : List Char} (hne : phrase ≠ []) (hfeed : '\n' ∉ phrase)
    (hreturn : '\r' ∉ phrase) {output : List Char} :
    (denial? phrase output).isSome ↔
      ∃ text, Text.asciiLower text = phrase ∧ text <:+: output := by
  have hline : ∀ text, Text.asciiLower text = phrase →
      ((∃ line ∈ Text.lines output, text <:+: line) ↔ text <:+: output) := by
    rintro text rfl
    refine Text.exists_line_iff (fun h => hne (by rw [h]; rfl)) (fun h => hfeed ?_)
      (fun h => hreturn ?_)
    · exact List.mem_map_of_mem (f := Char.toLower) h
    · exact List.mem_map_of_mem (f := Char.toLower) h
  have hlower : ∀ line, Text.occursIn phrase (Text.asciiLower line) = true ↔
      ∃ text, Text.asciiLower text = phrase ∧ text <:+: line := by
    intro line
    rw [Text.occursIn_iff, Text.asciiLower, List.infix_map_iff]
    exact exists_congr fun text => and_comm.trans (and_congr_left' eq_comm)
  rw [denial?, List.find?_isSome]
  simp only [hlower]
  constructor
  · rintro ⟨line, hmem, text, heq, htext⟩
    exact ⟨text, heq, (hline text heq).mp ⟨line, hmem, htext⟩⟩
  · rintro ⟨text, heq, htext⟩
    obtain ⟨line, hmem, htext⟩ := (hline text heq).mpr htext
    exact ⟨line, hmem, text, heq, htext⟩

/-- **The telltales are what shows a failure.** -/
theorem phraseFailure?_isSome_iff {command : List Char} (hne : programOf command ≠ [])
    (output : List Char) :
    (phraseFailure? command output).isSome ↔
      ∃ text, Telltale (programOf command) text ∧ text <:+: output := by
  have hdenied : ∀ phrase ∈ denials, ((denial? phrase output).isSome ↔
      ∃ text, Text.asciiLower text = phrase ∧ text <:+: output) := by
    have hplain : ∀ phrase ∈ denials, phrase ≠ [] ∧ '\n' ∉ phrase ∧ '\r' ∉ phrase := by decide
    intro phrase h
    obtain ⟨hne, hfeed, hreturn⟩ := hplain phrase h
    exact denial?_isSome_iff hne hfeed hreturn
  have hnotEmpty : (!(programOf command).isEmpty) = true := by
    rw [Bool.not_eq_true', List.isEmpty_eq_false_iff]
    exact hne
  unfold phraseFailure?
  simp only [hnotEmpty, Bool.true_and, Text.occursIn_iff]
  constructor
  · intro h
    split at h
    · next ho => exact ⟨_, .notFound, ho⟩
    split at h
    · next ho => exact ⟨_, .phrase (by decide), ho⟩
    split at h
    · next ho => exact ⟨_, .phrase (by decide), ho⟩
    split at h
    · next ho => exact ⟨_, .phrase (by decide), ho⟩
    rw [Option.isSome_map, Option.orElse_eq_or, Option.isSome_or, Bool.or_eq_true] at h
    obtain ⟨phrase, hmem, h⟩ : ∃ phrase ∈ denials, (denial? phrase output).isSome :=
      h.elim (fun h => ⟨_, List.mem_cons_self, h⟩)
        fun h => ⟨_, List.mem_cons_of_mem _ List.mem_cons_self, h⟩
    obtain ⟨text, rfl, htext⟩ := (hdenied phrase hmem).mp h
    exact ⟨text, .denial hmem, htext⟩
  · rintro ⟨text, htell, htext⟩
    split
    · rfl
    split
    · rfl
    split
    · rfl
    split
    · rfl
    · next hnotFound hnoApplet hnoFile hnoOption =>
      rw [Option.isSome_map, Option.orElse_eq_or, Option.isSome_or, Bool.or_eq_true]
      cases htell with
      | notFound => exact absurd htext hnotFound
      | phrase hmem =>
        simp only [phrases, List.mem_cons, List.not_mem_nil, or_false] at hmem
        rcases hmem with rfl | rfl | rfl
        · exact absurd htext hnoApplet
        · exact absurd htext hnoFile
        · exact absurd htext hnoOption
      | denial hmem =>
        have hsome := (hdenied _ hmem).mpr ⟨text, rfl, htext⟩
        simp only [denials, List.mem_cons, List.not_mem_nil, or_false] at hmem
        rcases hmem with heq | heq
        · exact .inl (heq ▸ hsome)
        · exact .inr (heq ▸ hsome)

/-! ## Their characters and their bytes -/

/-- Whether a character is one of ASCII and no control character. -/
def isPrintable (c : Char) : Bool := 0x20 ≤ c.toNat && c.toNat ≤ 0x7E

theorem isPrintable_iff {c : Char} : isPrintable c = true ↔ 0x20 ≤ c.toNat ∧ c.toNat ≤ 0x7E := by
  simp only [isPrintable, Bool.and_eq_true, decide_eq_true_eq]

theorem isPrintable_of_toLower {c : Char} (h : isPrintable c.toLower = true) :
    isPrintable c = true := by
  rw [isPrintable_iff] at h ⊢
  delta Char.toLower at h
  split at h
  · next hupper =>
    have hrange : 0x41 ≤ c.toNat ∧ c.toNat ≤ 0x5A := by
      simpa [UInt32.le_iff_toNat_le] using hupper
    omega
  · exact h

theorem length_encode_of_printable {text : List Char} (h : text.all isPrintable = true) :
    (Utf8.encode text).length = text.length := by
  induction text with
  | nil => rfl
  | cons c text ih =>
    rw [List.all_cons, Bool.and_eq_true] at h
    have hone : Utf8.encodeChar c = [UInt8.ofNat c.toNat] :=
      Utf8.encodeChar_one (Nat.lt_of_le_of_lt (isPrintable_iff.mp h.1).2 (by decide))
    have hencode : Utf8.encode (c :: text) = Utf8.encodeChar c ++ Utf8.encode text := rfl
    rw [hencode, hone, List.singleton_append, List.length_cons, ih h.2, List.length_cons]

/-- A denial is as printable and as long as its small letters. -/
theorem denial_letters {text : List Char} (h : Text.asciiLower text ∈ denials) :
    text.all isPrintable = true ∧ text ≠ [] ∧ text.length ≤ 17 := by
  have hall : ∀ phrase ∈ denials,
      phrase.all isPrintable = true ∧ phrase ≠ [] ∧ phrase.length ≤ 17 := by decide
  obtain ⟨hletters, hne, hlength⟩ := hall _ h
  refine ⟨?_, fun hnil => hne (by rw [hnil]; rfl), ?_⟩
  · rw [List.all_eq_true] at hletters ⊢
    exact fun c hc => isPrintable_of_toLower (hletters _ (List.mem_map_of_mem hc))
  · rwa [Text.asciiLower, List.length_map] at hlength

namespace Telltale

variable {program text : List Char}

/-- A telltale is printable, but for the name of the program. -/
theorem mem (h : Telltale program text) {c : Char} (hc : c ∈ text) :
    c ∈ program ∨ isPrintable c = true := by
  cases h with
  | notFound =>
    have hall : ": not found".toList.all isPrintable = true := by decide
    exact (List.mem_append.mp hc).imp_right (List.all_eq_true.mp hall c)
  | phrase hmem =>
    have hall : ∀ text ∈ phrases, text.all isPrintable = true := by decide
    exact .inr (List.all_eq_true.mp (hall text hmem) c hc)
  | denial hmem => exact .inr (List.all_eq_true.mp (denial_letters hmem).1 c hc)

theorem ne_nil (h : Telltale program text) : text ≠ [] := by
  cases h with
  | notFound => exact List.append_ne_nil_of_right_ne_nil _ (by decide)
  | phrase hmem =>
    have hall : ∀ text ∈ phrases, text ≠ [] := by decide
    exact hall text hmem
  | denial hmem => exact (denial_letters hmem).2.1

/-- A telltale takes few bytes more than the name of the program. -/
theorem length_encode (h : Telltale program text) :
    (Utf8.encode text).length ≤ (Utf8.encode program).length + 11 ∨
      (Utf8.encode text).length ≤ 25 := by
  cases h with
  | notFound =>
    refine .inl ?_
    rw [Utf8.encode, List.flatMap_append, List.length_append]
    exact Nat.add_le_add_left (by decide) _
  | phrase hmem =>
    have hall : ∀ text ∈ phrases, (Utf8.encode text).length ≤ 25 := by decide
    exact .inr (hall text hmem)
  | denial hmem =>
    obtain ⟨hletters, -, hlength⟩ := denial_letters hmem
    rw [length_encode_of_printable hletters]
    exact .inr (Nat.le_trans hlength (by decide))

end Telltale

/-- A telltale stands among the bytes. -/
def Shows (program : List Char) (bytes : Bytes) : Prop :=
  ∃ text, Telltale program text ∧ Utf8.encode text <:+: bytes

theorem Shows.mono {program : List Char} {bytes more : Bytes} (h : Shows program bytes)
    (hmore : bytes <:+: more) : Shows program more := by
  obtain ⟨text, htell, htext⟩ := h
  exact ⟨text, htell, htext.trans hmore⟩

/-- The command has a first word, which is short and holds no replacement character. -/
structure Names (command program : List Char) : Prop where
  first : (Text.words command).head? = some program
  size : (Utf8.encode program).length ≤ 240
  plain : Utf8.replacement ∉ program

namespace Names

variable {command program text : List Char}

theorem programOf_eq (h : Names command program) : programOf command = program := by
  rw [programOf, List.headD_eq_head?_getD, h.first, Option.getD_some]

theorem isWord (h : Names command program) :
    program ≠ [] ∧ ∀ c ∈ program, Text.isBlank c = false :=
  Text.mem_words (List.mem_of_head? h.first)

/-- No line feed stands among the bytes of a telltale. -/
theorem lf_notMem (h : Names command program) (htell : Telltale program text) :
    10 ∉ Utf8.encode text := by
  intro hmem
  obtain ⟨c, hc, hb⟩ := List.mem_flatMap.mp hmem
  have hten : c.toNat = 10 := Utf8.eq_of_mem_encodeChar hb (by decide)
  rcases htell.mem hc with hprogram | hprintable
  · have hblank := h.isWord.2 c hprogram
    simp [Text.isBlank, hten] at hblank
  · have := (isPrintable_iff.mp hprintable).1
    omega

theorem plain_text (h : Names command program) (htell : Telltale program text) :
    Utf8.replacement ∉ text := by
  intro hmem
  rcases htell.mem hmem with hprogram | hprintable
  · exact h.plain hprogram
  · exact absurd hprintable (by decide)

theorem length_encode (h : Names command program) (htell : Telltale program text) :
    (Utf8.encode text).length ≤ 251 := by
  have hsize := h.size
  rcases htell.length_encode with hlength | hlength
  · omega
  · omega

/-- **What shows a failure among the bytes of an output.** -/
theorem phraseFailure?_lenient (h : Names command program) (bytes : Bytes) :
    (phraseFailure? command (Utf8.lenient bytes)).isSome ↔ Shows program bytes := by
  rw [phraseFailure?_isSome_iff (by rw [h.programOf_eq]; exact h.isWord.1), h.programOf_eq]
  refine exists_congr fun text => and_congr_right fun htell => ?_
  exact Utf8.infix_lenient_iff (h.plain_text htell)

end Names

/-! ## The last line -/

/-- Behind a line feed, the last line that is not blank stands there or in front of it. -/
theorem lastLine?_append (front behind : List Char) :
    lastLine? (front ++ '\n' :: behind) =
      (lastLine? behind).or (lastLine? (front ++ ['\n'])) := by
  have hended : Text.lines [] = [] := rfl
  rw [lastLine?, lastLine?, lastLine?, Text.lines_append, Text.lines_append, hended,
    List.append_nil, List.reverse_append, List.map_append, List.find?_append]

/-- Bytes that are whole lines: none, or a line feed comes last. -/
def WholeLines (bytes : Bytes) : Prop := bytes = [] ∨ ∃ front, bytes = front ++ [10]

theorem WholeLines.append {bytes more : Bytes} (h : WholeLines bytes) (hmore : WholeLines more) :
    WholeLines (bytes ++ more) := by
  rcases hmore with rfl | ⟨front, rfl⟩
  · rwa [List.append_nil]
  · exact .inr ⟨bytes ++ front, (List.append_assoc _ _ _).symm⟩

/-- **Of bytes that are cut behind whole lines, the last line that is not blank** stands in the
second part, or else in the first. -/
theorem lastLine?_lenient {ended : Bytes} (h : WholeLines ended) (bytes : Bytes) :
    lastLine? (Utf8.lenient (ended ++ bytes)) =
      (lastLine? (Utf8.lenient bytes)).or (lastLine? (Utf8.lenient ended)) := by
  have hfeed : ∀ bytes, Utf8.lenient (10 :: bytes) = '\n' :: Utf8.lenient bytes :=
    fun bytes => Utf8.lenient_encodeChar '\n' bytes
  rcases h with rfl | ⟨front, rfl⟩
  · have hnone : lastLine? [] = none := rfl
    rw [List.nil_append, Utf8.lenient_nil, hnone, Option.or_none]
  · rw [List.append_assoc, List.singleton_append, Utf8.lenient_append (by decide),
      Utf8.lenient_append (by decide), hfeed, hfeed, Utf8.lenient_nil, lastLine?_append]

end DebugBridge.ShellOutput
