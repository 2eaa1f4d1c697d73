import DebugBridge.Proofs.Shell.FailureScan
import Mathlib.Data.List.Infix

/-!
# Which failure is found while the output arrives

A scan looks at the lines that a piece of output ends all at once: they are a *batch*. It tries the
phrases in a fixed order over the whole batch, but takes the batches as they come. So the failure it
reports depends on where the first batch with a failure ends: among the lines from the first one
with a failure to the end of that batch, the phrase that comes first in the order wins.

Whether there is a failure does not depend on that, and neither does the failure itself as long as
no later line shows one that goes before.

* `phraseFailure?_wholeLines` — lines without a failure do not matter in front of others
* `feed_batch`, `scanAll_batches` — the batch with which a scan ends
* `scanAll_eq_iff` — when all cuts of an output come to the same
* `scanAll_two_orders` — an output with which they do not
-/

namespace DebugBridge

namespace ShellOutput

variable {command front behind : List Char}

/-! ## Lines in front of others -/

/-- The first word of a command is a word: it has letters, and no line end. -/
theorem programOf_word (h : Text.words command ≠ []) :
    programOf command ≠ [] ∧ '\n' ∉ programOf command := by
  obtain ⟨word, words, hwords⟩ := List.exists_cons_of_ne_nil h
  have hmem : programOf command ∈ Text.words command := by
    rw [programOf, hwords]
    exact List.mem_cons_self
  obtain ⟨hne, hblank⟩ := Text.mem_words hmem
  exact ⟨hne, fun hfeed => absurd (hblank '\n' hfeed) (by decide)⟩

theorem lines_wholeLines (front behind : List Char) :
    Text.lines (front ++ '\n' :: behind) = Text.lines (front ++ ['\n']) ++ Text.lines behind := by
  have hended : Text.lines [] = [] := rfl
  rw [Text.lines_append, Text.lines_append, hended, List.append_nil]

/-- What stands in none of the lines in front stands behind them, or nowhere. -/
theorem occursIn_wholeLines {run : List Char} (hfeed : '\n' ∉ run)
    (hnone : Text.occursIn run (front ++ ['\n']) = false) :
    Text.occursIn run (front ++ '\n' :: behind) = Text.occursIn run behind := by
  have hfront : ¬ run <:+: front := fun h => by
    have := Text.occursIn_iff.mpr (h.trans (List.prefix_append front ['\n']).isInfix)
    rw [hnone] at this
    cases this
  rw [Bool.eq_iff_iff, Text.occursIn_iff, Text.occursIn_iff, Text.infix_append_cons_iff hfeed]
  exact or_iff_right hfront

/-- The first line with a phrase stands behind lines that do not hold it. -/
theorem lineWith_wholeLines {phrase : List Char} (hne : phrase ≠ []) (hfeed : '\n' ∉ phrase)
    (hreturn : '\r' ∉ phrase) (hnone : Text.occursIn phrase (front ++ ['\n']) = false) :
    lineWith phrase (front ++ '\n' :: behind) = lineWith phrase behind := by
  have hlines : (Text.lines (front ++ ['\n'])).find? (Text.occursIn phrase) = none := by
    refine List.find?_eq_none.mpr fun line hmem hline => ?_
    have := (Text.exists_line_iff hne hfeed hreturn).mp ⟨line, hmem, Text.occursIn_iff.mp hline⟩
    rw [← Text.occursIn_iff, hnone] at this
    cases this
  rw [lineWith, lines_wholeLines, List.find?_append, hlines, Option.none_or, lineWith]

theorem denial?_wholeLines {phrase : List Char} (hnone : denial? phrase (front ++ ['\n']) = none) :
    denial? phrase (front ++ '\n' :: behind) = denial? phrase behind := by
  rw [denial?] at hnone
  rw [denial?, lines_wholeLines, List.find?_append, hnone, Option.none_or, denial?]

/-- **Lines that show no failure do not matter in front of others.** -/
theorem phraseFailure?_append_lf (hwords : Text.words command ≠ [])
    (hnone : phraseFailure? command (front ++ ['\n']) = none) :
    phraseFailure? command (front ++ '\n' :: behind) = phraseFailure? command behind := by
  have hplain : ∀ phrase ∈ phrases, phrase ≠ [] ∧ '\n' ∉ phrase ∧ '\r' ∉ phrase := by decide
  obtain ⟨-, happlet, -⟩ := hplain _ (List.mem_cons_self)
  obtain ⟨hfileNe, hfile, hfileReturn⟩ := hplain "No such file or directory".toList (by decide)
  obtain ⟨hoptionNe, hoption, hoptionReturn⟩ := hplain "Unknown option".toList (by decide)
  have hprogram : '\n' ∉ programOf command ++ ": not found".toList := by
    rw [List.mem_append, not_or]
    exact ⟨(programOf_word hwords).2, by decide⟩
  unfold phraseFailure? at hnone ⊢
  simp only at hnone ⊢
  split at hnone
  · cases hnone
  next hnotFound =>
  split at hnone
  · cases hnone
  next hnoApplet =>
  split at hnone
  · cases hnone
  next hnoFile =>
  split at hnone
  · cases hnone
  next hnoOption =>
  rw [Option.map_eq_none_iff, Option.orElse_eq_or, Option.or_eq_none_iff] at hnone
  simp only [Bool.not_eq_true] at hnotFound hnoApplet hnoFile hnoOption
  rw [occursIn_wholeLines happlet hnoApplet, occursIn_wholeLines hfile hnoFile,
    occursIn_wholeLines hoption hnoOption, lineWith_wholeLines hfileNe hfile hfileReturn hnoFile,
    lineWith_wholeLines hoptionNe hoption hoptionReturn hnoOption,
    denial?_wholeLines hnone.1, denial?_wholeLines hnone.2]
  have hsame : (!(programOf command).isEmpty &&
      Text.occursIn (programOf command ++ ": not found".toList) (front ++ '\n' :: behind)) =
        (!(programOf command).isEmpty &&
          Text.occursIn (programOf command ++ ": not found".toList) behind) := by
    rcases Bool.and_eq_false_iff.mp hnotFound with hempty | hnone
    · rw [hempty, Bool.false_and, Bool.false_and]
    · rw [occursIn_wholeLines hprogram hnone]
  rw [hsame]

/-- A failure in some lines is one in all. -/
theorem phraseFailure?_isSome_append (hwords : Text.words command ≠ [])
    (hsome : (phraseFailure? command front).isSome) :
    (phraseFailure? command (front ++ behind)).isSome := by
  have hne := (programOf_word hwords).1
  obtain ⟨text, htell, htext⟩ := (phraseFailure?_isSome_iff hne front).mp hsome
  exact (phraseFailure?_isSome_iff hne _).mpr
    ⟨text, htell, htext.trans (List.prefix_append front behind).isInfix⟩

/-- Nothing shows nothing. -/
theorem phraseFailure?_nil (hwords : Text.words command ≠ []) : phraseFailure? command [] = none := by
  rw [← Option.not_isSome_iff_eq_none, phraseFailure?_isSome_iff (programOf_word hwords).1]
  rintro ⟨text, htell, htext⟩
  exact htell.ne_nil (List.infix_nil.mp htext)

/-! ## The bytes of an output -/

/-- Whole lines are read by themselves, whatever stands behind them. -/
theorem lenient_wholeLines {ended : Bytes} (h : WholeLines ended) (bytes : Bytes) :
    Utf8.lenient (ended ++ bytes) = Utf8.lenient ended ++ Utf8.lenient bytes := by
  have hfeed : ∀ bytes, Utf8.lenient (10 :: bytes) = '\n' :: Utf8.lenient bytes :=
    fun bytes => Utf8.lenient_encodeChar '\n' bytes
  rcases h with rfl | ⟨front, rfl⟩
  · rw [Utf8.lenient_nil]
    rfl
  · rw [List.append_assoc, List.singleton_append, Utf8.lenient_append (by decide),
      Utf8.lenient_append (by decide), hfeed, hfeed, Utf8.lenient_nil, List.append_assoc]
    rfl

/-- **Of bytes that are cut behind whole lines without a failure, the second part shows what all of
them show.** -/
theorem phraseFailure?_wholeLines (hwords : Text.words command ≠ []) {ended : Bytes}
    (h : WholeLines ended) (hnone : phraseFailure? command (Utf8.lenient ended) = none)
    (bytes : Bytes) :
    phraseFailure? command (Utf8.lenient (ended ++ bytes)) =
      phraseFailure? command (Utf8.lenient bytes) := by
  have hfeed : ∀ bytes, Utf8.lenient (10 :: bytes) = '\n' :: Utf8.lenient bytes :=
    fun bytes => Utf8.lenient_encodeChar '\n' bytes
  rcases h with rfl | ⟨front, rfl⟩
  · rfl
  · rw [Utf8.lenient_append (by decide), hfeed, Utf8.lenient_nil] at hnone
    rw [List.append_assoc, List.singleton_append, Utf8.lenient_append (by decide), hfeed]
    exact phraseFailure?_append_lf hwords hnone

end ShellOutput

namespace FailureScan

open ShellOutput

variable {command : List Char} {scan : FailureScan} {seen : Bytes}

/-! ## Batches -/

/-- The scan goes on behind the bytes: it has looked at the lines that have ended and found nothing,
and keeps the line that has not. -/
structure Clean (scan : FailureScan) (command : List Char) (seen : Bytes) : Prop where
  asked : scan.command = command
  looked : ∃ ended, seen = ended ++ scan.unfinished ∧ WholeLines ended ∧ 10 ∉ scan.unfinished ∧
    phraseFailure? command (Utf8.lenient ended) = none ∧
    scan.lastLine = lastLine? (Utf8.lenient ended)

/-- The scan fails with what some of the lines show, from the first one on. -/
def FailsBy (command : List Char) (output : Bytes) (e : Failure) : Prop :=
  ∃ front, WholeLines front ∧ front <+: output ∧
    phraseFailure? command (Utf8.lenient front) = some e

theorem FailsBy.mono {output more : Bytes} {e : Failure} (h : FailsBy command output e)
    (hmore : output <+: more) : FailsBy command more e := by
  obtain ⟨front, hfront, hinit, he⟩ := h
  exact ⟨front, hfront, hinit.trans hmore, he⟩

/-- What a look at some lines comes to. -/
theorem look_eq (scan : FailureScan) (bytes : Bytes) :
    scan.look bytes = match phraseFailure? scan.command (Utf8.lenient bytes) with
      | some e => .error e
      | none => .ok { scan with
          lastLine := (lastLine? (Utf8.lenient bytes)).or scan.lastLine } := by
  rw [look]
  cases phraseFailure? scan.command (Utf8.lenient bytes) with
  | some e => rfl
  | none =>
    show Except.ok { scan with
      lastLine := (lastLine? (Utf8.lenient bytes)).orElse fun _ => scan.lastLine } = _
    rw [Option.orElse_eq_or]

theorem shorten_eq (h : ¬ scan.unfinished.length > maxUnfinished) : scan.shorten = .ok scan := by
  rw [shorten]
  simp only [if_neg h]
  rfl

/-- **A piece ends a batch of lines.** The scan fails with what the lines from the first one to the
end of the batch show, or it goes on. -/
theorem feed_batch (hwords : Text.words command ≠ []) (hclean : Clean scan command seen)
    (piece : Bytes) (hshort : ShortLines (seen ++ piece)) :
    (∃ e, scan.feed piece = .error e ∧ FailsBy command (seen ++ piece) e) ∨
      ∃ scan', scan.feed piece = .ok scan' ∧ Clean scan' command (seen ++ piece) := by
  obtain ⟨hcommand, before, hseen, hbefore, -, hnone, hline⟩ := hclean
  obtain ⟨hsplit, hlf, hended⟩ := splitLines_spec (scan.unfinished ++ piece)
  have hall : seen ++ piece = before ++ (splitLines (scan.unfinished ++ piece)).1 ++
      (splitLines (scan.unfinished ++ piece)).2 := by
    rw [List.append_assoc, hsplit, hseen, List.append_assoc]
  rw [feed]
  simp only
  generalize (splitLines (scan.unfinished ++ piece)).1 = ended at *
  generalize (splitLines (scan.unfinished ++ piece)).2 = rest at *
  -- what has not ended is a line, and so it is not too long
  have hfits : ¬ rest.length > maxUnfinished := by
    refine Nat.not_lt.mpr (hshort rest ?_ hlf)
    rw [hall]
    exact (List.suffix_append _ _).isInfix
  have hlast : (lastLine? (Utf8.lenient ended)).or scan.lastLine =
      lastLine? (Utf8.lenient (before ++ ended)) := by
    rw [lastLine?_lenient hbefore, hline]
  have hfound := phraseFailure?_wholeLines hwords hbefore hnone ended
  rw [← hcommand] at hfound
  split
  · next hempty =>
    obtain rfl : ended = [] := List.isEmpty_iff.mp hempty
    refine .inr ⟨{ scan with unfinished := rest }, shorten_eq hfits, hcommand, before, ?_⟩
    rw [List.append_nil] at hall
    exact ⟨hall, hbefore, hlf, hnone, hline⟩
  · rw [look_eq]
    cases hbatch : phraseFailure? scan.command (Utf8.lenient ended) with
    | some e =>
      refine .inl ⟨e, rfl, before ++ ended, hbefore.append hended, ?_, ?_⟩
      · rw [hall]
        exact List.prefix_append _ _
      · rw [← hcommand, hfound, hbatch]
    | none =>
      refine .inr ⟨_, shorten_eq hfits, hcommand, before ++ ended, hall, hbefore.append hended, hlf,
        ?_, hlast⟩
      rw [← hcommand, hfound, hbatch]

/-- All pieces, as long as no line is too long. -/
theorem foldlM_feed_batches (hwords : Text.words command ≠ []) (pieces : List Bytes)
    (hclean : Clean scan command seen) (hshort : ShortLines (seen ++ pieces.flatten)) :
    (∃ e, pieces.foldlM feed scan = .error e ∧ FailsBy command (seen ++ pieces.flatten) e) ∨
      ∃ scan', pieces.foldlM feed scan = .ok scan' ∧
        Clean scan' command (seen ++ pieces.flatten) := by
  induction pieces generalizing scan seen with
  | nil =>
    rw [List.flatten_nil, List.append_nil]
    exact .inr ⟨scan, rfl, hclean⟩
  | cons piece pieces ih =>
    have hflatten : seen ++ (piece :: pieces).flatten = seen ++ piece ++ pieces.flatten := by
      rw [List.flatten_cons, List.append_assoc]
    rw [hflatten] at hshort ⊢
    rw [List.foldlM_cons]
    -- the lines seen so far are lines of the whole
    have hseen : ShortLines (seen ++ piece) := fun line hline =>
      hshort line (hline.trans (List.prefix_append _ _).isInfix)
    rcases feed_batch hwords hclean piece hseen with ⟨e, hfeed, he⟩ | ⟨scan', hfeed, hclean'⟩
    · rw [hfeed]
      exact .inl ⟨e, rfl, he.mono (List.prefix_append _ _)⟩
    · rw [hfeed]
      exact ih hclean' hshort

/-! ## All batches -/

/-- What is found behind lines without a failure: what the unfinished line shows, or else what the
last line does. -/
def atEnd (command : List Char) (output : Bytes) : Except Failure Unit :=
  orFail ((phraseFailure? command (Utf8.lenient (splitLines output).2)).or
    (lastLineFailure? (lastLine? (Utf8.lenient output))))

/-- Whole lines and a rest without a line feed are found by cutting. -/
theorem splitLines_append {ended rest : Bytes} (hended : WholeLines ended) (hlf : 10 ∉ rest) :
    splitLines (ended ++ rest) = (ended, rest) := by
  have hrest : ∀ b ∈ rest.reverse, (b != 10) = true := by
    intro b hb
    rw [bne_iff_ne]
    rintro rfl
    exact hlf (List.mem_reverse.mp hb)
  rw [splitLines, List.reverse_append, List.dropWhile_append_of_pos hrest,
    List.takeWhile_append_of_pos hrest]
  rcases hended with rfl | ⟨front, rfl⟩
  · rw [List.reverse_nil, List.dropWhile_nil, List.takeWhile_nil, List.append_nil,
      List.reverse_reverse, List.reverse_nil]
  · rw [List.reverse_append, List.reverse_singleton, List.singleton_append,
      List.dropWhile_cons_of_neg (by decide), List.takeWhile_cons_of_neg (by decide),
      List.append_nil, List.reverse_reverse, List.reverse_cons, List.reverse_reverse]

/-- Whole lines in front of an output are lines that have ended. -/
theorem prefix_wholeLines {front ended rest : Bytes} (hlf : 10 ∉ rest) (hfront : WholeLines front)
    (hinit : front <+: ended ++ rest) : front <+: ended := by
  rcases List.prefix_or_prefix_of_prefix hinit (List.prefix_append ended rest) with h | ⟨more, h⟩
  · exact h
  · subst h
    -- a line feed behind the lines that have ended would stand in the rest
    have hmore : more <+: rest := (List.prefix_append_right_inj ended).mp hinit
    rcases List.eq_nil_or_concat more with rfl | ⟨init, b, rfl⟩
    · rw [List.append_nil]
    · rw [List.concat_eq_append] at hmore hfront
      rcases hfront with hnil | ⟨lines, hlines⟩
      · simp at hnil
      · rw [← List.append_assoc] at hlines
        obtain ⟨-, hb⟩ := List.append_inj' hlines rfl
        cases hb
        exact absurd (hmore.subset (List.mem_append_right init List.mem_cons_self)) hlf

/-- **A scan fails with what the lines up to the end of a batch show, or it comes to the end.** -/
theorem scanAll_batches (hwords : Text.words command ≠ []) (pieces : List Bytes)
    (hshort : ShortLines pieces.flatten) :
    (∃ e, scanAll command pieces = .error e ∧ FailsBy command pieces.flatten e) ∨
      phraseFailure? command (Utf8.lenient (splitLines pieces.flatten).1) = none ∧
        scanAll command pieces = atEnd command pieces.flatten := by
  have hclean : Clean { command } command [] := by
    refine ⟨rfl, [], rfl, .inl rfl, List.not_mem_nil, ?_, ?_⟩
    · rw [Utf8.lenient_nil]
      exact phraseFailure?_nil hwords
    · rw [Utf8.lenient_nil]
      rfl
  have hfold := foldlM_feed_batches hwords pieces hclean hshort
  rw [List.nil_append] at hfold
  rw [scanAll]
  rcases hfold with ⟨e, hfold, he⟩ | ⟨scan, hfold, hcommand, ended, hseen, hended, hlf, hnone, hline⟩
  · rw [hfold]
    exact .inl ⟨e, rfl, he⟩
  · rw [hfold, hseen, splitLines_append hended hlf]
    refine .inr ⟨hnone, ?_⟩
    show scan.finish = _
    rw [finish, look_eq, hcommand, atEnd, splitLines_append hended hlf, lastLine?_lenient hended,
      hline]
    cases phraseFailure? command (Utf8.lenient scan.unfinished) with
    | some e => rfl
    | none => rfl

/-- A first piece whose lines show a failure ends the scan with it. -/
theorem scanAll_first (hwords : Text.words command ≠ []) {piece : Bytes} {e : Failure}
    (h : phraseFailure? command (Utf8.lenient (splitLines piece).1) = some e)
    (pieces : List Bytes) : scanAll command (piece :: pieces) = .error e := by
  have hne : (splitLines piece).1.isEmpty = false := by
    refine Bool.eq_false_iff.mpr fun hempty => ?_
    rw [List.isEmpty_iff.mp hempty, Utf8.lenient_nil, phraseFailure?_nil hwords] at h
    cases h
  have hfeed : feed { command } piece = .error e := by
    rw [feed]
    simp only [List.nil_append, hne, Bool.false_eq_true, if_false, look_eq, h]
    rfl
  rw [scanAll, List.foldlM_cons, hfeed]
  rfl

/-! ## All cuts of an output -/

/-- Some lines that show a failure make all lines show one. -/
theorem FailsBy.shown (hwords : Text.words command ≠ []) {output : Bytes} {e : Failure}
    (h : FailsBy command output e) :
    ∃ e', phraseFailure? command (Utf8.lenient (splitLines output).1) = some e' := by
  obtain ⟨hsplit, hlf, -⟩ := splitLines_spec output
  obtain ⟨front, hfront, hinit, he⟩ := h
  rw [← hsplit] at hinit
  obtain ⟨more, hmore⟩ := prefix_wholeLines hlf hfront hinit
  rw [← Option.isSome_iff_exists, ← hmore, lenient_wholeLines hfront]
  exact phraseFailure?_isSome_append hwords (by rw [he]; rfl)

/-- Where the lines show a failure, every scan fails with what some of them show. -/
theorem scanAll_shown (hwords : Text.words command ≠ []) {pieces : List Bytes}
    (hshort : ShortLines pieces.flatten) {e : Failure}
    (h : phraseFailure? command (Utf8.lenient (splitLines pieces.flatten).1) = some e) :
    ∃ e', scanAll command pieces = .error e' ∧ FailsBy command pieces.flatten e' := by
  rcases scanAll_batches hwords pieces hshort with hfails | ⟨hnone, -⟩
  · exact hfails
  · rw [h] at hnone
    cases hnone

/-- Where they show none, every scan comes to the end. -/
theorem scanAll_unshown (hwords : Text.words command ≠ []) {pieces : List Bytes}
    (hshort : ShortLines pieces.flatten)
    (h : phraseFailure? command (Utf8.lenient (splitLines pieces.flatten).1) = none) :
    scanAll command pieces = atEnd command pieces.flatten := by
  rcases scanAll_batches hwords pieces hshort with ⟨e, -, hfails⟩ | ⟨-, hend⟩
  · obtain ⟨e', he'⟩ := hfails.shown hwords
    rw [h] at he'
    cases he'
  · exact hend

/-- **Whether a scan fails does not depend on how the output was cut; with what it fails depends on
the lines behind the first failure.** For a command with a first word and output without lines of
more than 65536 bytes, all cuts come to the same exactly if the lines up to any line end that show a
failure show the one that all lines show. -/
theorem scanAll_eq_iff (command : String) (hwords : Text.words command.toList ≠ []) (output : Bytes)
    (hshort : ∀ line, line <:+: output → 10 ∉ line → line.length ≤ 65536) :
    (∀ pieces pieces' : List Bytes, pieces.flatten = output → pieces'.flatten = output →
      ((∃ e, scanAll command.toList pieces = .error e) ↔
        ∃ e, scanAll command.toList pieces' = .error e)) ∧
    ((∀ pieces pieces' : List Bytes, pieces.flatten = output → pieces'.flatten = output →
      scanAll command.toList pieces = scanAll command.toList pieces') ↔
        ∀ e, FailsBy command.toList output e →
          phraseFailure? command.toList (Utf8.lenient (splitLines output).1) = some e) := by
  cases hall : phraseFailure? command.toList (Utf8.lenient (splitLines output).1) with
  | none =>
    have hend : ∀ pieces : List Bytes, pieces.flatten = output →
        scanAll command.toList pieces = atEnd command.toList output := by
      rintro pieces rfl
      exact scanAll_unshown hwords hshort hall
    refine ⟨fun pieces pieces' h h' => by rw [hend pieces h, hend pieces' h'],
      fun _ e hfails => ?_, fun _ pieces pieces' h h' => by rw [hend pieces h, hend pieces' h']⟩
    obtain ⟨e', he'⟩ := hfails.shown hwords
    rw [hall] at he'
    cases he'
  | some e =>
    have hfail : ∀ pieces : List Bytes, pieces.flatten = output →
        ∃ e', scanAll command.toList pieces = .error e' ∧ FailsBy command.toList output e' := by
      rintro pieces rfl
      exact scanAll_shown hwords hshort hall
    refine ⟨fun pieces pieces' h h' => ?_, fun hsame e' hfails => ?_,
      fun hone pieces pieces' h h' => ?_⟩
    · obtain ⟨e₁, h₁, -⟩ := hfail pieces h
      obtain ⟨e₂, h₂, -⟩ := hfail pieces' h'
      exact ⟨fun _ => ⟨e₂, h₂⟩, fun _ => ⟨e₁, h₁⟩⟩
    · -- cut behind those lines, the output fails with what they show; in one piece, with what all do
      obtain ⟨front, hfront, ⟨rest, rfl⟩, he'⟩ := hfails
      have hlines : splitLines front = (front, []) := by
        have hcut := @splitLines_append front [] hfront List.not_mem_nil
        rwa [List.append_nil] at hcut
      have hcut := scanAll_first hwords (by rw [hlines]; exact he') [rest]
      have hwhole := scanAll_first hwords hall []
      rw [hsame _ [front, rest] (List.flatten_singleton) (by simp), hcut] at hwhole
      exact congrArg some (Except.error.inj hwhole).symm
    · obtain ⟨e₁, h₁, hfails₁⟩ := hfail pieces h
      obtain ⟨e₂, h₂, hfails₂⟩ := hfail pieces' h'
      rw [h₁, h₂, Option.some.inj ((hone e₁ hfails₁).symm.trans (hone e₂ hfails₂))]

/-- One line that shows a failure, in one piece and cut inside the phrase. -/
theorem scanAll_eq_iff_one_line :
    scanAll "cat /a".toList [Utf8.ofString "cat: /a: Permission denied\n"] =
      scanAll "cat /a".toList
        [Utf8.ofString "cat: /a: Permis", Utf8.ofString "sion denied\n"] := by
  have hshort : (Utf8.ofString "cat: /a: Permission denied\n").length ≤ 65536 := by decide
  refine (scanAll_eq_iff "cat /a" (by decide) (Utf8.ofString "cat: /a: Permission denied\n")
    fun line hline _ => Nat.le_trans hline.length_le hshort).2.mpr ?_ _ _ (by decide) (by decide)
  rintro e ⟨front, hfront, hinit, he⟩
  -- the lines in front are none, or the only one
  have hlines : ∀ front ∈ (Utf8.ofString "cat: /a: Permission denied\n").inits,
      front.getLast? = some 10 → front = Utf8.ofString "cat: /a: Permission denied\n" := by decide
  rcases hfront with rfl | ⟨line, rfl⟩
  · rw [Utf8.lenient_nil, phraseFailure?_nil (by decide)] at he
    cases he
  · rw [hlines _ ((List.mem_inits _ _).mpr hinit) List.getLast?_concat] at he
    exact he

/-- Two lines that show failures: in one piece the second one goes before, in two pieces the first
one is found first. -/
theorem scanAll_two_orders :
    [Utf8.ofString "cat: /a: Permission denied\ncat: /b: No such file or directory\n"].flatten =
      [Utf8.ofString "cat: /a: Permission denied\n",
        Utf8.ofString "cat: /b: No such file or directory\n"].flatten ∧
    scanAll "cat /a /b".toList [Utf8.ofString
        "cat: /a: Permission denied\ncat: /b: No such file or directory\n"] =
      .error (.fileNotFound "cat: /b: No such file or directory") ∧
    scanAll "cat /a /b".toList [Utf8.ofString "cat: /a: Permission denied\n",
        Utf8.ofString "cat: /b: No such file or directory\n"] =
      .error (.permissionDenied "cat: /a: Permission denied") := by
  have hwords : Text.words "cat /a /b".toList ≠ [] := by decide
  have hboth : splitLines (Utf8.ofString
      "cat: /a: Permission denied\ncat: /b: No such file or directory\n") =
      (Utf8.ofString "cat: /a: Permission denied\ncat: /b: No such file or directory\n", []) := by
    decide
  have hfirst : splitLines (Utf8.ofString "cat: /a: Permission denied\n") =
      (Utf8.ofString "cat: /a: Permission denied\n", []) := by decide
  refine ⟨by decide, ?_, ?_⟩
  · refine scanAll_first hwords ?_ []
    rw [hboth, Utf8.lenient_ofString]
    decide
  · refine scanAll_first hwords ?_ _
    rw [hfirst, Utf8.lenient_ofString]
    decide

end FailureScan

end DebugBridge
