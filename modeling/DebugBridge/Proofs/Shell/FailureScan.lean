import DebugBridge.Proofs.Shell.Failures
import DebugBridge.Shell.FailureScan
import Mathlib.Data.List.TakeWhile

/-!
# Failures found while the output arrives

However output is cut into pieces, a scan finds a phrase in it exactly if the phrase stands in the
whole. What the scan drops are lines that have ended, behind which a phrase starts anew, and the
front of a line that is too long, of which it keeps more bytes than a phrase has in front of its
last one. As long as no line is too long nothing else is dropped, and the scan knows the last line
that is not blank.

* `Searched`, `LinesKept` — what a scan that goes on has made of the bytes so far; `feed_cases`,
  that each piece keeps them
* `scanAll_cases` — how a scan ends
* `scan_as_whole` — what it finds, compared with a search of the whole output
-/

namespace DebugBridge.FailureScan

open ShellOutput

variable {command program : List Char} {scan : FailureScan}

/-- Looks for failures in output that arrives in pieces, up to its end. -/
def scanAll (command : List Char) (pieces : List Bytes) : Except Failure Unit := do
  let scan ← pieces.foldlM feed { command }
  scan.finish

/-! ## Where bytes may be dropped -/

/-- Behind a line feed a telltale starts anew. -/
theorem shows_append_lf (h : Names command program) (front behind : Bytes) :
    Shows program (front ++ 10 :: behind) ↔ Shows program front ∨ Shows program behind := by
  rw [Shows, Shows, Shows, ← exists_or]
  refine exists_congr fun text => ?_
  rw [← and_or_left]
  exact and_congr_right fun htell => Text.infix_append_cons_iff (h.lf_notMem htell)

/-- A telltale that ends behind some bytes starts in the last of them. -/
theorem shows_drop (h : Names command program) {bytes : Bytes} (hnone : ¬ Shows program bytes)
    (more : Bytes) :
    Shows program (bytes ++ more) ↔
      Shows program (bytes.drop (bytes.length - overlap) ++ more) := by
  constructor
  · rintro ⟨text, htell, htext⟩
    refine ⟨text, htell, ?_⟩
    rcases List.infix_append_iff.mp htext with hin | hin | ⟨start, rest, heq, hstart, hrest⟩
    · exact absurd ⟨text, htell, hin⟩ hnone
    · exact hin.trans (List.suffix_append _ _).isInfix
    · refine List.infix_append_iff.mpr (.inr (.inr ⟨start, rest, heq, ?_, hrest⟩))
      have hlength := h.length_encode htell
      have hle := hstart.length_le
      rw [heq, List.length_append] at hlength
      refine List.suffix_of_suffix_length_le hstart (List.drop_suffix _ _) ?_
      rw [List.length_drop, overlap]
      omega
  · intro hdrop
    refine hdrop.mono (List.IsSuffix.isInfix ?_)
    obtain ⟨front, hfront⟩ := List.drop_suffix (bytes.length - overlap) bytes
    exact ⟨front, by rw [← List.append_assoc, hfront]⟩

/-- Bytes are cut behind their whole lines. -/
theorem splitLines_spec (bytes : Bytes) :
    (splitLines bytes).1 ++ (splitLines bytes).2 = bytes ∧ 10 ∉ (splitLines bytes).2 ∧
      WholeLines (splitLines bytes).1 := by
  refine ⟨?_, ?_, ?_⟩
  · rw [splitLines, ← List.reverse_append, List.takeWhile_append_dropWhile, List.reverse_reverse]
  · intro hmem
    have := List.mem_takeWhile_imp (List.mem_reverse.mp hmem)
    exact absurd this (by decide)
  · have hhead := List.head?_dropWhile_not (· != 10) bytes.reverse
    rw [splitLines]
    cases hd : bytes.reverse.dropWhile (· != 10) with
    | nil => exact .inl rfl
    | cons b rest =>
      rw [hd] at hhead
      have hb : b = 10 := by simpa using hhead
      exact .inr ⟨rest.reverse, by rw [hb, List.reverse_cons]⟩

/-! ## One look -/

/-- **A look fails by a phrase exactly if a telltale stands in the bytes**; else it takes note of
the last line. -/
theorem look_cases (h : Names command program) (scan : FailureScan)
    (hc : scan.command = command) (bytes : Bytes) :
    (∃ e, scan.look bytes = .error e ∧ ByPhrase e ∧ Shows program bytes) ∨
    (¬ Shows program bytes ∧ scan.look bytes =
      .ok { scan with lastLine := (lastLine? (Utf8.lenient bytes)).or scan.lastLine }) := by
  have hiff := h.phraseFailure?_lenient bytes
  subst hc
  rw [look]
  cases hfound : phraseFailure? scan.command (Utf8.lenient bytes) with
  | some e =>
    rw [hfound] at hiff
    exact .inl ⟨e, rfl, byPhrase_of_phraseFailure? hfound, hiff.mp rfl⟩
  | none =>
    rw [hfound] at hiff
    refine .inr ⟨fun hshows => absurd (hiff.mpr hshows) Bool.false_ne_true, ?_⟩
    show Except.ok { scan with
      lastLine := (lastLine? (Utf8.lenient bytes)).orElse fun _ => scan.lastLine } = _
    rw [Option.orElse_eq_or]

theorem shorten_cases (h : Names command program) (hc : scan.command = command) :
    (scan.unfinished.length ≤ maxUnfinished ∧ scan.shorten = .ok scan) ∨
    maxUnfinished < scan.unfinished.length ∧
      ((∃ e, scan.shorten = .error e ∧ ByPhrase e ∧ Shows program scan.unfinished) ∨
        ¬ Shows program scan.unfinished ∧ scan.shorten = .ok { scan with
          unfinished := scan.unfinished.drop (scan.unfinished.length - overlap) }) := by
  have hiff := h.phraseFailure?_lenient scan.unfinished
  subst hc
  rw [shorten]
  by_cases hlong : scan.unfinished.length > maxUnfinished
  · refine .inr ⟨hlong, ?_⟩
    simp only [if_pos hlong]
    cases hfound : phraseFailure? scan.command (Utf8.lenient scan.unfinished) with
    | some e =>
      rw [hfound] at hiff
      exact .inl ⟨e, rfl, byPhrase_of_phraseFailure? hfound, hiff.mp rfl⟩
    | none =>
      rw [hfound] at hiff
      exact .inr ⟨fun hshows => absurd (hiff.mpr hshows) Bool.false_ne_true, rfl⟩
  · refine .inl ⟨Nat.le_of_not_lt hlong, ?_⟩
    simp only [if_neg hlong]
    rfl

/-! ## One piece -/

/-- The scan has seen the bytes and found nothing: whatever comes, a telltale stands in all of it
exactly if one stands in what the scan has kept and what comes. -/
structure Searched (scan : FailureScan) (command program : List Char) (seen : Bytes) : Prop where
  command : scan.command = command
  kept : ∀ more, Shows program (seen ++ more) ↔ Shows program (scan.unfinished ++ more)

/-- The scan has kept the line that has not ended, and knows the last line of those that have. -/
def LinesKept (scan : FailureScan) (seen : Bytes) : Prop :=
  ∃ ended, seen = ended ++ scan.unfinished ∧ WholeLines ended ∧
    scan.lastLine = lastLine? (Utf8.lenient ended)

/-- No line of the bytes is too long to be kept. -/
def ShortLines (bytes : Bytes) : Prop :=
  ∀ line, line <:+: bytes → 10 ∉ line → line.length ≤ maxUnfinished

section Steps

variable {seen ended rest : Bytes}

theorem Searched.shows_iff (hs : Searched scan command program seen) :
    Shows program seen ↔ Shows program scan.unfinished := by
  have := hs.kept []
  rwa [List.append_nil, List.append_nil] at this

theorem Searched.take (hs : Searched scan command program seen) (piece : Bytes) :
    Searched { scan with unfinished := scan.unfinished ++ piece } command program
      (seen ++ piece) :=
  ⟨hs.command, fun more => by rw [List.append_assoc, hs.kept, List.append_assoc]⟩

/-- Lines that have ended and hold no telltale are dropped. -/
theorem Searched.endLines (h : Names command program) (hended : WholeLines ended)
    (hnone : ¬ Shows program ended)
    (hs : Searched { scan with unfinished := ended ++ rest } command program seen)
    (lastLine : Option (List Char)) :
    Searched { scan with unfinished := rest, lastLine } command program seen := by
  refine ⟨hs.command, fun more => ?_⟩
  rw [hs.kept]
  rcases hended with rfl | ⟨front, rfl⟩
  · rfl
  · have hfront : ¬ Shows program front := fun hshows =>
      hnone (hshows.mono (List.prefix_append _ _).isInfix)
    show Shows program (front ++ [10] ++ rest ++ more) ↔ Shows program (rest ++ more)
    rw [List.append_assoc, List.append_assoc, List.singleton_append, shows_append_lf h]
    exact or_iff_right hfront

theorem LinesKept.take (hk : LinesKept scan seen) (piece : Bytes) :
    LinesKept { scan with unfinished := scan.unfinished ++ piece } (seen ++ piece) := by
  obtain ⟨before, rfl, hbefore, hline⟩ := hk
  exact ⟨before, List.append_assoc _ _ _, hbefore, hline⟩

/-- Of lines that have ended the last one is known. -/
theorem LinesKept.endLines (hended : WholeLines ended)
    (hk : LinesKept { scan with unfinished := ended ++ rest } seen) :
    LinesKept { scan with
      unfinished := rest
      lastLine := (lastLine? (Utf8.lenient ended)).or scan.lastLine } seen := by
  obtain ⟨before, rfl, hbefore, hline⟩ := hk
  refine ⟨before ++ ended, (List.append_assoc _ _ _).symm, hbefore.append hended, ?_⟩
  rw [lastLine?_lenient hbefore, ← hline]

end Steps

/-- A look at nothing changes nothing. -/
theorem look_nil (h : Names command program) (scan : FailureScan)
    (hc : scan.command = command) :
    scan.look [] = .ok scan := by
  rcases look_cases h scan hc [] with ⟨e, -, -, text, htell, htext⟩ | ⟨-, hlook⟩
  · obtain ⟨c, rest, rfl⟩ := List.exists_cons_of_ne_nil htell.ne_nil
    have hnil := List.infix_nil.mp htext
    exact absurd (List.append_eq_nil_iff.mp hnil).1 (Utf8.encodeChar_ne_nil c)
  · rw [hlook, Utf8.lenient_nil]
    rfl

/-- A piece is taken by looking at the lines that have ended and keeping the rest. -/
theorem feed_eq (h : Names command program) (hc : scan.command = command) (piece : Bytes) :
    scan.feed piece = (do
      let looked ← look { scan with unfinished := (splitLines (scan.unfinished ++ piece)).2 }
        (splitLines (scan.unfinished ++ piece)).1
      looked.shorten) := by
  rw [feed]
  simp only
  split
  · next hnil =>
    have hnone := look_nil h
      { scan with unfinished := (splitLines (scan.unfinished ++ piece)).2 } hc
    rw [List.isEmpty_iff.mp hnil, hnone]
    rfl
  · rfl

/-- **A piece shows a failure with what came before it, or the scan goes on.** -/
theorem feed_cases (h : Names command program) {seen : Bytes}
    (hs : Searched scan command program seen) (piece : Bytes) :
    (∃ e, scan.feed piece = .error e ∧ ByPhrase e ∧ Shows program (seen ++ piece)) ∨
    ∃ scan', scan.feed piece = .ok scan' ∧ Searched scan' command program (seen ++ piece) ∧
      (ShortLines (seen ++ piece) → LinesKept scan seen → LinesKept scan' (seen ++ piece)) := by
  -- take the piece, look at the lines that it ends, and shorten what is left
  obtain ⟨hsplit, hlf, hended⟩ := splitLines_spec (scan.unfinished ++ piece)
  have htaken := hs.take piece
  rw [feed_eq h hs.command]
  rw [← hsplit] at htaken
  generalize (splitLines (scan.unfinished ++ piece)).1 = ended at *
  generalize (splitLines (scan.unfinished ++ piece)).2 = rest at *
  rcases look_cases h { scan with unfinished := rest } hs.command ended with
    ⟨e, hlook, he, hshows⟩ | ⟨hnone, hlook⟩
  · refine .inl ⟨e, by rw [hlook]; rfl, he, htaken.shows_iff.mpr ?_⟩
    exact hshows.mono (List.prefix_append _ _).isInfix
  · have hlooked := htaken.endLines h hended hnone
      ((lastLine? (Utf8.lenient ended)).or scan.lastLine)
    have hlines : LinesKept scan seen → LinesKept _ (seen ++ piece) := fun hk =>
      .endLines hended (hsplit ▸ hk.take piece)
    rw [hlook]
    show (∃ e, shorten _ = .error e ∧ _) ∨ ∃ scan', shorten _ = .ok scan' ∧ _
    rcases shorten_cases h hlooked.command with
      ⟨-, hok⟩ | ⟨hlong, ⟨e, herror, he, hshows⟩ | ⟨hclean, hok⟩⟩
    · exact .inr ⟨_, hok, hlooked, fun _ => hlines⟩
    · exact .inl ⟨e, herror, he, hlooked.shows_iff.mpr hshows⟩
    · -- an overlong line was searched, and its end is kept
      refine .inr ⟨_, hok, ⟨hs.command, fun more => ?_⟩, fun hshort hk => ?_⟩
      · rw [hlooked.kept, shows_drop h hclean]
      · -- a line that was too long would have been a long line of what was seen
        obtain ⟨before, hbefore, -, -⟩ := hlines hk
        have hline := hshort rest (by rw [hbefore]; exact (List.suffix_append _ _).isInfix) hlf
        exact absurd hlong (Nat.not_lt.mpr hline)

/-! ## All pieces -/

/-- The pieces show a failure, or the scan goes on behind all of them. -/
theorem foldlM_feed_cases (h : Names command program) (pieces : List Bytes) {seen : Bytes}
    (hs : Searched scan command program seen) :
    (∃ e, pieces.foldlM feed scan = .error e ∧ ByPhrase e ∧
      Shows program (seen ++ pieces.flatten)) ∨
    ∃ scan', pieces.foldlM feed scan = .ok scan' ∧
      Searched scan' command program (seen ++ pieces.flatten) ∧
      (ShortLines (seen ++ pieces.flatten) → LinesKept scan seen →
        LinesKept scan' (seen ++ pieces.flatten)) := by
  induction pieces generalizing scan seen with
  | nil =>
    rw [List.flatten_nil, List.append_nil]
    exact .inr ⟨scan, rfl, hs, fun _ hlines => hlines⟩
  | cons piece pieces ih =>
    have hflatten : seen ++ (piece :: pieces).flatten = seen ++ piece ++ pieces.flatten := by
      rw [List.flatten_cons, List.append_assoc]
    rw [hflatten, List.foldlM_cons]
    rcases feed_cases h hs piece with ⟨e, hfeed, he, hshows⟩ | ⟨scan', hfeed, hs', hlines⟩
    · refine .inl ⟨e, ?_, he, hshows.mono (List.prefix_append _ _).isInfix⟩
      rw [hfeed]
      rfl
    · rw [hfeed]
      show (∃ e, pieces.foldlM feed scan' = .error e ∧ _) ∨
        ∃ scan'', pieces.foldlM feed scan' = .ok scan'' ∧ _
      refine (ih hs').imp id ?_
      rintro ⟨scan'', hfold, hs'', hlines'⟩
      refine ⟨scan'', hfold, hs'', fun hshort hkept => hlines' hshort (hlines ?_ hkept)⟩
      -- the lines seen so far are lines of the whole
      exact fun line hline => hshort line (hline.trans (List.prefix_append _ _).isInfix)

/-- **A scan finds a phrase, or there is none and it ends with what a last line shows**; if no line
is too long that is the last line of the whole output. -/
theorem scanAll_cases (h : Names command program) (pieces : List Bytes) :
    (∃ e, scanAll command pieces = .error e ∧ ByPhrase e ∧ Shows program pieces.flatten) ∨
    ¬ Shows program pieces.flatten ∧ ∃ last,
      scanAll command pieces = orFail (lastLineFailure? last) ∧
      (ShortLines pieces.flatten → last = lastLine? (Utf8.lenient pieces.flatten)) := by
  have hs : Searched { command } command program [] := ⟨rfl, fun more => Iff.rfl⟩
  have hkept : LinesKept { command } [] := ⟨[], rfl, .inl rfl, by rw [Utf8.lenient_nil]; rfl⟩
  have hfold := foldlM_feed_cases h pieces hs
  rw [List.nil_append] at hfold
  rw [scanAll]
  rcases hfold with ⟨e, hfold, he, hshows⟩ | ⟨scan, hfold, hs', hlines⟩
  · refine .inl ⟨e, ?_, he, hshows⟩
    rw [hfold]
    rfl
  · rw [hfold]
    show (∃ e, scan.finish = .error e ∧ _) ∨ _ ∧ ∃ last, scan.finish = _ ∧ _
    rw [finish, hs'.shows_iff]
    rcases look_cases h scan hs'.command scan.unfinished with ⟨e, hlook, he, hshows⟩ | ⟨hnone, hlook⟩
    · rw [hlook]
      exact .inl ⟨e, rfl, he, hshows⟩
    · rw [hlook]
      refine .inr ⟨hnone, _, rfl, fun hshort => ?_⟩
      obtain ⟨ended, heq, hended, hline⟩ := hlines hshort hkept
      rw [heq, lastLine?_lenient hended, hline]

/-! ## The scan and the whole output -/

/-- **A scan finds in pieces what a search finds in the whole output.** For a command with a first
word of at most 240 bytes and without a replacement character, and for output that is cut into any
pieces, the scan fails by a phrase exactly if a search of the whole output does, however long its
lines are; and if no line has more than 65536 bytes, the scan fails exactly if a check of the whole
output does. -/
theorem scan_as_whole (command : String) {program : List Char}
    (h : Names command.toList program) (pieces : List Bytes) :
    ((∃ e, scanAll command.toList pieces = .error e ∧ ByPhrase e) ↔
      ∃ e, phraseFailure? command.toList (Utf8.lenient pieces.flatten) = some e) ∧
    ((∀ line, line <:+: pieces.flatten → 10 ∉ line → line.length ≤ 65536) →
      ((∃ e, scanAll command.toList pieces = .error e) ↔
        ∃ e, check command (Utf8.lenientString pieces.flatten) = .error e)) := by
  have hphrase := h.phraseFailure?_lenient pieces.flatten
  rw [Option.isSome_iff_exists] at hphrase
  have hcheck : check command (Utf8.lenientString pieces.flatten) =
      orFail ((phraseFailure? command.toList (Utf8.lenient pieces.flatten)).or
        (lastLineFailure? (lastLine? (Utf8.lenient pieces.flatten)))) := by
    rw [check, failure?, Utf8.lenientString, String.toList_ofList, Option.orElse_eq_or]
    rfl
  rw [hcheck]
  rcases scanAll_cases h pieces with ⟨e, hscan, he, hshows⟩ | ⟨hnone, last, hscan, hlast⟩
  · obtain ⟨e', hfound⟩ := hphrase.mpr hshows
    rw [hscan, hfound, Option.some_or]
    refine ⟨⟨fun _ => ⟨e', rfl⟩, fun _ => ⟨e, rfl, he⟩⟩, fun _ => ?_⟩
    exact ⟨fun _ => ⟨e', rfl⟩, fun _ => ⟨e, rfl⟩⟩
  · have hclean : phraseFailure? command.toList (Utf8.lenient pieces.flatten) = none :=
      Option.eq_none_iff_forall_ne_some.mpr fun e he => hnone (hphrase.mp ⟨e, he⟩)
    rw [hscan, hclean, Option.none_or]
    refine ⟨⟨?_, ?_⟩, fun hshort => by rw [hlast hshort]⟩
    · -- what a last line shows is no phrase
      rintro ⟨e, herror, he⟩
      rw [lastLineFailure?] at herror
      cases hfilter : last.filter (Text.endsWith "Aborting.".toList) with
      | none =>
        rw [hfilter] at herror
        cases herror
      | some line =>
        rw [hfilter] at herror
        cases herror
        cases he
    · rintro ⟨e, he⟩
      cases he

/-- A phrase that is cut in two, and a last line that is. -/
theorem scan_as_whole_cut :
    (∃ e, scanAll "ls /x".toList
      [Utf8.ofString "ls: /x: No such fi", Utf8.ofString "le or directory\n"] = .error e ∧
        ByPhrase e) ∧
    ∃ e, scanAll "pm list".toList
      [Utf8.ofString "Ready\nAbor", Utf8.ofString "ting.\n \n"] = .error e := by
  have hls : Names "ls /x".toList "ls".toList := ⟨by decide, by decide, by decide⟩
  have hpm : Names "pm list".toList "pm".toList := ⟨by decide, by decide, by decide⟩
  refine ⟨?_, ?_⟩
  · have hflatten :
        [Utf8.ofString "ls: /x: No such fi", Utf8.ofString "le or directory\n"].flatten =
          Utf8.ofString "ls: /x: No such file or directory\n" := by decide
    refine (scan_as_whole "ls /x" hls _).1.mpr
      ⟨.fileNotFound "ls: /x: No such file or directory", ?_⟩
    rw [hflatten, Utf8.lenient_ofString]
    decide
  · have hflatten : [Utf8.ofString "Ready\nAbor", Utf8.ofString "ting.\n \n"].flatten =
        Utf8.ofString "Ready\nAborting.\n \n" := by decide
    refine ((scan_as_whole "pm list" hpm _).2 fun line hline _ => ?_).mpr
      ⟨.commandAborting "Aborting.", ?_⟩
    · exact Nat.le_trans hline.length_le (by decide)
    · rw [hflatten, Utf8.lenientString, Utf8.lenient_ofString]
      decide

end DebugBridge.FailureScan
