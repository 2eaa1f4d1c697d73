import DebugBridge.Forward.Entry
import DebugBridge.Proofs.Forward.Spec
import DebugBridge.Proofs.Words

/-!
# Lists of forwards

A line of the list shows a forward or is faulty, unless it is blank. The list is read line by line:
it gives the forwards of its lines in their order, or the fault of the first line that has one.
Whichever blanks stand between the words of a line, and whatever words stand behind the third, the
line shows the same forward.

* `parseLine_eq_ok_iff`, `parseLine_eq_error_iff` — what one line is read as
* `parseLines_eq_ok_iff`, `parseLines_eq_error_iff` — what all of them are read as
* `Written.lists` — lines that are written for forwards show these forwards
* `forwards_read_back` — what is read as a spec, and what as a list
-/

namespace DebugBridge.ForwardEntry

open Text (Blank HasWords IsWord LaidOut ReadFrom Spaced)
open ForwardSpec (Spells Readable)

variable {line serial here there : List Char} {more lines rows : List (List Char)}
  {entry : ForwardEntry} {entries : List ForwardEntry} {e : Failure}

/-- The line shows a forward: its serial and its two specs, each written in one of its ways. What
stands behind them does not count. -/
inductive Shows (line : List Char) : ForwardEntry → Prop
  | intro {serial here there : List Char} {more : List (List Char)}
    {localSpec remoteSpec : ForwardSpec}
    (hwords : HasWords line (serial :: here :: there :: more))
    (hhere : Spells (.ofList here) localSpec) (hthere : Spells (.ofList there) remoteSpec) :
    Shows line ⟨.ofList serial, localSpec, remoteSpec⟩

/-- What is wrong with a line that is not blank: it has fewer than three words, or its second or
third word is no spec. The first of these counts. -/
inductive Faulty (line : List Char) : Failure → Prop
  | short {row : List (List Char)} (hwords : HasWords line row) (hne : row ≠ [])
    (hlength : row.length < 3) :
    Faulty line (.malformed ("Malformed forward entry: " ++ Text.quoted (.ofList line)))
  | badLocal {serial here there : List Char} {more : List (List Char)}
    (hwords : HasWords line (serial :: here :: there :: more))
    (hhere : ∀ spec, ¬ Spells (.ofList here) spec) :
    Faulty line (.invalidForwardSpec (.ofList here))
  | badRemote {serial here there : List Char} {more : List (List Char)} {localSpec : ForwardSpec}
    (hwords : HasWords line (serial :: here :: there :: more))
    (hhere : Spells (.ofList here) localSpec) (hthere : ∀ spec, ¬ Spells (.ofList there) spec) :
    Faulty line (.invalidForwardSpec (.ofList there))

/-! ## One line -/

theorem parseLine_cons (h : Text.words line = serial :: here :: there :: more) :
    parseLine line = (do
      let localSpec ← ForwardSpec.parse (.ofList here)
      let remoteSpec ← ForwardSpec.parse (.ofList there)
      .ok ⟨.ofList serial, localSpec, remoteSpec⟩) := by
  rw [parseLine, h]

theorem parseLine_short (h : (Text.words line).length < 3) :
    parseLine line =
      .error (.malformed ("Malformed forward entry: " ++ Text.quoted (.ofList line))) := by
  rw [parseLine]
  split
  · next hwords =>
    rw [hwords] at h
    simp only [List.length_cons] at h
    omega
  · rfl

/-- A line has fewer than three words, or a first, a second and a third. -/
theorem words_cases (line : List Char) : (Text.words line).length < 3 ∨
    ∃ serial here there more, Text.words line = serial :: here :: there :: more := by
  match Text.words line with
  | [] | [_] | [_, _] => exact .inl (by simp)
  | serial :: here :: there :: more => exact .inr ⟨serial, here, there, more, rfl⟩

/-- A text is read as a spec, or it is none. -/
theorem spec_cases (text : String) : (∃ spec, ForwardSpec.parse text = .ok spec) ∨
    ForwardSpec.parse text = .error (.invalidForwardSpec text) := by
  cases h : ForwardSpec.parse text with
  | ok spec => exact .inl ⟨spec, rfl⟩
  | error e => exact .inr (by rw [(ForwardSpec.parse_eq_error_iff.mp h).2])

/-- **A line is read as a forward exactly if it shows it.** -/
theorem parseLine_eq_ok_iff : parseLine line = .ok entry ↔ Shows line entry := by
  constructor
  · intro h
    rcases words_cases line with hshort | ⟨serial, here, there, more, hwords⟩
    · rw [parseLine_short hshort] at h
      cases h
    · rw [parseLine_cons hwords] at h
      rcases spec_cases (.ofList here) with ⟨localSpec, hhere⟩ | hhere
      · rcases spec_cases (.ofList there) with ⟨remoteSpec, hthere⟩ | hthere
        · rw [hhere, hthere] at h
          rw [← Except.ok.inj h]
          exact .intro (Text.words_eq_iff.mp hwords) (ForwardSpec.parse_eq_ok_iff.mp hhere)
            (ForwardSpec.parse_eq_ok_iff.mp hthere)
        · rw [hhere, hthere] at h
          cases h
      · rw [hhere] at h
        cases h
  · rintro ⟨hwords, hhere, hthere⟩
    rw [parseLine_cons (Text.words_eq_iff.mpr hwords), ForwardSpec.parse_eq_ok_iff.mpr hhere,
      ForwardSpec.parse_eq_ok_iff.mpr hthere]
    rfl

/-- **A line that is not blank is refused exactly for what is wrong with it.** -/
theorem parseLine_eq_error_iff (hblank : ¬ Blank line) :
    parseLine line = .error e ↔ Faulty line e := by
  constructor
  · intro h
    rcases words_cases line with hshort | ⟨serial, here, there, more, hwords⟩
    · rw [parseLine_short hshort] at h
      rw [← Except.error.inj h]
      exact .short (Text.words_eq_iff.mp rfl) (mt Text.words_eq_nil_iff.mp hblank) hshort
    · have hrow := Text.words_eq_iff.mp hwords
      rw [parseLine_cons hwords] at h
      rcases spec_cases (.ofList here) with ⟨localSpec, hhere⟩ | hhere
      · rcases spec_cases (.ofList there) with ⟨remoteSpec, hthere⟩ | hthere
        · rw [hhere, hthere] at h
          cases h
        · rw [hhere, hthere] at h
          rw [← Except.error.inj h]
          exact .badRemote hrow (ForwardSpec.parse_eq_ok_iff.mp hhere)
            (ForwardSpec.parse_eq_error_iff.mp hthere).1
      · rw [hhere] at h
        rw [← Except.error.inj h]
        exact .badLocal hrow (ForwardSpec.parse_eq_error_iff.mp hhere).1
  · intro h
    cases h with
    | short hwords hne hlength =>
      rw [parseLine_short (by rwa [Text.words_eq_iff.mpr hwords])]
    | badLocal hwords hhere =>
      rw [parseLine_cons (Text.words_eq_iff.mpr hwords),
        ForwardSpec.parse_eq_error_iff.mpr ⟨hhere, rfl⟩]
      rfl
    | badRemote hwords hhere hthere =>
      rw [parseLine_cons (Text.words_eq_iff.mpr hwords), ForwardSpec.parse_eq_ok_iff.mpr hhere,
        ForwardSpec.parse_eq_error_iff.mpr ⟨hthere, rfl⟩]
      rfl

theorem Shows.not_blank (h : Shows line entry) : ¬ Blank line := by
  cases h with
  | intro hwords _ _ => exact hwords.not_blank (List.cons_ne_nil _ _)

theorem Faulty.not_blank (h : Faulty line e) : ¬ Blank line := by
  cases h with
  | short hwords hne _ => exact hwords.not_blank hne
  | badLocal hwords _ => exact hwords.not_blank (List.cons_ne_nil _ _)
  | badRemote hwords _ _ => exact hwords.not_blank (List.cons_ne_nil _ _)

/-! ## All lines -/

/-- Lines and the forwards that they show. -/
inductive Lists : List (List Char) → List ForwardEntry → Prop
  | nil : Lists [] []
  | blank {line : List Char} {lines : List (List Char)} {entries : List ForwardEntry}
    (hline : Blank line) (hlines : Lists lines entries) : Lists (line :: lines) entries
  | entry {line : List Char} {lines : List (List Char)} {entry : ForwardEntry}
    {entries : List ForwardEntry} (hline : Shows line entry) (hlines : Lists lines entries) :
    Lists (line :: lines) (entry :: entries)

/-- Reads the lines that are not blank. -/
def parseLines (lines : List (List Char)) : Except Failure (List ForwardEntry) :=
  (lines.filter fun line => !(Text.trim line).isEmpty).mapM parseLine

theorem parseList_eq (body : String) : parseList body = parseLines (Text.lines body.toList) := rfl

theorem parseLines_blank (h : Blank line) (lines : List (List Char)) :
    parseLines (line :: lines) = parseLines lines := by
  rw [parseLines, List.filter_cons_of_neg, parseLines]
  rw [Text.trim_blank h]
  decide

theorem parseLines_cons (h : ¬ Blank line) (lines : List (List Char)) :
    parseLines (line :: lines) = (do
      let entry ← parseLine line
      let entries ← parseLines lines
      pure (entry :: entries)) := by
  have hkept : (!(Text.trim line).isEmpty) = true := by
    rw [Bool.not_eq_true', List.isEmpty_eq_false_iff]
    exact mt Text.trim_eq_nil_iff.mp h
  rw [parseLines, List.filter_cons_of_pos (by exact hkept), List.mapM_cons]
  rfl

/-- A line is blank, or shows a forward, or is faulty. -/
theorem line_cases (line : List Char) :
    Blank line ∨ (∃ entry, Shows line entry) ∨ ∃ e, Faulty line e := by
  by_cases hblank : Blank line
  · exact .inl hblank
  · cases h : parseLine line with
    | ok entry => exact .inr (.inl ⟨entry, parseLine_eq_ok_iff.mp h⟩)
    | error e => exact .inr (.inr ⟨e, (parseLine_eq_error_iff hblank).mp h⟩)

theorem parseLines_shows (h : Shows line entry) (lines : List (List Char)) :
    parseLines (line :: lines) = (parseLines lines).map (entry :: ·) := by
  rw [parseLines_cons h.not_blank, parseLine_eq_ok_iff.mpr h]
  cases parseLines lines with
  | ok entries => rfl
  | error e => rfl

theorem parseLines_faulty (h : Faulty line e) (lines : List (List Char)) :
    parseLines (line :: lines) = .error e := by
  rw [parseLines_cons h.not_blank, (parseLine_eq_error_iff h.not_blank).mpr h]
  rfl

/-- A line shows at most one forward, and none if it is faulty. -/
theorem Shows.unique {other : ForwardEntry} (h : Shows line entry) (h' : Shows line other) :
    entry = other := by
  have := parseLine_eq_ok_iff.mpr h
  rw [parseLine_eq_ok_iff.mpr h'] at this
  exact (Except.ok.inj this).symm

theorem Shows.not_faulty (h : Shows line entry) : ¬ Faulty line e := fun hfaulty => by
  have := (parseLine_eq_error_iff h.not_blank).mpr hfaulty
  rw [parseLine_eq_ok_iff.mpr h] at this
  cases this

/-- **Lines are read as the forwards that they show, in their order.** -/
theorem parseLines_eq_ok_iff : parseLines lines = .ok entries ↔ Lists lines entries := by
  induction lines generalizing entries with
  | nil =>
    constructor
    · intro h
      rw [← Except.ok.inj h]
      exact .nil
    · rintro ⟨⟩
      rfl
  | cons line lines ih =>
    rcases line_cases line with hblank | ⟨entry, hshows⟩ | ⟨e, hfaulty⟩
    · rw [parseLines_blank hblank, ih]
      refine ⟨.blank hblank, fun h => ?_⟩
      cases h with
      | blank _ hlines => exact hlines
      | entry hline _ => exact absurd hblank hline.not_blank
    · rw [parseLines_shows hshows]
      constructor
      · intro h
        cases hlines : parseLines lines with
        | ok rest =>
          rw [hlines] at h
          rw [← Except.ok.inj h]
          exact .entry hshows (ih.mp hlines)
        | error e =>
          rw [hlines] at h
          cases h
      · intro h
        cases h with
        | blank hline _ => exact absurd hline hshows.not_blank
        | entry hline hlines =>
          rw [ih.mpr hlines, hline.unique hshows]
          rfl
    · rw [parseLines_faulty hfaulty]
      refine ⟨nofun, fun h => ?_⟩
      cases h with
      | blank hline _ => exact absurd hline hfaulty.not_blank
      | entry hline _ => exact absurd hfaulty hline.not_faulty

/-- The first line with a fault, and its fault. -/
def FirstFault (lines : List (List Char)) (e : Failure) : Prop :=
  ∃ front line behind, lines = front ++ line :: behind ∧ (∀ l ∈ front, ∀ e, ¬ Faulty l e) ∧
    Faulty line e

theorem firstFault_cons_of_faulty (h : Faulty line e) {e' : Failure} :
    FirstFault (line :: lines) e' ↔ Faulty line e' := by
  constructor
  · rintro ⟨front, first, behind, heq, hfront, hfirst⟩
    cases front with
    | nil => rwa [(List.cons.inj heq).1]
    | cons l front =>
      rw [(List.cons.inj heq).1] at h
      exact absurd h (hfront l List.mem_cons_self e)
  · exact fun hline => ⟨[], line, lines, rfl, fun _ hmem => absurd hmem List.not_mem_nil, hline⟩

theorem firstFault_cons_of_sound (h : ∀ e, ¬ Faulty line e) :
    FirstFault (line :: lines) e ↔ FirstFault lines e := by
  constructor
  · rintro ⟨front, first, behind, heq, hfront, hfirst⟩
    cases front with
    | nil =>
      rw [← (List.cons.inj heq).1] at hfirst
      exact absurd hfirst (h e)
    | cons l front =>
      exact ⟨front, first, behind, (List.cons.inj heq).2, (List.forall_mem_cons.mp hfront).2, hfirst⟩
  · rintro ⟨front, first, behind, rfl, hfront, hfirst⟩
    exact ⟨line :: front, first, behind, rfl, List.forall_mem_cons.mpr ⟨h, hfront⟩, hfirst⟩

/-- **Lines are refused exactly for the fault of the first line that has one.** -/
theorem parseLines_eq_error_iff : parseLines lines = .error e ↔ FirstFault lines e := by
  induction lines with
  | nil =>
    refine ⟨nofun, ?_⟩
    rintro ⟨front, first, behind, heq, -⟩
    exact absurd heq.symm (List.append_ne_nil_of_right_ne_nil _ (List.cons_ne_nil _ _))
  | cons line lines ih =>
    rcases line_cases line with hblank | ⟨entry, hshows⟩ | ⟨e', hfaulty⟩
    · rw [parseLines_blank hblank, ih]
      exact (firstFault_cons_of_sound fun _ hfaulty => hfaulty.not_blank hblank).symm
    · rw [parseLines_shows hshows, firstFault_cons_of_sound fun _ => hshows.not_faulty, ← ih]
      cases parseLines lines with
      | ok rest => exact ⟨nofun, nofun⟩
      | error e => exact ⟨id, id⟩
    · rw [parseLines_faulty hfaulty, firstFault_cons_of_faulty hfaulty,
        ← parseLine_eq_error_iff hfaulty.not_blank,
        (parseLine_eq_error_iff hfaulty.not_blank).mpr hfaulty]
      exact ⟨congrArg _ ∘ Except.error.inj, congrArg _ ∘ Except.error.inj⟩

/-! ## Lines that are written -/

/-- A forward that a line can show: its specs can be read, and nothing in it is empty or holds a
blank. -/
structure Plain (entry : ForwardEntry) : Prop where
  serial : IsWord entry.serial.toList
  readable : Readable entry.localSpec ∧ Readable entry.remoteSpec
  localSpec : IsWord entry.localSpec.render.toList
  remoteSpec : IsWord entry.remoteSpec.render.toList

/-- Rows that are written for forwards: the serial, the two specs and any further words, with any
blanks between and around them; any other row is blank. -/
inductive Written : List (List Char) → List ForwardEntry → Prop
  | nil : Written [] []
  | blank {row : List Char} {rows : List (List Char)} {entries : List ForwardEntry}
    (hrow : Blank row) (hrows : Written rows entries) : Written (row :: rows) entries
  | entry {row : List Char} {rows more : List (List Char)} {entry : ForwardEntry}
    {entries : List ForwardEntry} (hplain : entry.Plain)
    (hrow : Spaced (entry.serial.toList :: entry.localSpec.render.toList ::
      entry.remoteSpec.render.toList :: more) row)
    (hmore : ∀ word ∈ more, IsWord word) (hrows : Written rows entries) :
    Written (row :: rows) (entry :: entries)

/-- **A line that is written for a forward shows it**, whichever line end it has. -/
theorem Plain.shows (hplain : entry.Plain) {row : List Char}
    (hrow : Spaced (entry.serial.toList :: entry.localSpec.render.toList ::
      entry.remoteSpec.render.toList :: more) row)
    (hmore : ∀ word ∈ more, IsWord word) (hline : ReadFrom row line) : Shows line entry := by
  have hwords : ∀ word ∈ entry.serial.toList :: entry.localSpec.render.toList ::
      entry.remoteSpec.render.toList :: more, IsWord word := by
    simp only [List.forall_mem_cons]
    exact ⟨hplain.serial, hplain.localSpec, hplain.remoteSpec, hmore⟩
  have hread := Text.words_eq_iff.mp (hline.words.trans (hrow.words hwords))
  have hshows := Shows.intro hread
    (by rw [String.ofList_toList]; exact hplain.readable.1.spells)
    (by rw [String.ofList_toList]; exact hplain.readable.2.spells)
  rwa [String.ofList_toList] at hshows

theorem Written.lists (h : Written rows entries) (hlines : List.Forall₂ ReadFrom rows lines) :
    Lists lines entries := by
  induction h generalizing lines with
  | nil =>
    cases hlines
    exact .nil
  | blank hrow _ ih =>
    cases hlines with
    | cons hline hlines =>
      refine .blank ?_ (ih hlines)
      rw [← Text.words_eq_nil_iff, hline.words, Text.words_eq_nil_iff]
      exact hrow
  | entry hplain hrow hmore _ ih =>
    cases hlines with
    | cons hline hlines => exact .entry (hplain.shows hrow hmore hline) (ih hlines)

/-- **Forward specs and lists of forwards are read back as they were written.** A text is read as a
spec exactly if it is one of the ways to write it, and is named as the fault otherwise; a spec that
can be read is read back from what is shown, so what is shown tells such specs apart. A list is read
as the forwards that its lines show, which are those that its rows were written for, or refused for
the first line that is faulty. -/
theorem forwards_read_back :
    (∀ text spec, ForwardSpec.parse text = .ok spec ↔ Spells text spec) ∧
    (∀ text e, ForwardSpec.parse text = .error e ↔
      (∀ spec, ¬ Spells text spec) ∧ e = .invalidForwardSpec text) ∧
    (∀ spec, Readable spec → ForwardSpec.parse spec.render = .ok spec) ∧
    (∀ spec spec', Readable spec → Readable spec' → spec.render = spec'.render → spec = spec') ∧
    (∀ rows entries body, Written rows entries → LaidOut rows body →
      parseList (.ofList body) = .ok entries) ∧
    (∀ body entries, parseList body = .ok entries ↔ Lists (Text.lines body.toList) entries) ∧
    (∀ body e, parseList body = .error e ↔ FirstFault (Text.lines body.toList) e) := by
  refine ⟨fun text spec => ForwardSpec.parse_eq_ok_iff,
    fun text e => ForwardSpec.parse_eq_error_iff, fun spec h => h.parse_render,
    fun spec spec' h h' => (h.render_inj h').mp, fun rows entries body hrows hbody => ?_,
    fun body entries => parseLines_eq_ok_iff, fun body e => parseLines_eq_error_iff⟩
  rw [parseList_eq, String.toList_ofList, parseLines_eq_ok_iff]
  exact hrows.lists (Text.lines_laidOut hbody)

/-- A blank row, a row with a tab, an ideographic blank, a further word and a carriage return, and a
row without a line end; and a list whose second row that is not blank names a port that is none. -/
theorem forwards_read_back_two_rows :
    parseList (.ofList (" ".toList ++ '\n' ::
      ("\tS1 tcp:80\u3000localabstract:a:b reverse".toList ++ '\r' :: '\n' ::
        "S2 jdwp:7 tcp:0".toList))) =
      .ok [⟨"S1", .tcp 80, .abstractSocket "a:b"⟩, ⟨"S2", .process 7, .tcp 0⟩] ∧
    parseList "S1 tcp:80 tcp:+080\n\nS2 tcp:1 tcp:70000\nS3" =
      .error (.invalidForwardSpec "tcp:70000") := by
  have hreadable : ∀ {spec : ForwardSpec}, spec.value ≠ "" → Readable spec :=
    ForwardSpec.readable_iff.mpr
  refine ⟨forwards_read_back.2.2.2.2.1 _ _ _ (.blank (by decide) ?_)
    (.feed (by decide) (.returnFeed (by decide) (.last (by decide) (by decide)))), ?_⟩
  · refine @Written.entry _ _ ["reverse".toList] _ _
      ⟨by decide, ⟨hreadable (by decide), hreadable (by decide)⟩, by decide, by decide⟩
      (Text.words_eq_iff.mp (by decide)).1 (by decide) ?_
    exact @Written.entry _ _ [] _ _
      ⟨by decide, ⟨hreadable (by decide), hreadable (by decide)⟩, by decide, by decide⟩
      (Text.words_eq_iff.mp (by decide)).1 (by decide) .nil
  · have hlines : Text.lines "S1 tcp:80 tcp:+080\n\nS2 tcp:1 tcp:70000\nS3".toList =
        ["S1 tcp:80 tcp:+080".toList, []] ++ "S2 tcp:1 tcp:70000".toList :: ["S3".toList] := by
      decide
    rw [forwards_read_back.2.2.2.2.2.2, hlines]
    refine ⟨_, _, _, rfl, ?_, ?_⟩
    · have hfirst : Shows "S1 tcp:80 tcp:+080".toList ⟨"S1", .tcp 80, .tcp 80⟩ :=
        parseLine_eq_ok_iff.mp rfl
      simp only [List.forall_mem_cons, List.not_mem_nil, false_imp_iff, forall_const, and_true]
      exact ⟨fun e => hfirst.not_faulty, fun e hfaulty => hfaulty.not_blank .nil⟩
    · exact @Faulty.badRemote _ "S2".toList "tcp:1".toList _ [] (.tcp 1)
        (Text.words_eq_iff.mp (by decide))
        (ForwardSpec.parse_eq_ok_iff.mp (by decide)) (ForwardSpec.parse_eq_error_iff.mp rfl).1

end DebugBridge.ForwardEntry
