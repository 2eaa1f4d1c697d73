import DebugBridge.Output.Color
import DebugBridge.Proofs.Json.Printable
import DebugBridge.Proofs.Lines

/-!
# Names in color

A pretty text is colored line by line, and a line is taken for a member if it starts with a quote
and a quote, a colon and a blank stand in it later on: what is in front of the blank is taken for
the name. This is right where the first of these is the end of the name. But they may also stand
inside the text of a name, or of a string that is an item of an array; then the color ends inside
the text, and the string is colored though it is no name.

* `render_eq` — what becomes of the text of a value: a layout of its own
* `erase_render` — without the sequences of the colors it is the text
* `painted_iff` — exactly when the names and nothing else are colored
-/

namespace DebugBridge

/-! ## Colors -/

namespace Color

/-- A text without the sequences that start or reset a color. -/
def erase (cs : List Char) : List Char :=
  go false cs
where
  /-- Walks on, inside a sequence or not. -/
  go (inside : Bool) : List Char → List Char
    | [] => []
    | c :: cs =>
      if inside then go (c != 'm') cs
      else if c = '\x1b' then go true cs
      else c :: go false cs

theorem erase_append {cs : List Char} (h : '\x1b' ∉ cs) (rest : List Char) :
    erase (cs ++ rest) = cs ++ erase rest := by
  induction cs with
  | nil => rfl
  | cons c cs ih =>
    obtain ⟨hc, hcs⟩ := not_or.mp (mt List.mem_cons.mpr h)
    have hstep : erase (c :: (cs ++ rest)) = c :: erase (cs ++ rest) :=
      if_neg (Ne.symm hc)
    rw [List.cons_append, hstep, ih hcs, List.cons_append]

theorem erase_start (c : Color) (rest : List Char) : erase (c.start ++ rest) = erase rest := by
  cases c <;> rfl

theorem erase_reset (rest : List Char) : erase (reset ++ rest) = erase rest := rfl

theorem restart_of_notMem (c : Color) {cs : List Char} (h : '\x1b' ∉ cs) :
    c.restart cs = cs := by
  induction cs with
  | nil => rfl
  | cons x cs ih =>
    obtain ⟨hx, hcs⟩ := not_or.mp (mt List.mem_cons.mpr h)
    rw [restart, ih hcs]
    rintro rest rfl -
    exact hx rfl

/-- What a text in color is. -/
theorem paint_ansi (c : Color) {cs : List Char} (h : '\x1b' ∉ cs) :
    (c.paint .ansi (String.ofList cs)).toList = c.start ++ cs ++ reset := by
  rw [paint, String.toList_ofList, String.toList_ofList, restart_of_notMem c h]

theorem start_cons (c : Color) : ∃ tail, c.start = '\x1b' :: tail := by
  cases c <;> exact ⟨_, rfl⟩

/-- A text in color starts with a sequence. -/
theorem paint_cons (c : Color) (text : String) :
    ∃ tail, (c.paint .ansi text).toList = '\x1b' :: tail := by
  obtain ⟨tail, htail⟩ := start_cons c
  exact ⟨tail ++ c.restart text.toList ++ reset, by rw [paint, String.toList_ofList, htail]; rfl⟩

/-- **Without the sequences, a text in color is the text.** -/
theorem erase_paint (c : Color) {cs : List Char} (h : '\x1b' ∉ cs) (rest : List Char) :
    erase ((c.paint .ansi (String.ofList cs)).toList ++ rest) = cs ++ erase rest := by
  rw [paint_ansi c h, List.append_assoc, List.append_assoc, erase_start, erase_append h,
    erase_reset]

end Color

/-! ## Escaped texts -/

namespace Json

variable {c : Char} {cs : List Char} {v : Json}

/-- The end of a name in a pretty text. -/
abbrev nameEnd : List Char := ['"', ':', ' ']

/-- What is written for a text starts as the text does, up to characters that are escaped. -/
theorem prefix_flatMap_escape {d : Char} {ds : List Char} (hself : escape d = [d]) (hd : d ≠ '\\') :
    d :: ds <+: cs.flatMap escape ↔ ∃ rest, cs = d :: rest ∧ ds <+: rest.flatMap escape := by
  constructor
  · intro h
    cases cs with
    | nil => exact absurd (List.prefix_nil.mp h) (List.cons_ne_nil _ _)
    | cons c cs =>
      rw [List.flatMap_cons] at h
      rcases escape_cases c with ⟨hc, -⟩ | ⟨rest, hc, -⟩
      · rw [hc, List.singleton_append, List.cons_prefix_cons] at h
        exact ⟨cs, by rw [h.1], h.2⟩
      · rw [hc, List.cons_append, List.cons_prefix_cons] at h
        exact absurd h.1 hd
  · rintro ⟨rest, rfl, h⟩
    rw [List.flatMap_cons, hself, List.singleton_append, List.cons_prefix_cons]
    exact ⟨rfl, h⟩

/-- **The end of a name stands in what is written for a text exactly if it stands in the text.** -/
theorem nameEnd_infix_iff : nameEnd <:+: cs.flatMap escape ↔ nameEnd <:+: cs := by
  induction cs with
  | nil => rfl
  | cons c cs ih =>
    rw [List.flatMap_cons, List.infix_cons_iff, ← ih]
    by_cases hc : c = '"'
    · subst hc
      have htail : [':', ' '] <+: cs.flatMap escape ↔ [':', ' '] <+: cs := by
        simp only [prefix_flatMap_escape (show escape ':' = [':'] from rfl) (by decide),
          prefix_flatMap_escape (show escape ' ' = [' '] from rfl) (by decide), List.nil_prefix,
          and_true]
        constructor
        · rintro ⟨_, rfl, rest, rfl⟩
          exact List.prefix_append [':', ' '] rest
        · rintro ⟨rest, rfl⟩
          exact ⟨' ' :: rest, rfl, rest, rfl⟩
      have hslash : ¬ nameEnd <+: '\\' :: '"' :: cs.flatMap escape := fun h =>
        absurd (List.cons_prefix_cons.mp h).1 (by decide)
      have hquote : nameEnd <+: '"' :: cs.flatMap escape ↔ nameEnd <+: '"' :: cs :=
        List.cons_prefix_cons.trans ((and_congr_right fun _ => htail).trans
          List.cons_prefix_cons.symm)
      show nameEnd <:+: '\\' :: '"' :: cs.flatMap escape ↔ _
      rw [List.infix_cons_iff, List.infix_cons_iff, hquote]
      exact or_iff_right hslash
    · rw [Text.infix_append_of_notMem (quote_notMem_escape hc), List.cons_prefix_cons]
      exact (or_iff_right fun h => hc h.1.symm).symm

end Json

namespace ColoredJson

open Json

variable {p : Palette} {c : Char} {cs s : List Char} {v : Json}

/-! ## One line -/

/-- What a line looks like that starts with no blank. -/
theorem line_trimmed (h : Text.trimLeft s = s) :
    line p s = match (Text.stripStart? ['"'] s).bind (Text.splitAround? nameEnd) with
      | some (name, value) =>
        (Color.cyan.paint p (String.ofList ('"' :: (name ++ ['"'])))).toList ++ [':', ' '] ++ value
      | none => s := by
  have hnone : String.utf8ByteSize (String.ofList s) - String.utf8ByteSize (String.ofList s) = 0 :=
    Nat.sub_self _
  simp only [line, h, hnone, List.replicate_zero, List.nil_append]
  rfl

theorem utf8ByteSize_blanks (n : Nat) :
    String.utf8ByteSize (String.ofList (List.replicate n ' ')) = n := by
  induction n with
  | zero => rfl
  | succ n ih =>
    rw [List.replicate_succ, ← List.singleton_append, String.ofList_append,
      String.utf8ByteSize_append, ih, Nat.add_comm]
    rfl

/-- **The indentation of a line does not count.** -/
theorem line_indent (h : Text.trimLeft s = s) (n : Nat) :
    line p (List.replicate n ' ' ++ s) = List.replicate n ' ' ++ line p s := by
  have htrim : Text.trimLeft (List.replicate n ' ' ++ s) = s := by
    rw [Text.trimLeft, List.dropWhile_append_of_pos]
    · exact h
    · intro c hc
      rw [List.eq_of_mem_replicate hc]
      rfl
  have hsize : String.utf8ByteSize (String.ofList (List.replicate n ' ' ++ s)) -
      String.utf8ByteSize (String.ofList s) = n := by
    rw [String.ofList_append, String.utf8ByteSize_append, utf8ByteSize_blanks, Nat.add_sub_cancel]
  rw [line_trimmed h]
  simp only [line, htrim, hsize]
  show (match (Text.stripStart? ['"'] s).bind (Text.splitAround? nameEnd) with
      | some (name, value) => _
      | none => _) = _
  split
  · simp only [List.append_assoc]
  · rfl

theorem trimLeft_cons (h : Text.isBlank c = false) : Text.trimLeft (c :: cs) = c :: cs :=
  List.dropWhile_cons_of_neg (by simp [h])

/-- A line that starts with no quote is kept. -/
theorem line_other (hblank : Text.isBlank c = false) (hquote : c ≠ '"') :
    line p (c :: cs) = c :: cs := by
  have hstart : Text.stripStart? ['"'] (c :: cs) = none :=
    Text.stripStart?_eq_none_iff.mpr fun h => hquote (List.cons_prefix_cons.mp h).1.symm
  rw [line_trimmed (trimLeft_cons hblank), hstart]
  rfl

/-- **A line is colored up to the first end of a name.** -/
theorem line_name {front : List Char} (h : ¬ nameEnd <:+: front) (behind : List Char) :
    line p ('"' :: (front ++ nameEnd ++ behind)) =
      (Color.cyan.paint p (String.ofList ('"' :: (front ++ ['"'])))).toList ++ [':', ' '] ++
        behind := by
  have hstart : Text.stripStart? ['"'] ('"' :: (front ++ nameEnd ++ behind)) =
      some (front ++ nameEnd ++ behind) := Text.stripStart?_eq_some_iff.mpr rfl
  rw [line_trimmed (trimLeft_cons rfl), hstart, Option.bind_some,
    Text.splitAround?_append (by decide) h]

/-- A line without the end of a name is kept. -/
theorem line_kept (h : ¬ nameEnd <:+: cs) : line p ('"' :: cs) = '"' :: cs := by
  have hstart : Text.stripStart? ['"'] ('"' :: cs) = some cs :=
    Text.stripStart?_eq_some_iff.mpr rfl
  rw [line_trimmed (trimLeft_cons rfl), hstart, Option.bind_some, Text.splitAround?_eq_none h]

/-- What follows the end of a name is kept. -/
theorem line_append (h : nameEnd <:+: cs) (rest : List Char) :
    line p ('"' :: cs ++ rest) = line p ('"' :: cs) ++ rest := by
  obtain ⟨front, behind, rfl, hfront⟩ := Text.exists_first_of_infix h
  rw [line_name hfront, List.cons_append, List.append_assoc _ behind, line_name hfront,
    List.append_assoc _ behind]

/-! ## All lines -/

/-- What becomes of the pretty layout: names, and values that start a line, are lines of their own
sort. -/
def lineLayout (p : Palette) : Layout Char :=
  { prettyLayout with
    item := fun v => line p v.compact
    name := fun name => line p (quote name ++ [':', ' ']) }

/-- The text becomes the other one line by line, whether a comma follows or not. -/
def Becomes (p : Palette) (cs ms : List Char) : Prop :=
  ∀ post, post = [] ∨ post = [','] → Text.linewise (line p) (cs ++ post) = ms ++ post

/-- **Rows become rows**, each of them on lines of its own. -/
theorem linewise_rows {β : Type} {rows : List β} {text mark : β → List Char} {a a' : List Char}
    (ha : Becomes p a a') (h : ∀ row ∈ rows, Becomes p (text row) (mark row)) (last : List Char) :
    Text.linewise (line p)
        (a ++ rows.flatMap (fun row => ',' :: '\n' :: text row) ++ '\n' :: last) =
      a' ++ rows.flatMap (fun row => ',' :: '\n' :: mark row) ++
        '\n' :: Text.linewise (line p) last := by
  induction rows generalizing a a' with
  | nil =>
    have := ha [] (.inl rfl)
    rw [List.append_nil, List.append_nil] at this
    rw [List.flatMap_nil, List.append_nil, Text.linewise_append, this, List.flatMap_nil,
      List.append_nil]
  | cons row rows ih =>
    obtain ⟨hrow, hrows⟩ := List.forall_mem_cons.mp h
    have hcut : a ++ (row :: rows).flatMap (fun row => ',' :: '\n' :: text row) ++ '\n' :: last =
        (a ++ [',']) ++ '\n' ::
          (text row ++ rows.flatMap (fun row => ',' :: '\n' :: text row) ++ '\n' :: last) := by
      simp
    rw [hcut, Text.linewise_append, ha _ (.inr rfl), ih hrow hrows]
    simp

/-- The indentation of a level. -/
abbrev indent (level : Nat) : List Char := List.replicate (2 * level) ' '

theorem trimLeft_compact (hflat : v.IsFlat) (h : v.Proper) (post : List Char) :
    Text.trimLeft (v.compact ++ post) = v.compact ++ post := by
  rcases compact_start hflat h with ⟨text, rfl⟩ | ⟨c, cs, hcompact, hblank, -⟩
  · exact trimLeft_cons rfl
  · rw [hcompact, List.cons_append]
    exact trimLeft_cons hblank

/-- A value that starts a line may have a comma behind it. -/
theorem line_item (hflat : v.IsFlat) (h : v.Proper) {post : List Char}
    (hpost : post = [] ∨ post = [',']) :
    line p (v.compact ++ post) = line p v.compact ++ post := by
  rcases compact_start hflat h with ⟨text, rfl⟩ | ⟨c, cs, hcompact, hblank, hquote⟩
  · show line p ('"' :: (text.toList.flatMap Json.escape ++ ['"']) ++ post) =
      line p ('"' :: (text.toList.flatMap Json.escape ++ ['"'])) ++ post
    by_cases hin : nameEnd <:+: text.toList.flatMap Json.escape ++ ['"']
    · exact line_append hin post
    · have hpost : ¬ nameEnd <:+: text.toList.flatMap Json.escape ++ ['"'] ++ post := by
        rcases hpost with rfl | rfl
        · rwa [List.append_nil]
        · rw [Text.infix_append_cons_iff (by decide), List.infix_nil]
          exact not_or.mpr ⟨hin, List.cons_ne_nil _ _⟩
      rw [List.cons_append, line_kept hpost, line_kept hin, List.cons_append]
  · rw [hcompact, List.cons_append, line_other hblank hquote, line_other hblank hquote,
      List.cons_append]

/-- What stands in front of a value on its first line, and what comes of it: the value is colored as
a line of its own if it starts the line. -/
structure Front (p : Palette) (asItem : Bool) (pre pre' : List Char) : Prop where
  notMem : '\n' ∉ pre
  line {s : List Char} (h : Text.trimLeft s = s) :
    line p (pre ++ s) = pre' ++ if asItem then line p s else s

theorem Front.start : Front p true [] [] := ⟨List.not_mem_nil, fun _ => rfl⟩

theorem Front.indent (level : Nat) : Front p true (indent level) (indent level) where
  notMem := by simp
  line h := line_indent h _

/-- **What stands behind a name is kept.** -/
theorem Front.member (name : String) (level : Nat) :
    Front p false (ColoredJson.indent level ++ prettyLayout.name name)
      (ColoredJson.indent level ++ (lineLayout p).name name) where
  notMem := by
    have hname : ∀ c ∈ prettyLayout.name name, c ≠ '\n' := by
      intro c hc
      rcases List.mem_append.mp hc with hc | hc
      · rintro rfl
        exact absurd (printable_quote name _ hc) (by decide)
      · rintro rfl
        exact absurd hc (by decide)
    intro hmem
    rcases List.mem_append.mp hmem with hmem | hmem
    · exact absurd hmem (by simp)
    · exact hname _ hmem rfl
  line {s} _ := by
    have hend : nameEnd <:+: name.toList.flatMap Json.escape ++ ['"'] ++ [':', ' '] :=
      ⟨name.toList.flatMap Json.escape, [], by simp⟩
    have hname : ColoredJson.line p (prettyLayout.name name ++ s) =
        (lineLayout p).name name ++ s := line_append hend s
    have htrim : Text.trimLeft (prettyLayout.name name ++ s) = prettyLayout.name name ++ s :=
      trimLeft_cons rfl
    rw [List.append_assoc, line_indent htrim, hname, ← List.append_assoc]
    rfl

/-- A mark in front of its rows is kept. -/
theorem Front.mark {asItem : Bool} {pre pre' : List Char} (h : Front p asItem pre pre')
    (hblank : Text.isBlank c = false) (hquote : c ≠ '"') :
    ColoredJson.line p (pre ++ [c]) = pre' ++ [c] := by
  rw [h.line (trimLeft_cons hblank), line_other hblank hquote, ite_self]

/-- Brackets around rows: those that open stay on the line, those that close start one. -/
theorem becomes_brackets {β : Type} {rows : List β} {text mark : β → List Char}
    {pre pre' a a' : List Char} {start stop : Char} {asItem : Bool}
    (hfront : Front p asItem pre pre') (hstart : Text.isBlank start = false ∧ start ≠ '"')
    (hstop : Text.isBlank stop = false ∧ stop ≠ '"')
    (ha : Becomes p a a') (h : ∀ row ∈ rows, Becomes p (text row) (mark row)) (level : Nat) :
    Becomes p
      (pre ++ (start :: '\n' :: a ++ rows.flatMap (fun row => ',' :: '\n' :: text row) ++
        '\n' :: (indent level ++ [stop])))
      (pre' ++ (start :: '\n' :: a' ++ rows.flatMap (fun row => ',' :: '\n' :: mark row) ++
        '\n' :: (indent level ++ [stop]))) := by
  intro post hpost
  have hne : ∀ {c}, Text.isBlank c = false → '\n' ≠ c := by
    rintro _ hblank rfl
    cases hblank
  have hlast : Text.linewise (line p) (indent level ++ stop :: post) =
      indent level ++ stop :: post := by
    rw [Text.linewise_of_notMem, line_indent (trimLeft_cons hstop.1), line_other hstop.1 hstop.2]
    rcases hpost with rfl | rfl <;> simp [hne hstop.1]
  have hopen : Text.linewise (line p) (pre ++ [start]) = pre' ++ [start] := by
    rw [Text.linewise_of_notMem, hfront.mark hstart.1 hstart.2]
    simp [hfront.notMem, hne hstart.1]
  have hcut : pre ++ (start :: '\n' :: a ++ rows.flatMap (fun row => ',' :: '\n' :: text row) ++
      '\n' :: (indent level ++ [stop])) ++ post =
      (pre ++ [start]) ++ '\n' :: (a ++ rows.flatMap (fun row => ',' :: '\n' :: text row) ++
        '\n' :: (indent level ++ stop :: post)) := by
    simp
  rw [hcut, Text.linewise_append, hopen, linewise_rows ha h, hlast]
  simp

/-- **A value in the pretty layout becomes the value in the layout of lines**, whatever stands in
front of it on its first line. -/
theorem becomes_written (h : v.Proper) (asItem : Bool) (level : Nat) {pre pre' : List Char}
    (hfront : Front p asItem pre pre') :
    Becomes p (pre ++ prettyLayout.written asItem level v)
      (pre' ++ (lineLayout p).written asItem level v) := by
  induction v using Json.induct generalizing asItem level pre pre' with
  | flat v hflat =>
    intro post hpost
    have hvalue : prettyLayout.written asItem level v = v.compact := by
      rw [prettyLayout.written_flat hflat]
      exact ite_self _
    have hline : '\n' ∉ pre ++ (v.compact ++ post) := by
      have hcompact : '\n' ∉ v.compact := fun hmem =>
        absurd (printable_compact hflat h _ hmem) (by decide)
      rcases hpost with rfl | rfl <;> simp [hfront.notMem, hcompact]
    rw [hvalue, List.append_assoc, Text.linewise_of_notMem hline,
      hfront.line (trimLeft_compact hflat h post), Layout.written_flat _ hflat, List.append_assoc]
    cases asItem with
    | true => exact congrArg (pre' ++ ·) (line_item hflat h hpost)
    | false => rfl
  | array item rest ih ihrest =>
    obtain ⟨hitem, hrest⟩ := List.forall_mem_cons.mp h.items
    rw [Layout.written, Layout.written, Layout.items_eq, Layout.items_eq]
    exact becomes_brackets hfront ⟨rfl, by decide⟩ ⟨rfl, by decide⟩
      (ih hitem true (level + 1) (.indent _))
      (fun v hv => ihrest v hv (hrest v hv) true (level + 1) (.indent _)) level
  | object name value rest ih ihrest =>
    obtain ⟨hvalue, hrest⟩ := List.forall_mem_cons.mp h.members
    rw [Layout.written, Layout.written, Layout.members_eq, Layout.members_eq]
    exact becomes_brackets hfront ⟨rfl, by decide⟩ ⟨rfl, by decide⟩
      (ih hvalue false (level + 1) (.member name _))
      (fun member hm => ihrest member hm (hrest member hm) false (level + 1)
        (.member member.1 _)) level

/-! ## The whole text -/

/-- **What becomes of the pretty text of a value** is the value in the layout of lines. -/
theorem render_eq (h : v.Proper) :
    render p v.prettyText = String.ofList ((lineLayout p).written true 0 v) := by
  have hbecomes := becomes_written (p := p) h true 0 .start [] (.inl rfl)
  rw [List.nil_append, List.nil_append, List.append_nil, List.append_nil,
    ← Json.pretty_eq v true 0] at hbecomes
  obtain ⟨front, c, hpretty, hc⟩ := pretty_last h
  have hreturn : '\r' ∉ v.pretty 0 := fun hmem =>
    absurd (printable_pretty h _ hmem) (by decide)
  have hlast : (v.pretty 0).getLast? ≠ some '\n' := by
    rw [hpretty, List.getLast?_concat]
    simpa using hc
  rw [render, Json.prettyText, String.toList_ofList,
    Text.lines_eq_fields (hpretty ▸ by simp) hreturn hlast]
  exact congrArg String.ofList hbecomes

theorem line_plain (cs : List Char) : line .plain ('"' :: cs) = '"' :: cs := by
  by_cases hend : nameEnd <:+: cs
  · obtain ⟨front, behind, rfl, hfront⟩ := Text.exists_first_of_infix hend
    rw [line_name hfront, Color.paint, String.toList_ofList]
    simp
  · exact line_kept hend

/-- **Without colors, the text is kept.** -/
theorem render_plain (h : v.Proper) : render .plain v.prettyText = v.prettyText := by
  have hparts : Layout.Related (fun cs cs' (_ : List Char) => cs = cs')
      (lineLayout .plain) prettyLayout prettyLayout :=
    { nil := rfl
      append := fun h h' => by rw [h, h']
      item := fun {v} hflat h => by
        rcases compact_start hflat h with ⟨text, rfl⟩ | ⟨c, cs, hcompact, hblank, hquote⟩
        · exact line_plain _
        · show line .plain v.compact = v.compact
          rw [hcompact, line_other hblank hquote]
      value := fun _ _ => rfl
      name := fun text => line_plain _
      beginArray := fun _ => rfl
      endArray := fun _ => rfl
      beginObject := fun _ => rfl
      endObject := fun _ => rfl
      comma := fun _ => rfl }
  rw [render_eq h, hparts.written h true 0, ← Json.pretty_eq v true 0, Json.prettyText]

/-- What is left of a line in color without the sequences of the color. -/
theorem erase_line {cs : List Char} (h : '\x1b' ∉ cs) (rest : List Char) :
    Color.erase (line .ansi ('"' :: cs) ++ rest) = '"' :: cs ++ Color.erase rest := by
  by_cases hend : nameEnd <:+: cs
  · obtain ⟨front, behind, rfl, hfront⟩ := Text.exists_first_of_infix hend
    rw [line_name hfront]
    simp only [List.mem_append, not_or] at h
    have hname : '\x1b' ∉ '"' :: (front ++ ['"']) := by simp [h.1.1]
    have hvalue : '\x1b' ∉ [':', ' '] ++ behind := by simp [h.2]
    rw [List.append_assoc _ [':', ' '], List.append_assoc, Color.erase_paint _ hname,
      Color.erase_append hvalue]
    simp
  · rw [line_kept hend, Color.erase_append]
    simp [h]

theorem escape_notMem (h : Printable cs) : '\x1b' ∉ cs := fun hmem =>
  absurd (h _ hmem) (by decide)

/-- A part of the pretty layout is what is left of a part of the layout of lines. -/
theorem lineLayout_erased :
    Layout.Related
      (fun cs cs' (_ : List Char) => ∀ rest, Color.erase (cs ++ rest) = cs' ++ Color.erase rest)
      (lineLayout .ansi) prettyLayout prettyLayout where
  nil _ := rfl
  append h h' rest := by rw [List.append_assoc, h, h', List.append_assoc]
  item {v} hflat h rest := by
    have hprintable := escape_notMem (prettyLayout_printable.item hflat h)
    rcases compact_start hflat h with ⟨text, rfl⟩ | ⟨c, cs, hcompact, hblank, hquote⟩
    · exact erase_line (fun hmem => hprintable (List.mem_cons_of_mem _ hmem)) rest
    · have hkept := Color.erase_append hprintable rest
      have hline : line .ansi v.compact = v.compact := by rw [hcompact, line_other hblank hquote]
      exact (congrArg (fun cs => Color.erase (cs ++ rest)) hline).trans hkept
  value hflat h := Color.erase_append (escape_notMem (prettyLayout_printable.value hflat h))
  name text rest := by
    have hprintable := escape_notMem (prettyLayout_printable.name text)
    exact erase_line (fun hmem => hprintable (List.mem_cons_of_mem _ hmem)) rest
  beginArray level := Color.erase_append (escape_notMem (prettyLayout_printable.beginArray level))
  endArray level := Color.erase_append (escape_notMem (prettyLayout_printable.endArray level))
  beginObject level := Color.erase_append (escape_notMem (prettyLayout_printable.beginObject level))
  endObject level := Color.erase_append (escape_notMem (prettyLayout_printable.endObject level))
  comma level := Color.erase_append (escape_notMem (prettyLayout_printable.comma level))

/-- **Without the sequences of the colors, the text is kept.** -/
theorem erase_render (h : v.Proper) :
    Color.erase (render .ansi v.prettyText).toList = v.prettyText.toList := by
  have hwritten := lineLayout_erased.written h true 0 []
  rw [List.append_nil] at hwritten
  rw [render_eq h, String.toList_ofList, hwritten, ← Json.pretty_eq v true 0, Json.prettyText,
    String.toList_ofList]
  exact List.append_nil _

/-! ## Names and nothing else -/

/-- The pretty layout with the names in color, quotes included, and nothing else. -/
def paintedLayout (p : Palette) : Layout Char :=
  { prettyLayout with
    name := fun name => (Color.cyan.paint p (String.ofList (quote name))).toList ++ [':', ' '] }

/-- The texts that start a line: the names, and the strings that are no values of members. -/
def leadingLayout : Layout String where
  item
    | .string text => [text]
    | _ => []
  value _ := []
  name name := [name]
  beginArray _ := []
  endArray _ := []
  beginObject _ := []
  endObject _ := []
  comma _ := []

/-- A text in which no end of a name stands. -/
def Clear (text : String) : Prop := ¬ nameEnd <:+: text.toList

instance : DecidablePred Clear := fun _ => inferInstanceAs (Decidable (¬ nameEnd <:+: _))

/-- The two ways of coloring agree up to some place exactly if the texts before it are clear. -/
def Agree (marked painted : List Char) (leading : List String) : Prop :=
  ∀ rest rest', marked ++ rest = painted ++ rest' ↔
    (∀ text ∈ leading, Clear text) ∧ rest = rest'

theorem Agree.same (cs : List Char) : Agree cs cs [] := fun rest rest' => by
  rw [List.append_cancel_left_eq, and_iff_right nofun]

theorem Agree.append {marked marked' painted painted' : List Char} {leading leading' : List String}
    (h : Agree marked painted leading) (h' : Agree marked' painted' leading') :
    Agree (marked ++ marked') (painted ++ painted') (leading ++ leading') := by
  intro rest rest'
  rw [List.append_assoc, List.append_assoc, h, h', List.forall_mem_append, and_assoc]

theorem Agree.of_text {marked painted : List Char} {text : String}
    (hclear : Clear text → marked = painted)
    (hnot : ¬ Clear text → ∀ rest rest', marked ++ rest ≠ painted ++ rest') :
    Agree marked painted [text] := by
  intro rest rest'
  rw [List.forall_mem_singleton]
  by_cases h : Clear text
  · rw [hclear h, List.append_cancel_left_eq, and_iff_right h]
  · exact ⟨fun heq => absurd heq (hnot h rest rest'), fun heq => absurd heq.1 h⟩

theorem notMem_quote (text : String) : '\x1b' ∉ quote text := fun hmem =>
  absurd (printable_quote text _ hmem) (by decide)

/-- A name is colored alone exactly if it is clear. -/
theorem Agree.name (text : String) :
    Agree ((lineLayout .ansi).name text) ((paintedLayout .ansi).name text) [text] := by
  have hlayout : (lineLayout .ansi).name text =
      line .ansi ('"' :: (text.toList.flatMap Json.escape ++ nameEnd ++ [])) :=
    congrArg (line .ansi) (by simp [quote])
  refine .of_text (fun h => ?_) (fun h rest rest' heq => ?_)
  · rw [hlayout, line_name (mt Json.nameEnd_infix_iff.mp h), List.append_nil]
    rfl
  · -- the color ends inside the name, where the name goes on with a colon
    obtain ⟨front, behind, hescape, hfront⟩ :=
      Text.exists_first_of_infix (Json.nameEnd_infix_iff.mpr (Classical.not_not.mp h))
    have hquote := notMem_quote text
    have hfrontQuote : '\x1b' ∉ '"' :: (front ++ ['"']) := by
      rw [quote, hescape] at hquote
      simp only [List.mem_cons, List.mem_append, not_or] at hquote ⊢
      simp [hquote.2.1.1]
    have hcut : text.toList.flatMap Json.escape ++ nameEnd ++ [] =
        front ++ nameEnd ++ (behind ++ nameEnd) := by
      rw [hescape]
      simp
    have hpainted : (paintedLayout .ansi).name text =
        Color.cyan.start ++ quote text ++ Color.reset ++ [':', ' '] :=
      congrArg (· ++ [':', ' ']) (Color.paint_ansi .cyan hquote)
    rw [hlayout, hcut, line_name hfront, Color.paint_ansi .cyan hfrontQuote, hpainted, quote,
      hescape] at heq
    simp [Color.reset] at heq

/-- A string that starts a line is not colored exactly if it is clear. -/
theorem Agree.string (text : String) :
    Agree (line .ansi (quote text)) (quote text) [text] := by
  refine .of_text (fun h => line_kept fun hin => ?_) (fun h rest rest' heq => ?_)
  · rcases List.infix_concat_iff.mp hin with hin | hin
    · obtain ⟨front, hfront⟩ := hin
      have := congrArg List.getLast? hfront
      simp at this
    · exact h (Json.nameEnd_infix_iff.mp hin)
  · have hin : nameEnd <:+: text.toList.flatMap Json.escape :=
      Json.nameEnd_infix_iff.mpr (Classical.not_not.mp h)
    obtain ⟨front, behind, hescape, hfront⟩ := Text.exists_first_of_infix hin
    obtain ⟨tail, hpaint⟩ :=
      Color.paint_cons .cyan (String.ofList ('"' :: (front ++ ['"'])))
    rw [quote, hescape, List.append_assoc _ behind, line_name hfront, hpaint] at heq
    -- the one side starts with a color, the other with the quote
    exact absurd (List.cons.inj heq).1 (by decide)

theorem layouts_agree :
    Layout.Related Agree (lineLayout .ansi) (paintedLayout .ansi) leadingLayout where
  nil := .same []
  append := .append
  item {v} hflat h := by
    rcases compact_start hflat h with ⟨text, rfl⟩ | ⟨c, cs, hcompact, hblank, hquote⟩
    · exact .string text
    · have hline : line .ansi v.compact = v.compact := by rw [hcompact, line_other hblank hquote]
      have hleading : leadingLayout.item v = [] := by
        cases v with
        | string text => exact absurd (List.cons.inj hcompact).1.symm hquote
        | _ => rfl
      have hitem : (lineLayout .ansi).item v = (paintedLayout .ansi).item v := hline
      rw [hleading, hitem]
      exact .same _
  value hflat h := .same _
  name := .name
  beginArray _ := .same _
  endArray _ := .same _
  beginObject _ := .same _
  endObject _ := .same _
  comma _ := .same _

/-- **The names and nothing else are colored exactly if all texts that start a line are clear.** -/
theorem painted_iff (h : v.Proper) :
    render .ansi v.prettyText = String.ofList ((paintedLayout .ansi).written true 0 v) ↔
      ∀ text ∈ leadingLayout.written true 0 v, Clear text := by
  have hagree := layouts_agree.written h true 0 [] []
  rw [List.append_nil, List.append_nil, and_iff_left rfl] at hagree
  rw [render_eq h, String.ofList_inj, hagree]

/-- **What coloring does to the pretty text of a value.** Without colors the text is kept, and with
colors it is kept but for their sequences. The names and nothing else are colored exactly if no text
that starts a line has the end of a name in it. -/
theorem names_colored_iff (v : Json) (h : v.Proper) :
    render .plain v.prettyText = v.prettyText ∧
      Color.erase (render .ansi v.prettyText).toList = v.prettyText.toList ∧
      (render .ansi v.prettyText = String.ofList ((paintedLayout .ansi).written true 0 v) ↔
        ∀ text ∈ leadingLayout.written true 0 v, Clear text) :=
  ⟨render_plain h, erase_render h, painted_iff h⟩

/-- The value of a member may hold the end of a name. -/
theorem member_value_kept :
    render .ansi (Json.object [("note", .string "a \": b")]).prettyText =
      String.ofList ((paintedLayout .ansi).written true 0
        (.object [("note", .string "a \": b")])) :=
  (names_colored_iff _ (.object (List.forall_mem_singleton.mpr (.string _)))).2.2.mpr (by decide)

/-- But a string that is an item of an array is colored up to the end of a name in it, though it has
no names at all. -/
theorem string_item_colored :
    (Json.array [.string "quoted\": x"]).prettyText = "[\n  \"quoted\\\": x\"\n]" ∧
      String.ofList ((paintedLayout .ansi).written true 0 (.array [.string "quoted\": x"])) =
        "[\n  \"quoted\\\": x\"\n]" ∧
      render .ansi "[\n  \"quoted\\\": x\"\n]" =
        "[\n  \x1b[36m\"quoted\\\"\x1b[0m: x\"\n]" := by
  decide

end ColoredJson

end DebugBridge
