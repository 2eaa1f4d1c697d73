import DebugBridge.Proofs.Utf8
import DebugBridge.Shell.Receiver
import Mathlib.Data.List.Basic
import Mathlib.Data.List.Induction

/-!
# Lines of output, however it is cut

Output arrives in pieces, and a line feed or a flush may come anywhere. What is given altogether are
bytes and flushes in a row, and that row is cut into lines in one way only: a line ends at each line
feed, and at each flush in front of which there is something left. The lines of a buffer are these,
and what it holds back is what stands behind the last of them.

A buffer puts each piece behind what it holds back and looks there for line feeds in a loop. What it
holds back never has one, so the loop does what the single bytes of the piece do one after another.
So it makes no difference how the bytes between two flushes are cut into pieces.

* `add_eq_foldl` — a piece is taken as its bytes one after another
* `Cut.unique` — what is given is cut in one way only
* `holds_foldl` — a buffer holds exactly what is cut, whatever it is given
* `lineText_ofString` — a text is shown as it was written, with or without a carriage return
* `lines_exact` — all of this for every row of calls
-/

namespace DebugBridge.LineBuffer

/-! ## What is given -/

/-- A call: a piece of output, or a flush. -/
inductive Call where
  | piece (bytes : Bytes)
  | flush

/-- What is given with the calls: single bytes, and flushes among them. -/
inductive Mark where
  | byte (b : UInt8)
  | flush
  deriving DecidableEq

/-- The bytes of a mark. -/
def Mark.bytes : Mark → Bytes
  | .byte b => [b]
  | .flush => []

/-- What is given with a call. -/
def Call.marks : Call → List Mark
  | .piece bytes => bytes.map .byte
  | .flush => [.flush]

/-- The bytes that are given with a call. -/
def Call.bytes : Call → Bytes
  | .piece bytes => bytes
  | .flush => []

/-- All that is given with a row of calls: how the bytes are cut into pieces does not show. -/
def given (calls : List Call) : List Mark := calls.flatMap Call.marks

theorem given_append (calls more : List Call) :
    given (calls ++ more) = given calls ++ given more :=
  List.flatMap_append

/-- The buffer after a call. -/
def call (readsFailures : Bool) (buffer : LineBuffer) : Call → LineBuffer
  | .piece bytes => (receiver readsFailures).add buffer bytes
  | .flush => (receiver readsFailures).finish buffer

/-- The buffer after a row of calls. -/
def run (readsFailures : Bool) (calls : List Call) : LineBuffer :=
  calls.foldl (call readsFailures) empty

/-! ## The loop that ends lines -/

section Loop

variable {lines : Array String} {line held : Bytes}

/-- Without a line feed all bytes are held back. -/
theorem drain_of_notMem (h : 10 ∉ held) :
    drain lines held = { lines, unfinished := held.toArray } := by
  have hnone : held.idxOf? 10 = none := List.idxOf?_eq_none_iff.mpr h
  rw [drain]
  split
  · rfl
  · next hsome => cases hnone.symm.trans hsome

/-- The first line feed ends a line, and the loop goes on behind it. -/
theorem drain_feed (h : 10 ∉ line) (rest : Bytes) :
    drain lines (line ++ 10 :: rest) = drain (lines.push (lineText line)) rest := by
  have hfeed : (line ++ 10 :: rest).idxOf? 10 = some line.length := by
    refine List.idxOf?_eq_some_iff.mpr ⟨by simp, by simp, fun i hi hat => h ?_⟩
    rw [List.getElem_append_left hi] at hat
    exact List.mem_of_getElem hat
  rw [drain]
  split
  · next hnone => cases hfeed.symm.trans hnone
  · next pos hpos =>
    cases hfeed.symm.trans hpos
    rw [List.take_left, List.drop_length_add_append, List.drop_one, List.tail_cons]

/-- The buffer after a single byte; a line feed ends the line. -/
def addByte (buffer : LineBuffer) (b : UInt8) : LineBuffer :=
  if b = 10 then buffer.endLine else { buffer with unfinished := buffer.unfinished.push b }

theorem addByte_feed (buffer : LineBuffer) : buffer.addByte 10 = buffer.endLine := rfl

theorem addByte_of_ne (buffer : LineBuffer) {b : UInt8} (hb : b ≠ 10) :
    buffer.addByte b = { buffer with unfinished := buffer.unfinished.push b } :=
  if_neg hb

/-- The loop over bytes behind an unfinished line takes them one after another. -/
theorem drain_append (h : 10 ∉ held) (piece : Bytes) :
    drain lines (held ++ piece) = piece.foldl addByte { lines, unfinished := held.toArray } := by
  induction piece generalizing lines held with
  | nil =>
    rw [List.append_nil, drain_of_notMem h]
    rfl
  | cons b piece ih =>
    by_cases hb : b = 10
    · subst hb
      rw [drain_feed h, List.foldl_cons, addByte_feed]
      exact @ih (lines.push (lineText held)) [] List.not_mem_nil
    · have hheld : 10 ∉ held ++ [b] := by simp [h, Ne.symm hb]
      have hbyte : addByte { lines, unfinished := held.toArray } b =
          { lines, unfinished := (held ++ [b]).toArray } := by
        rw [addByte_of_ne _ hb, List.push_toArray]
      rw [List.append_cons, ih hheld, List.foldl_cons, hbyte]

/-- **A piece is taken as its bytes one after another**, if no line feed is held back. -/
theorem add_eq_foldl {buffer : LineBuffer} (h : 10 ∉ buffer.unfinished.toList) (piece : Bytes) :
    buffer.add piece = piece.foldl addByte buffer := by
  rw [add, drain_append h, Array.toArray_toList]

end Loop

/-! ## How it is cut -/

/-- What ends a row of bytes: a line feed or a flush. -/
inductive Ending where
  | feed | flush
  deriving DecidableEq

def Ending.mark : Ending → Mark
  | .feed => .byte 10
  | .flush => .flush

def Ending.bytes : Ending → Bytes
  | .feed => [10]
  | .flush => []

/-- A row of bytes and what ends it. -/
structure Row where
  bytes : Bytes
  ending : Ending
  deriving DecidableEq

def Row.marks (row : Row) : List Mark := row.bytes.map .byte ++ [row.ending.mark]

/-- The line of a row. A flush that finds nothing ends no line. -/
def Row.text? (row : Row) : Option String :=
  if row.bytes = [] ∧ row.ending = .flush then none else some (lineText row.bytes)

/-- What is given, cut at its line feeds and at its flushes. -/
structure Cut (input : List Mark) (rows : List Row) (tail : Bytes) : Prop where
  whole : input = rows.flatMap Row.marks ++ tail.map .byte
  feed_notMem : ∀ row ∈ rows, 10 ∉ row.bytes
  feed_notMem_tail : 10 ∉ tail

variable {input : List Mark} {rows rows' : List Row} {tail tail' : Bytes} {buffer : LineBuffer}
  {b : UInt8}

theorem Cut.nil : Cut [] [] [] := ⟨rfl, nofun, nofun⟩

theorem Cut.byte (h : Cut input rows tail) (hb : b ≠ 10) :
    Cut (input ++ [.byte b]) rows (tail ++ [b]) := by
  refine ⟨?_, h.feed_notMem, ?_⟩
  · rw [h.whole, List.map_append, List.append_assoc]
    rfl
  · simp [h.feed_notMem_tail, Ne.symm hb]

theorem Cut.ended (h : Cut input rows tail) (ending : Ending) :
    Cut (input ++ [ending.mark]) (rows ++ [⟨tail, ending⟩]) [] := by
  refine ⟨?_, ?_, nofun⟩
  · rw [h.whole, List.flatMap_append, List.flatMap_singleton, Row.marks]
    simp
  · refine List.forall_mem_append.mpr ⟨h.feed_notMem, ?_⟩
    exact List.forall_mem_singleton.mpr h.feed_notMem_tail

/-- One mark in front of what is already cut. -/
def consMark : Mark → List Row × Bytes → List Row × Bytes
  | .flush, (rows, tail) => (⟨[], .flush⟩ :: rows, tail)
  | .byte b, (rows, tail) =>
    if b = 10 then (⟨[], .feed⟩ :: rows, tail)
    else match rows with
      | [] => ([], b :: tail)
      | row :: rows => (⟨b :: row.bytes, row.ending⟩ :: rows, tail)

/-- What is given, cut from its end. -/
def cut (input : List Mark) : List Row × Bytes := input.foldr consMark ([], [])

theorem cut_tail (h : 10 ∉ tail) : cut (tail.map .byte) = ([], tail) := by
  induction tail with
  | nil => rfl
  | cons b tail ih =>
    obtain ⟨hb, htail⟩ := not_or.mp (mt List.mem_cons.mpr h)
    show consMark (.byte b) (cut (tail.map .byte)) = _
    rw [ih htail]
    exact if_neg (Ne.symm hb)

theorem cut_row {row : Row} (h : 10 ∉ row.bytes) (input : List Mark) :
    cut (row.marks ++ input) = (row :: (cut input).1, (cut input).2) := by
  obtain ⟨bytes, ending⟩ := row
  change 10 ∉ bytes at h
  induction bytes with
  | nil => cases ending <;> rfl
  | cons b bytes ih =>
    obtain ⟨hb, hbytes⟩ := not_or.mp (mt List.mem_cons.mpr h)
    show consMark (.byte b) (cut (Row.marks ⟨bytes, ending⟩ ++ input)) = _
    rw [ih hbytes]
    exact if_neg (Ne.symm hb)

theorem Cut.cut_eq (h : Cut input rows tail) : cut input = (rows, tail) := by
  obtain ⟨rfl, hrows, htail⟩ := h
  induction rows with
  | nil => exact cut_tail htail
  | cons row rows ih =>
    obtain ⟨hrow, hrows⟩ := List.forall_mem_cons.mp hrows
    rw [List.flatMap_cons, List.append_assoc, cut_row hrow, ih hrows]

/-- **What is given is cut in one way only.** -/
theorem Cut.unique (h : Cut input rows tail) (h' : Cut input rows' tail') :
    rows' = rows ∧ tail' = tail :=
  Prod.mk.inj (h'.cut_eq.symm.trans h.cut_eq)

/-! ## What a buffer holds -/

/-- The buffer after a byte or a flush. -/
def take (buffer : LineBuffer) : Mark → LineBuffer
  | .byte b => buffer.addByte b
  | .flush => buffer.finish

/-- A buffer whose lines are those of some rows, and which holds the bytes behind them back. -/
structure Holds (buffer : LineBuffer) (rows : List Row) (tail : Bytes) : Prop where
  lines : buffer.lines.toList = rows.filterMap Row.text?
  unfinished : buffer.unfinished.toList = tail

theorem Holds.byte (h : Holds buffer rows tail) (hb : b ≠ 10) :
    Holds (buffer.take (.byte b)) rows (tail ++ [b]) := by
  have htake : buffer.take (.byte b) = { buffer with unfinished := buffer.unfinished.push b } :=
    buffer.addByte_of_ne hb
  rw [htake]
  exact ⟨h.lines, by rw [Array.toList_push, h.unfinished]⟩

theorem Holds.endLine (h : Holds buffer rows tail) {ending : Ending}
    (htext : Row.text? ⟨tail, ending⟩ = some (lineText tail)) :
    Holds buffer.endLine (rows ++ [⟨tail, ending⟩]) [] := by
  refine ⟨?_, rfl⟩
  rw [LineBuffer.endLine, Array.toList_push, h.lines, h.unfinished, List.filterMap_append,
    List.filterMap_cons_some htext, List.filterMap_nil]

/-- A row that ends gives a line, unless it is a flush that finds nothing. -/
theorem Holds.ended (h : Holds buffer rows tail) (ending : Ending) :
    Holds (buffer.take ending.mark) (rows ++ [⟨tail, ending⟩]) [] := by
  cases ending with
  | feed =>
    have hfeed : buffer.take Ending.feed.mark = buffer.endLine := buffer.addByte_feed
    rw [hfeed]
    exact h.endLine (if_neg fun hidle => nomatch hidle.2)
  | flush =>
    have hempty : buffer.unfinished.isEmpty = true ↔ tail = [] := by
      rw [← h.unfinished, ← Array.isEmpty_toList, List.isEmpty_iff]
    by_cases htail : tail = []
    · have htake : buffer.take Ending.flush.mark = buffer := if_pos (hempty.mpr htail)
      have htext : Row.text? ⟨tail, .flush⟩ = none := if_pos ⟨htail, rfl⟩
      rw [htake]
      refine ⟨?_, by rw [h.unfinished, htail]⟩
      rw [h.lines, List.filterMap_append, List.filterMap_cons_none htext, List.filterMap_nil,
        List.append_nil]
    · have htake : buffer.take Ending.flush.mark = buffer.endLine :=
        if_neg (mt hempty.mp htail)
      rw [htake]
      exact h.endLine (if_neg fun hidle => htail hidle.1)

/-- **One byte or flush more.** -/
theorem Holds.take (hcut : Cut input rows tail) (h : Holds buffer rows tail) (mark : Mark) :
    ∃ rows' tail', Cut (input ++ [mark]) rows' tail' ∧ Holds (buffer.take mark) rows' tail' := by
  cases mark with
  | flush => exact ⟨_, _, hcut.ended .flush, h.ended .flush⟩
  | byte b =>
    by_cases hb : b = 10
    · subst hb
      exact ⟨_, _, hcut.ended .feed, h.ended .feed⟩
    · exact ⟨_, _, hcut.byte hb, h.byte hb⟩

/-- **A buffer holds exactly what is cut**, whatever it is given. -/
theorem holds_foldl (input : List Mark) :
    ∃ rows tail, Cut input rows tail ∧ Holds (input.foldl take empty) rows tail := by
  induction input using List.reverseRecOn with
  | nil => exact ⟨[], [], .nil, rfl, rfl⟩
  | append_singleton input mark ih =>
    obtain ⟨rows, tail, hcut, h⟩ := ih
    rw [List.foldl_append]
    exact h.take hcut mark

/-- The calls themselves do not matter, only what is given with them: the loop never finds a line
feed in what earlier calls have left. -/
theorem run_eq (readsFailures : Bool) (calls : List Call) :
    run readsFailures calls = (given calls).foldl take empty := by
  induction calls using List.reverseRecOn with
  | nil => rfl
  | append_singleton calls c ih =>
    obtain ⟨rows, tail, hcut, h⟩ := holds_foldl (given calls)
    have hheld : 10 ∉ ((given calls).foldl take empty).unfinished.toList := by
      rw [h.unfinished]
      exact hcut.feed_notMem_tail
    have hgiven : given [c] = c.marks := List.flatMap_singleton ..
    rw [run, List.foldl_concat, ← run, ih, given_append, List.foldl_append, hgiven]
    cases c with
    | piece bytes =>
      rw [Call.marks, List.foldl_map]
      exact add_eq_foldl hheld bytes
    | flush => rfl

theorem take_lines (buffer : LineBuffer) (mark : Mark) :
    buffer.lines.toList <+: (buffer.take mark).lines.toList := by
  have hended : buffer.lines.toList <+: buffer.endLine.lines.toList := by
    rw [endLine, Array.toList_push]
    exact List.prefix_append _ _
  cases mark with
  | byte b =>
    show _ <+: (buffer.addByte b).lines.toList
    rw [addByte]
    split
    · exact hended
    · exact List.prefix_rfl
  | flush =>
    show _ <+: buffer.finish.lines.toList
    rw [finish]
    split
    · exact List.prefix_rfl
    · exact hended

/-- Lines that are there stay there. -/
theorem run_lines_prefix (readsFailures : Bool) (calls more : List Call) :
    (run readsFailures calls).lines.toList <+: (run readsFailures (calls ++ more)).lines.toList := by
  rw [run_eq, run_eq, given_append, List.foldl_append]
  generalize (given calls).foldl take empty = buffer
  generalize given more = marks
  induction marks generalizing buffer with
  | nil => exact List.prefix_rfl
  | cons mark marks ih => exact (take_lines buffer mark).trans (ih _)

/-- Two flushes in a row are as one. -/
theorem run_flush_flush (readsFailures : Bool) (calls : List Call) :
    run readsFailures (calls ++ [.flush, .flush]) = run readsFailures (calls ++ [.flush]) := by
  have hfinish : ∀ buffer : LineBuffer, buffer.finish.finish = buffer.finish := by
    intro buffer
    by_cases hempty : buffer.unfinished.isEmpty = true
    · have hsame : buffer.finish = buffer := if_pos hempty
      rw [hsame, hsame]
    · have hended : buffer.finish = buffer.endLine := if_neg hempty
      rw [hended]
      exact if_pos rfl
  rw [run, run, List.foldl_append, List.foldl_append]
  exact hfinish _

theorem flatMap_bytes (bytes : Bytes) : (bytes.map Mark.byte).flatMap Mark.bytes = bytes := by
  rw [List.flatMap_map]
  exact List.flatMap_singleton' bytes

/-- No byte is lost or held twice: the rows and what is held back make up the pieces. -/
theorem Cut.bytes {calls : List Call} (h : Cut (given calls) rows tail) :
    calls.flatMap Call.bytes = rows.flatMap (fun row => row.bytes ++ row.ending.bytes) ++ tail := by
  have hcall : ∀ c : Call, c.marks.flatMap Mark.bytes = c.bytes := by
    intro c
    cases c with
    | piece bytes => exact flatMap_bytes bytes
    | flush => rfl
  have hrow : ∀ row : Row, row.marks.flatMap Mark.bytes = row.bytes ++ row.ending.bytes := by
    rintro ⟨bytes, ending⟩
    rw [Row.marks, List.flatMap_append, flatMap_bytes]
    cases ending <;> rfl
  have hwhole := congrArg (List.flatMap Mark.bytes) h.whole
  rw [given, List.flatMap_append, List.flatMap_assoc, List.flatMap_assoc, flatMap_bytes] at hwhole
  simpa only [hcall, hrow] using hwhole

/-! ## Lines as texts -/

theorem lineText_return (line : Bytes) : lineText (line ++ [13]) = Utf8.lenientString line := by
  rw [lineText, List.getLast?_concat, if_pos rfl, List.dropLast_concat]

theorem lineText_of_ne {line : Bytes} (h : line.getLast? ≠ some 13) :
    lineText line = Utf8.lenientString line := by
  rw [lineText, if_neg h]

theorem lenientString_ofString (text : String) :
    Utf8.lenientString (Utf8.ofString text) = text := by
  rw [Utf8.lenientString, Utf8.lenient_ofString, String.ofList_toList]

/-- The bytes of a text end with a carriage return only if the text does. -/
theorem getLast?_ofString {text : String} (h : text.toList.getLast? ≠ some '\r') :
    (Utf8.ofString text).getLast? ≠ some 13 := by
  intro hlast
  rw [Utf8.ofString, Utf8.encode] at hlast
  generalize text.toList = cs at h hlast
  induction cs using List.reverseRecOn with
  | nil => cases hlast
  | append_singleton cs c _ =>
    rw [List.flatMap_append, List.flatMap_singleton,
      List.getLast?_append_of_ne_nil _ (Utf8.encodeChar_ne_nil c)] at hlast
    have hc := Utf8.eq_of_mem_encodeChar (List.mem_of_getLast? hlast) (by decide)
    refine h ?_
    rw [List.getLast?_concat, ← Char.toNat_inj.mp (show c.toNat = '\r'.toNat from hc)]

/-- **A text is shown as it was written**, with or without a carriage return behind it. -/
theorem lineText_ofString (text : String) :
    lineText (Utf8.ofString text ++ [13]) = text ∧
      (text.toList.getLast? ≠ some '\r' → lineText (Utf8.ofString text) = text) := by
  refine ⟨by rw [lineText_return, lenientString_ofString], fun h => ?_⟩
  rw [lineText_of_ne (getLast?_ofString h), lenientString_ofString]

/-! ## Rows of calls -/

/-- **The lines are those of what is given, however it is cut.** After any row of calls, what was
given is cut at each line feed and at each flush, in the one way there is; the lines are those of its
rows, in order, what is held back is the rest, and together they make up the pieces. Lines stay where
they are. Calls with which the same is given leave the same, and a second flush in a row does
nothing. The text of a line is read from all its bytes at once, but for one carriage return at its
end, so that a text is shown as it was written. -/
theorem lines_exact (readsFailures : Bool) :
    (∀ calls : List Call, ∃ rows tail, Cut (given calls) rows tail ∧
      (∀ rows' tail', Cut (given calls) rows' tail' → rows' = rows ∧ tail' = tail) ∧
      (run readsFailures calls).lines.toList = rows.filterMap Row.text? ∧
      (run readsFailures calls).unfinished.toList = tail ∧
      calls.flatMap Call.bytes = rows.flatMap (fun row => row.bytes ++ row.ending.bytes) ++ tail) ∧
    (∀ calls more : List Call,
      (run readsFailures calls).lines.toList <+:
        (run readsFailures (calls ++ more)).lines.toList) ∧
    (∀ calls calls' : List Call, given calls = given calls' →
      run readsFailures calls = run readsFailures calls') ∧
    (∀ calls : List Call,
      run readsFailures (calls ++ [.flush, .flush]) = run readsFailures (calls ++ [.flush])) ∧
    (∀ line : Bytes, lineText (line ++ [13]) = Utf8.lenientString line ∧
      (line.getLast? ≠ some 13 → lineText line = Utf8.lenientString line)) ∧
    ∀ text : String, lineText (Utf8.ofString text ++ [13]) = text ∧
      (text.toList.getLast? ≠ some '\r' → lineText (Utf8.ofString text) = text) := by
  refine ⟨fun calls => ?_, run_lines_prefix readsFailures, fun calls calls' h => ?_,
    run_flush_flush readsFailures, fun line => ⟨lineText_return line, lineText_of_ne⟩,
    lineText_ofString⟩
  · obtain ⟨rows, tail, hcut, h⟩ := holds_foldl (given calls)
    rw [← run_eq readsFailures] at h
    exact ⟨rows, tail, hcut, fun _ _ => hcut.unique, h.lines, h.unfinished, hcut.bytes⟩
  · rw [run_eq, run_eq, h]

/-- A letter of two bytes and the two bytes of a line end, each cut in half, and two flushes behind an
unfinished line. -/
theorem lines_exact_halves :
    (run false [.piece [0xC3], .piece [0xA9, 13], .piece [10, 0x78], .flush, .flush]).lines.toList =
        ["é", "x"] ∧
      run false [.piece [0xC3], .piece [0xA9, 13], .piece [10, 0x78], .flush, .flush] =
        run false [.piece [0xC3, 0xA9, 13, 10, 0x78], .flush, .flush] := by
  refine ⟨?_, (lines_exact false).2.2.1 _ _ rfl⟩
  obtain ⟨rows, tail, -, hunique, hlines, -⟩ := (lines_exact false).1
    [.piece [0xC3], .piece [0xA9, 13], .piece [10, 0x78], .flush, .flush]
  obtain ⟨rfl, -⟩ := hunique [⟨[0xC3, 0xA9, 13], .feed⟩, ⟨[0x78], .flush⟩, ⟨[], .flush⟩] []
    ⟨rfl, by decide, by decide⟩
  have hfirst : lineText [0xC3, 0xA9, 13] = "é" := ((lines_exact false).2.2.2.2.2 "é").1
  have hsecond : lineText [0x78] = "x" := ((lines_exact false).2.2.2.2.2 "x").2 (by decide)
  rw [hlines, ← hfirst, ← hsecond]
  rfl

end DebugBridge.LineBuffer
