import DebugBridge.Proofs.Sync.Answer

/-!
# The four answers

A file comes as blocks `DATA` and an end `DONE`, a directory as blocks `DENT` and an end `DONE`, a
status as one block `STAT`, and the receipt of a file as one block `OKAY`. Instead of the end, or of
the one block, the device may refuse.

* `front_closing` — the answers of one block: which bytes are read as one
* `Sending.parts_whole`, `Sending.parts_breaks` — the answers of many blocks: which bytes are read
  as one, and which break
-/

namespace DebugBridge

open SyncSession (maxChunk)

/-! ## The blocks of each answer -/

namespace SyncBlock

/-- A block of a fixed length. -/
def fixed {α : Type} (head : Nat) (value : Bytes → α) : SyncBlock α where
  head
  value bytes _ := .ok (value bytes)

/-- Bytes of a file. -/
def data : SyncBlock (Option Bytes) where
  head := 4
  announced head := (Bytes.frontWord head).toNat
  overlong size := .bufferOverrun size maxChunk
  value _ piece := .ok (some piece)

/-- An entry of a directory: its status, the length of its name, and its name. -/
def entry : SyncBlock (Option FileEntry) where
  head := 16
  announced head := (Bytes.frontWord (head.drop 12)).toNat
  overlong size := .malformed s!"Directory entry name of {size} bytes exceeds limit of {maxChunk}"
  value head name := .ok (some ⟨Utf8.lenientString name, .ofBytes head⟩)

end SyncBlock

namespace SyncAnswer

/-- The bytes of a file. -/
def content : SyncAnswer (Option Bytes) where
  kind
    | .data => some .data
    | .done => some (.fixed 4 fun _ => none)
    | .fail => some .refusal
    | _ => none
  expected := "DATA or DONE"
  refuses := rfl
  answers {c k} hc hk head body := by
    cases c <;> cases hk
    · exact ⟨_, rfl⟩
    · exact ⟨_, rfl⟩
    · exact absurd rfl hc

/-- The entries of a directory. -/
def listing : SyncAnswer (Option FileEntry) where
  kind
    | .entry => some .entry
    | .done => some (.fixed 16 fun _ => none)
    | .fail => some .refusal
    | _ => none
  expected := "DENT or DONE"
  refuses := rfl
  answers {c k} hc hk head body := by
    cases c <;> cases hk
    · exact ⟨_, rfl⟩
    · exact ⟨_, rfl⟩
    · exact absurd rfl hc

/-- An answer of one block of a fixed length. -/
def single {α : Type} (command : SyncCommand) (head : Nat) (value : Bytes → α)
    (expected : String) : SyncAnswer α where
  kind c :=
    if c = .fail then some .refusal
    else if c = command then some (.fixed head value)
    else none
  expected
  refuses := rfl
  answers {c k} hc hk head body := by
    rw [if_neg hc] at hk
    split at hk
    · cases hk
      exact ⟨_, rfl⟩
    · cases hk

/-- The status of a file. -/
def status : SyncAnswer FileStat := single .stat 12 .ofBytes "STAT"

/-- The receipt of a file. -/
def receipt : SyncAnswer Unit := single .okay 4 (fun _ => ()) "OKAY or FAIL"

end SyncAnswer

/-! ## The bytes of each answer -/

/-- The bytes with which an answer ends: `command` and `n` bytes, which stand for a value, or a
refusal. -/
inductive Closing {β : Type} (command : SyncCommand) (n : Nat) (value : Bytes → β) :
    Except Failure β → Bytes → Prop
  | value {words : Bytes} : words.length = n →
      Closing command n value (.ok (value words)) (command.id ++ words)
  | refusal {text : Bytes} : text.length ≤ maxChunk →
      Closing command n value (.error (.malformed (Utf8.lenientString text)))
        (SyncCommand.fail.block text)

/-- An entry of a directory as a device sends it. -/
structure SentEntry where
  stat : FileStat
  name : Bytes
  deriving DecidableEq, Repr, Inhabited

namespace SentEntry

/-- The block of an entry. -/
def block (sent : SentEntry) : Bytes :=
  SyncCommand.entry.id ++ sent.stat.bytes ++ Bytes.ofWord (UInt32.ofNat sent.name.length) ++
    sent.name

/-- What a caller gets of it. -/
def entry (sent : SentEntry) : FileEntry := ⟨Utf8.lenientString sent.name, sent.stat⟩

theorem block_append (sent : SentEntry) (rest : Bytes) :
    sent.block ++ rest = SyncCommand.entry.id ++
      ((sent.stat.bytes ++ Bytes.ofWord (UInt32.ofNat sent.name.length)) ++
        (sent.name ++ rest)) := by
  simp only [block, List.append_assoc]

/-- The bytes of an entry that was read are the block of an entry with that status and name. -/
theorem block_ofBytes {head name : Bytes} (hh : head.length = 16)
    (hn : name.length = (Bytes.frontWord (head.drop 12)).toNat) (rest : Bytes) :
    SyncCommand.entry.id ++ (head ++ (name ++ rest)) =
      block ⟨.ofBytes head, name⟩ ++ rest := by
  have hs : (head.take 12).length = 12 := by rw [List.length_take, hh]; rfl
  have hl : (head.drop 12).length = 4 := by rw [List.length_drop, hh]
  have hstat : FileStat.ofBytes head = FileStat.ofBytes (head.take 12) := by
    have := FileStat.ofBytes_bytes_append (.ofBytes (head.take 12)) (head.drop 12)
    rwa [FileStat.bytes_ofBytes hs, List.take_append_drop] at this
  rw [block_append]
  simp only
  rw [← SyncBlock.eq_ofWord hl hn, hstat, FileStat.bytes_ofBytes hs, List.take_append_drop]

end SentEntry

namespace SyncAnswer

variable {α β γ : Type}

/-! ## Answers of one block -/

theorem front_fixed {g : SyncAnswer α} {c : SyncCommand} {n : Nat} {value : Bytes → α}
    {words : Bytes} (hk : g.kind c = some (.fixed n value)) (hl : words.length = n) (rest : Bytes) :
    g.front (c.id ++ (words ++ rest)) = .whole (.ok (value words)) rest :=
  front_block hk hl (show ([] : Bytes).length = 0 from rfl) (Nat.zero_le _) rest

/-- **An answer of one block is read as a whole exactly if it is one.** -/
theorem front_closing {command : SyncCommand} (hc : command ≠ .fail) {n : Nat}
    {value : Bytes → β} {expected : String} {bytes rest : Bytes} {verdict : Except Failure β} :
    (single command n value expected).front bytes = .whole verdict rest ↔
      ∃ front, Closing command n value verdict front ∧ bytes = front ++ rest := by
  have hkind : (single command n value expected).kind command = some (.fixed n value) := by
    simp only [single, if_neg hc, if_pos]
  constructor
  · intro h
    cases verdict with
    | error e =>
      obtain ⟨text, hmax, rfl, rfl⟩ := front_refusal.mp h
      exact ⟨_, .refusal hmax, rfl⟩
    | ok b =>
      obtain ⟨c, k, head, body, hk, hh, hb, -, rfl, hv⟩ := front_whole h
      simp only [single] at hk
      split at hk
      · cases hk
        cases hv
      · split at hk
        · next hcc =>
          cases hk
          cases hv
          obtain rfl := List.length_eq_zero_iff.mp hb
          refine ⟨command.id ++ head, .value hh, ?_⟩
          rw [hcc, List.nil_append, List.append_assoc]
        · cases hk
  · rintro ⟨front, hclosing, rfl⟩
    cases hclosing with
    | value hl =>
      rw [List.append_assoc]
      exact front_fixed hkind hl rest
    | refusal hmax => exact front_refusal.mpr ⟨_, hmax, rfl, rfl⟩

/-! ## Answers of many blocks -/

theorem content_part {bytes piece rest : Bytes} :
    content.front bytes = .whole (.ok (some piece)) rest ↔
      piece.length ≤ maxChunk ∧ bytes = SyncCommand.data.block piece ++ rest := by
  constructor
  · intro h
    obtain ⟨c, k, head, body, hk, hh, hb, hmax, rfl, hv⟩ := front_whole h
    cases c <;> cases hk <;> cases hv
    refine ⟨hmax, ?_⟩
    rw [SyncBlock.block_append, ← SyncBlock.eq_ofWord hh hb]
  · rintro ⟨hmax, rfl⟩
    rw [SyncBlock.block_append]
    have hn := SyncBlock.toNat_length hmax
    exact front_block (g := content) (k := .data) rfl rfl hn.symm hmax rest

/-- A piece with more bytes than a block may have breaks the answer. -/
theorem content_overlong {piece : Bytes} (hlong : maxChunk < piece.length)
    (hword : piece.length < UInt32.size) (rest : Bytes) :
    content.Breaks (SyncCommand.data.block piece ++ rest) (.bufferOverrun piece.length maxChunk) := by
  have hannounced : SyncBlock.data.announced (Bytes.ofWord (UInt32.ofNat piece.length)) =
      piece.length := by
    show (Bytes.frontWord _).toNat = _
    rw [Bytes.frontWord_ofWord]
    exact UInt32.toNat_ofNat_of_lt' hword
  have hbreaks := @Breaks.overlong _ content .data .data (Bytes.ofWord (UInt32.ofNat piece.length))
    (piece ++ rest) rfl rfl (by rwa [hannounced])
  rwa [hannounced, ← SyncBlock.block_append] at hbreaks

theorem listing_part {bytes rest : Bytes} {entry : FileEntry} :
    listing.front bytes = .whole (.ok (some entry)) rest ↔
      ∃ sent : SentEntry, sent.name.length ≤ maxChunk ∧ entry = sent.entry ∧
        bytes = sent.block ++ rest := by
  constructor
  · intro h
    obtain ⟨c, k, head, body, hk, hh, hb, hmax, rfl, hv⟩ := front_whole h
    cases c <;> cases hk <;> cases hv
    exact ⟨⟨.ofBytes head, body⟩, hmax, rfl, SentEntry.block_ofBytes hh hb rest⟩
  · rintro ⟨sent, hmax, rfl, rfl⟩
    have hn := SyncBlock.toNat_length hmax
    rw [SentEntry.block_append, front_block (g := listing) (k := .entry) rfl rfl hn.symm hmax rest]
    simp only [SyncBlock.entry, FileStat.ofBytes_bytes_append, SentEntry.entry]

/-- The end `DONE` of an answer of many blocks. -/
theorem front_done {g : SyncAnswer (Option α)} {n : Nat} {bytes rest : Bytes}
    (hdone : g.kind .done = some (.fixed n fun _ => none))
    (honly : ∀ c k, g.kind c = some k → ∀ head body, k.value head body = .ok none → c = .done) :
    g.front bytes = .whole (.ok none) rest ↔
      ∃ front : Bytes, front.length = n ∧ bytes = SyncCommand.done.id ++ (front ++ rest) := by
  constructor
  · intro h
    obtain ⟨c, k, head, body, hk, hh, hb, -, rfl, hv⟩ := front_whole h
    obtain rfl := honly c k hk head body hv.symm
    obtain rfl := Option.some.inj (hk.symm.trans hdone)
    obtain rfl := List.length_eq_zero_iff.mp hb
    exact ⟨head, hh, rfl⟩
  · rintro ⟨front, hl, rfl⟩
    exact front_fixed hdone hl rest

/-- How a device sends an answer of many blocks: a block for each part, and a block `DONE` with
`words` bytes behind them. -/
structure Sending (g : SyncAnswer (Option α)) (γ : Type) where
  block : γ → Bytes
  fits : γ → Prop
  meaning : γ → α
  words : Nat
  part : ∀ {bytes rest : Bytes} {a : α},
    g.front bytes = .whole (.ok (some a)) rest ↔
      ∃ x, fits x ∧ a = meaning x ∧ bytes = block x ++ rest
  done : ∀ {bytes rest : Bytes},
    g.front bytes = .whole (.ok none) rest ↔
      ∃ front : Bytes, front.length = words ∧ bytes = SyncCommand.done.id ++ (front ++ rest)

/-- The sending of a file. -/
def content.sending : content.Sending Bytes where
  block := SyncCommand.data.block
  fits piece := piece.length ≤ maxChunk
  meaning := id
  words := 4
  part := by
    intro bytes rest piece
    rw [content_part]
    constructor
    · rintro ⟨hmax, rfl⟩
      exact ⟨piece, hmax, rfl, rfl⟩
    · rintro ⟨_, hmax, rfl, rfl⟩
      exact ⟨hmax, rfl⟩
  done := front_done rfl fun c k hk _ _ hv => by
    cases c <;> cases hk <;> first | rfl | cases hv

/-- The sending of a directory. -/
def listing.sending : listing.Sending SentEntry where
  block := SentEntry.block
  fits sent := sent.name.length ≤ maxChunk
  meaning := SentEntry.entry
  words := 16
  part := listing_part
  done := front_done rfl fun c k hk _ _ hv => by
    cases c <;> cases hk <;> first | rfl | cases hv

namespace Sending

variable {g : SyncAnswer (Option α)} (r : g.Sending γ)

/-- The bytes of a whole answer: the blocks of its parts, and how it ends. -/
def Whole (xs : List γ) (verdict : Except Failure Unit) (bytes : Bytes) : Prop :=
  (∀ x ∈ xs, r.fits x) ∧ ∃ closing, Closing .done r.words (fun _ => ()) verdict closing ∧
    bytes = xs.flatMap r.block ++ closing

/-- How a whole answer ends. -/
theorem last_whole {bytes rest : Bytes} {verdict : Except Failure Unit} :
    last? (g.front bytes) = some (.whole verdict rest) ↔
      ∃ closing, Closing .done r.words (fun _ => ()) verdict closing ∧
        bytes = closing ++ rest := by
  constructor
  · intro h
    unfold last? at h
    split at h
    · cases h
    · next hf =>
      cases h
      obtain ⟨front, hl, rfl⟩ := r.done.mp hf
      exact ⟨_, .value hl, (List.append_assoc _ _ _).symm⟩
    · next hf =>
      -- a refusal ends the answer where `DONE` might have stood
      cases h
      obtain ⟨text, hmax, rfl, rfl⟩ := front_refusal.mp hf
      exact ⟨_, .refusal hmax, rfl⟩
    · cases h
    · cases h
  · rintro ⟨closing, hclosing, rfl⟩
    cases hclosing with
    | value hl => rw [List.append_assoc, r.done.mpr ⟨_, hl, rfl⟩, last?]
    | refusal hmax => rw [front_refusal.mpr ⟨_, hmax, rfl, rfl⟩, last?]

/-- The parts of an answer are its first blocks. -/
theorem parts_iff {bytes : Bytes} {as : List α} {ending : Ending Unit} :
    g.Parts bytes as ending ↔
      ∃ (xs : List γ) (tail : Bytes), (∀ x ∈ xs, r.fits x) ∧ as = xs.map r.meaning ∧
        bytes = xs.flatMap r.block ++ tail ∧ last? (g.front tail) = some ending := by
  constructor
  · intro h
    induction h with
    | part hf _ ih =>
      obtain ⟨x, hx, rfl, rfl⟩ := r.part.mp hf
      obtain ⟨xs, tail, hxs, rfl, rfl, hl⟩ := ih
      exact ⟨x :: xs, tail, List.forall_mem_cons.mpr ⟨hx, hxs⟩, rfl,
        by rw [List.flatMap_cons, List.append_assoc], hl⟩
    | last hl => exact ⟨[], _, fun x hx => absurd hx List.not_mem_nil, rfl, rfl, hl⟩
  · rintro ⟨xs, tail, hxs, rfl, rfl, hl⟩
    induction xs with
    | nil => exact .last hl
    | cons x xs ih =>
      obtain ⟨hx, hxs⟩ := List.forall_mem_cons.mp hxs
      rw [List.flatMap_cons, List.append_assoc]
      exact .part (r.part.mpr ⟨x, hx, rfl, rfl⟩) (ih hxs)

/-- **Many blocks are read as a whole answer exactly if they are one.** -/
theorem parts_whole {bytes rest : Bytes} {as : List α} {verdict : Except Failure Unit} :
    g.Parts bytes as (.whole verdict rest) ↔
      ∃ (xs : List γ) (front : Bytes), r.Whole xs verdict front ∧ as = xs.map r.meaning ∧
        bytes = front ++ rest := by
  rw [r.parts_iff]
  constructor
  · rintro ⟨xs, tail, hxs, rfl, rfl, hl⟩
    obtain ⟨closing, hclosing, rfl⟩ := r.last_whole.mp hl
    exact ⟨xs, _, ⟨hxs, closing, hclosing, rfl⟩, rfl, (List.append_assoc _ _ _).symm⟩
  · rintro ⟨xs, front, ⟨hxs, closing, hclosing, rfl⟩, rfl, rfl⟩
    exact ⟨xs, closing ++ rest, hxs, rfl, List.append_assoc _ _ _,
      r.last_whole.mpr ⟨closing, hclosing, rfl⟩⟩

theorem Whole.parts {r : g.Sending γ} {xs : List γ} {verdict : Except Failure Unit}
    {front : Bytes} (h : r.Whole xs verdict front) (rest : Bytes) :
    g.Parts (front ++ rest) (xs.map r.meaning) (.whole verdict rest) :=
  r.parts_whole.mpr ⟨xs, front, h, rfl, rfl⟩

/-- **All others break behind some of their parts.** -/
theorem parts_breaks {bytes : Bytes} {as : List α} {e : Failure} :
    (∃ ending, g.Parts bytes as ending ∧ failure? ending = some e) ↔
      ∃ (xs : List γ) (tail : Bytes), (∀ x ∈ xs, r.fits x) ∧ as = xs.map r.meaning ∧
        bytes = xs.flatMap r.block ++ tail ∧ g.Breaks tail e := by
  have hlast : ∀ tail, (∃ ending, last? (g.front tail) = some ending ∧ failure? ending = some e) ↔
      g.Breaks tail e := by
    intro tail
    rw [breaks_iff]
    cases g.front tail with
    | whole verdict rest => rcases verdict with _ | _ | _ <;> simp [last?, failure?]
    | senseless e' => simp [last?, failure?]
    | cut => simp [last?, failure?]
  constructor
  · rintro ⟨ending, hp, hf⟩
    obtain ⟨xs, tail, hxs, has, hb, hl⟩ := r.parts_iff.mp hp
    exact ⟨xs, tail, hxs, has, hb, (hlast tail).mp ⟨ending, hl, hf⟩⟩
  · rintro ⟨xs, tail, hxs, has, hb, hbr⟩
    obtain ⟨ending, hl, hf⟩ := (hlast tail).mpr hbr
    exact ⟨ending, r.parts_iff.mpr ⟨xs, tail, hxs, has, hb, hl⟩, hf⟩

end Sending

end SyncAnswer

end DebugBridge
