import DebugBridge.Sync.Session

/-!
# The grammar of the answers

What the bytes say that a device sends, apart from how a session reads them. An answer is a run of
blocks. A block starts with the four letters of a command; then come a head of a fixed length and
as many bytes as the head announces. `SyncAnswer` says which commands an answer may bring and what
their blocks stand for; any other four bytes make no sense in it.

* `front_block`, `front_whole` — the front of a byte string is read as a whole block exactly if it
  is one
* `front_refusal` — a device refuses with a block `FAIL` and in no other way
* `breaks_iff` — all the ways in which the front of a byte string is no block
* `Parts.unique` — a byte string starts with one answer at most
-/

namespace DebugBridge

/-- How reading from the front of a byte string ends. -/
inductive Ending (α : Type) where
  /-- With something whole, which stands for a value or refuses; `rest` comes behind it. -/
  | whole (verdict : Except Failure α) (rest : Bytes)
  /-- With something that makes no sense. -/
  | senseless (e : Failure)
  /-- The bytes end inside something. -/
  | cut

namespace Ending

variable {α β : Type}

/-- The same ending with another value. -/
def map (f : α → β) : Ending α → Ending β
  | .whole verdict rest => .whole (verdict.map f) rest
  | .senseless e => .senseless e
  | .cut => .cut

/-- Takes `n` bytes off the front and goes on with them and the others. -/
def take (n : Nat) (next : Bytes → Bytes → Ending α) (bytes : Bytes) : Ending α :=
  if bytes.length < n then .cut else next (bytes.take n) (bytes.drop n)

theorem take_append {n : Nat} {next : Bytes → Bytes → Ending α} {front : Bytes}
    (h : front.length = n) (rest : Bytes) : take n next (front ++ rest) = next front rest := by
  subst h
  rw [take, if_neg (by rw [List.length_append]; omega), List.take_left, List.drop_left]

theorem take_short {n : Nat} {next : Bytes → Bytes → Ending α} {bytes : Bytes}
    (h : bytes.length < n) : take n next bytes = .cut := if_pos h

/-- There are too few bytes, or they have a front of `n` bytes. -/
theorem take_cases (n : Nat) (next : Bytes → Bytes → Ending α) (bytes : Bytes) :
    (bytes.length < n ∧ take n next bytes = .cut) ∨
      ∃ front rest, bytes = front ++ rest ∧ front.length = n ∧
        take n next bytes = next front rest := by
  by_cases h : bytes.length < n
  · exact .inl ⟨h, take_short h⟩
  · exact .inr ⟨bytes.take n, bytes.drop n, (List.take_append_drop n bytes).symm,
      by rw [List.length_take]; omega, if_neg h⟩

end Ending

/-- A kind of block: after the four letters of its command come `head` bytes, and behind these as
many bytes as they announce. -/
structure SyncBlock (α : Type) where
  head : Nat
  announced : Bytes → Nat := fun _ => 0
  /-- What is made of more bytes than a block may have. -/
  overlong : Nat → Failure := fun size => .bufferOverrun size SyncSession.maxChunk
  /-- What the head and the bytes behind it stand for. -/
  value : Bytes → Bytes → Except Failure α

open SyncSession (maxChunk)

/-- The block with which a device refuses: a text. -/
def SyncBlock.refusal {α : Type} : SyncBlock α where
  head := 4
  announced head := (Bytes.frontWord head).toNat
  overlong size := .malformed s!"Failure message of {size} bytes exceeds limit of {maxChunk}"
  value _ text := .error (.malformed (Utf8.lenientString text))

/-- The blocks that an answer may bring. A block `FAIL` refuses, and no other block does. -/
structure SyncAnswer (α : Type) where
  kind : SyncCommand → Option (SyncBlock α)
  /-- The commands that should have come instead of another one. -/
  expected : String
  refuses : kind .fail = some .refusal
  answers : ∀ {c k}, c ≠ .fail → kind c = some k → ∀ head body, ∃ a, k.value head body = .ok a

/-! ## Lengths -/

/-- A length that a block may have is read back from its word. -/
theorem SyncBlock.toNat_length {n : Nat} (h : n ≤ maxChunk) :
    (Bytes.frontWord (Bytes.ofWord (UInt32.ofNat n))).toNat = n := by
  rw [Bytes.frontWord_ofWord]
  exact UInt32.toNat_ofNat_of_lt' (Nat.lt_of_le_of_lt h (by decide))

/-- A head that announces the length of `body` is the word of that length. -/
theorem SyncBlock.eq_ofWord {head body : Bytes} (hh : head.length = 4)
    (hb : body.length = (Bytes.frontWord head).toNat) :
    head = Bytes.ofWord (UInt32.ofNat body.length) := by
  rw [hb, UInt32.ofNat_toNat, Bytes.ofWord_frontWord hh]

theorem SyncBlock.block_append (c : SyncCommand) (body rest : Bytes) :
    c.block body ++ rest =
      c.id ++ (Bytes.ofWord (UInt32.ofNat body.length) ++ (body ++ rest)) := by
  rw [SyncCommand.block, SyncCommand.word, List.append_assoc, List.append_assoc]

/-! ## One block -/

/-- Reads a block after its command. -/
def SyncBlock.read {α : Type} (k : SyncBlock α) : Bytes → Ending α :=
  Ending.take k.head fun head rest =>
    if k.announced head > maxChunk then .senseless (k.overlong (k.announced head))
    else Ending.take (k.announced head) (fun body rest => .whole (k.value head body) rest) rest

namespace SyncAnswer

variable {α : Type}

/-- How an unexpected command is refused. -/
def surprise (g : SyncAnswer α) (id : Bytes) : Failure :=
  .malformed ("Expected " ++ g.expected ++ " but got " ++ Text.quoted (Utf8.lenientString id))

/-- Reads a block. -/
def front (g : SyncAnswer α) : Bytes → Ending α :=
  Ending.take 4 fun id rest =>
    match (SyncCommand.ofId? id).bind g.kind with
    | some k => k.read rest
    | none => .senseless (g.surprise id)

theorem front_id {g : SyncAnswer α} {c : SyncCommand} {k : SyncBlock α} (hk : g.kind c = some k)
    (rest : Bytes) : g.front (c.id ++ rest) = k.read rest := by
  rw [front, Ending.take_append c.length_id, SyncCommand.ofId?_id, Option.bind_some, hk]

/-- **A whole block at the front is read.** -/
theorem front_block {g : SyncAnswer α} {c : SyncCommand} {k : SyncBlock α} {head body : Bytes}
    (hk : g.kind c = some k) (hh : head.length = k.head) (hb : body.length = k.announced head)
    (hmax : body.length ≤ maxChunk) (rest : Bytes) :
    g.front (c.id ++ (head ++ (body ++ rest))) = .whole (k.value head body) rest := by
  rw [front_id hk, SyncBlock.read, Ending.take_append hh, if_neg (by omega), Ending.take_append hb]

/-- A known command and an unknown one. -/
theorem front_cases (g : SyncAnswer α) (bytes : Bytes) :
    (bytes.length < 4 ∧ g.front bytes = .cut) ∨
      (∃ c k rest, g.kind c = some k ∧ bytes = c.id ++ rest ∧ g.front bytes = k.read rest) ∨
      ∃ id rest, bytes = id ++ rest ∧ id.length = 4 ∧ (SyncCommand.ofId? id).bind g.kind = none ∧
        g.front bytes = .senseless (g.surprise id) := by
  rcases Ending.take_cases 4 _ bytes with h | ⟨id, rest, hb, hl, hr⟩
  · exact .inl h
  · right
    cases hid : (SyncCommand.ofId? id).bind g.kind with
    | none =>
      rw [hid] at hr
      exact .inr ⟨id, rest, hb, hl, hid, hr⟩
    | some k =>
      rw [hid] at hr
      obtain ⟨c, hc, hk⟩ := Option.bind_eq_some_iff.mp hid
      exact .inl ⟨c, k, rest, hk, by rw [hb, SyncCommand.id_of_ofId? hc], hr⟩

/-- **Whatever is read as a whole block is one.** -/
theorem front_whole {g : SyncAnswer α} {bytes rest : Bytes} {verdict : Except Failure α}
    (h : g.front bytes = .whole verdict rest) :
    ∃ c k head body, g.kind c = some k ∧ head.length = k.head ∧
      body.length = k.announced head ∧ body.length ≤ maxChunk ∧
      bytes = c.id ++ (head ++ (body ++ rest)) ∧ verdict = k.value head body := by
  rcases g.front_cases bytes with ⟨-, hr⟩ | ⟨c, k, behind, hk, hb, hr⟩ | ⟨id, rest, -, -, -, hr⟩
  · rw [hr] at h
    cases h
  · rw [hr, SyncBlock.read] at h
    rcases Ending.take_cases k.head _ behind with ⟨-, hr⟩ | ⟨head, behind, rfl, hh, hr⟩
    · rw [hr] at h
      cases h
    · rw [hr] at h
      split at h
      · cases h
      · next hmax =>
        rcases Ending.take_cases (k.announced head) _ behind with ⟨-, hr⟩ | ⟨body, _, rfl, hl, hr⟩
        · rw [hr] at h
          cases h
        · rw [hr] at h
          cases h
          exact ⟨c, k, head, body, hk, hh, hl, by omega, hb, rfl⟩
  · rw [hr] at h
    cases h

/-- **A device refuses with a block `FAIL`, and in no other way.** -/
theorem front_refusal {g : SyncAnswer α} {bytes rest : Bytes} {e : Failure} :
    g.front bytes = .whole (.error e) rest ↔
      ∃ text : Bytes, text.length ≤ maxChunk ∧ e = .malformed (Utf8.lenientString text) ∧
        bytes = SyncCommand.fail.block text ++ rest := by
  constructor
  · intro h
    obtain ⟨c, k, head, body, hk, hh, hb, hmax, rfl, hv⟩ := front_whole h
    by_cases hc : c = .fail
    · subst hc
      obtain rfl := Option.some.inj (hk.symm.trans g.refuses)
      cases hv
      exact ⟨body, hmax, rfl, by rw [SyncBlock.block_append, ← SyncBlock.eq_ofWord hh hb]⟩
    · -- no other block refuses
      obtain ⟨a, ha⟩ := g.answers hc hk head body
      rw [ha] at hv
      cases hv
  · rintro ⟨text, hmax, rfl, rfl⟩
    rw [SyncBlock.block_append]
    exact front_block g.refuses rfl (SyncBlock.toNat_length hmax).symm hmax rest

/-- The ways in which the front of a byte string is no block, and what is made of each. -/
inductive Breaks (g : SyncAnswer α) : Bytes → Failure → Prop
  /-- A block announces too many bytes. -/
  | overlong {c : SyncCommand} {k : SyncBlock α} {head rest : Bytes} :
      g.kind c = some k → head.length = k.head → maxChunk < k.announced head →
      Breaks g (c.id ++ (head ++ rest)) (k.overlong (k.announced head))
  /-- The answer may not bring this command. -/
  | surprise {id rest : Bytes} :
      id.length = 4 → (∀ c k, g.kind c = some k → id ≠ c.id) →
      Breaks g (id ++ rest) (g.surprise id)
  /-- The stream ends inside a command. -/
  | cutCommand {bytes : Bytes} :
      bytes.length < 4 → Breaks g bytes (.connectionClosed "reading frame")
  /-- The stream ends inside a head. -/
  | cutHead {c : SyncCommand} {k : SyncBlock α} {bytes : Bytes} :
      g.kind c = some k → bytes.length < k.head →
      Breaks g (c.id ++ bytes) (.connectionClosed "reading frame")
  /-- The stream ends inside the bytes that a head announces. -/
  | cutBody {c : SyncCommand} {k : SyncBlock α} {head bytes : Bytes} :
      g.kind c = some k → head.length = k.head → bytes.length < k.announced head →
      k.announced head ≤ maxChunk →
      Breaks g (c.id ++ (head ++ bytes)) (.connectionClosed "reading frame")

/-- What is made of an ending that is no whole block. -/
def failure? : Ending α → Option Failure
  | .whole _ _ => none
  | .senseless e => some e
  | .cut => some (.connectionClosed "reading frame")

/-- **What is not read as a whole block breaks in one of these ways.** -/
theorem breaks_iff {g : SyncAnswer α} {bytes : Bytes} {e : Failure} :
    g.Breaks bytes e ↔ failure? (g.front bytes) = some e := by
  constructor
  · intro h
    cases h with
    | overlong hk hh hmax =>
      rw [front_id hk, SyncBlock.read, Ending.take_append hh, if_pos hmax, failure?]
    | @surprise id rest hl hno =>
      rw [front, Ending.take_append hl]
      cases hid : (SyncCommand.ofId? id).bind g.kind with
      | none => rfl
      | some k =>
        obtain ⟨c, hc, hk⟩ := Option.bind_eq_some_iff.mp hid
        exact absurd (SyncCommand.id_of_ofId? hc).symm (hno c k hk)
    | cutCommand hl => rw [front, Ending.take_short hl, failure?]
    | cutHead hk hl => rw [front_id hk, SyncBlock.read, Ending.take_short hl, failure?]
    | cutBody hk hh hl hmax =>
      rw [front_id hk, SyncBlock.read, Ending.take_append hh, if_neg (by omega),
        Ending.take_short hl, failure?]
  · intro h
    rcases g.front_cases bytes with
      ⟨hl, hr⟩ | ⟨c, k, behind, hk, rfl, hr⟩ | ⟨id, rest, rfl, hl, hid, hr⟩
    · rw [hr] at h
      cases h
      exact .cutCommand hl
    · rw [hr, SyncBlock.read] at h
      rcases Ending.take_cases k.head _ behind with ⟨hl, hr⟩ | ⟨head, behind, rfl, hh, hr⟩
      · rw [hr] at h
        cases h
        exact .cutHead hk hl
      · rw [hr] at h
        split at h
        · next hmax =>
          cases h
          exact .overlong hk hh hmax
        · next hmax =>
          rcases Ending.take_cases (k.announced head) _ behind with ⟨hl, hr⟩ | ⟨_, _, rfl, hl, hr⟩
          · rw [hr] at h
            cases h
            exact .cutBody hk hh hl (by omega)
          · rw [hr] at h
            cases h
    · rw [hr] at h
      cases h
      refine .surprise hl fun c k hk hc => ?_
      rw [hc, SyncCommand.ofId?_id, Option.bind_some, hk] at hid
      cases hid

/-! ## A run of blocks -/

/-- How an answer ends with a block, if that is no part of it. -/
def last? : Ending (Option α) → Option (Ending Unit)
  | .whole (.ok (some _)) _ => none
  | .whole (.ok none) rest => some (.whole (.ok ()) rest)
  | .whole (.error e) rest => some (.whole (.error e) rest)
  | .senseless e => some (.senseless e)
  | .cut => some .cut

/-- What the blocks at the front of a byte string say up to the end of the answer: the parts that
they bring, and how the answer ends behind these. -/
inductive Parts (g : SyncAnswer (Option α)) : Bytes → List α → Ending Unit → Prop
  | part {bytes rest : Bytes} {a : α} {as : List α} {ending : Ending Unit} :
      g.front bytes = .whole (.ok (some a)) rest → Parts g rest as ending →
      Parts g bytes (a :: as) ending
  | last {bytes : Bytes} {ending : Ending Unit} :
      last? (g.front bytes) = some ending → Parts g bytes [] ending

/-- **A byte string starts with one answer at most.** -/
theorem Parts.unique {g : SyncAnswer (Option α)} {bytes : Bytes} {as as' : List α}
    {ending ending' : Ending Unit} (h : g.Parts bytes as ending) (h' : g.Parts bytes as' ending') :
    as = as' ∧ ending = ending' := by
  -- the front of the bytes decides at each block whether another part comes
  induction h generalizing as' with
  | part hf _ ih =>
    cases h' with
    | part hf' h' =>
      rw [hf] at hf'
      cases hf'
      obtain ⟨rfl, rfl⟩ := ih h'
      exact ⟨rfl, rfl⟩
    | last hl =>
      rw [hf] at hl
      cases hl
  | last hl =>
    cases h' with
    | part hf' h' =>
      rw [hf'] at hl
      cases hl
    | last hl' =>
      rw [hl] at hl'
      cases hl'
      exact ⟨rfl, rfl⟩

end SyncAnswer

end DebugBridge
