import DebugBridge.Inflow

/-!
# Line ends of a shell

The shell of a device sends a carriage return before every line feed that a program writes. A
`NewlineStream` takes these carriage returns out again.

A carriage return that ends a read is held back until the next byte shows whether it is one of
them, so at most one byte is held between reads. Each read gives at least one byte unless the
stream has ended, whatever the pieces are in which the bytes arrive.

## Why reading to the end stops

A read goes round again only after it has taken bytes from the stream (`length_lt_of_round`).
`remaining` counts the bytes that are still to come and the one that is held; a read that gives
bytes makes it smaller (`remaining_lt_of_read`).
-/

namespace DebugBridge

/-- A stream of shell output. -/
structure NewlineStream where
  inner : Inflow
  /-- A byte that was read and not yet given out. -/
  held : Option UInt8 := none
  deriving DecidableEq, Repr, Inhabited

namespace NewlineStream

/-- Carriage return. -/
def cr : UInt8 := 13

/-- Line feed. -/
def lf : UInt8 := 10

/-! ## Going over a buffer -/

/-- Goes over a buffer from place `i` on and moves the bytes that are to be given out to its front,
where `out` of them stand already. A carriage return right before a line feed is passed over; one
at the end of the buffer is held back unless the stream has ended. -/
def compact (atEnd : Bool) (buffer : Array UInt8) (i out : Nat) : Bytes × Option UInt8 :=
  if h : i < buffer.size then
    if buffer[i] = cr ∧ buffer[i + 1]? = some lf then
      compact atEnd (buffer.setIfInBounds out lf) (i + 2) (out + 1)
    else if buffer[i] = cr ∧ i + 1 = buffer.size ∧ atEnd = false then
      (buffer.toList.take out, some buffer[i])
    else compact atEnd (buffer.setIfInBounds out buffer[i]) (i + 1) (out + 1)
  else (buffer.toList.take out, none)
termination_by buffer.size - i
decreasing_by
  all_goals
    rw [Array.size_setIfInBounds]
    omega

/-- Decodes what stands in a buffer after one read: the bytes to give out, and the one to hold. -/
def decodeRead (atEnd : Bool) (bytes : Bytes) : Bytes × Option UInt8 :=
  compact atEnd bytes.toArray 0 0

/-! ## Reading -/

/-- Gives out a carriage return that was held, or the line feed that it belongs to, when there is
room for one byte. -/
def readAhead (s : NewlineStream) : Except IoFailure (Option Bytes) × NewlineStream :=
  match s.inner.readOn 1 with
  | (.error e, inner) => (.error e, { inner })
  | (.ok [], inner) => (.ok (some [cr]), { inner })
  | (.ok (b :: _), inner) =>
    if b = lf then (.ok (some [lf]), { inner }) else (.ok (some [cr]), { inner, held := some b })

/-- Reads into the `room` places behind `front`, the byte that was held, and decodes both. There is
nothing to give out yet when only a carriage return came through. -/
def readBehind (front : Bytes) (room : Nat) (s : NewlineStream) :
    Except IoFailure (Option Bytes) × NewlineStream :=
  match s.inner.readOn room with
  | (.error e, inner) => (.error e, { inner })
  | (.ok bytes, inner) =>
    let decoded := decodeRead bytes.isEmpty (front ++ bytes)
    (.ok (if decoded.1 = [] ∧ bytes ≠ [] then none else some decoded.1),
      { inner, held := decoded.2 })

/-- One round of a read of at most `room + 1` bytes. -/
def round (room : Nat) (s : NewlineStream) : Except IoFailure (Option Bytes) × NewlineStream :=
  match s.held with
  | none => s.readBehind [] (room + 1)
  | some b =>
    if b ≠ cr then (.ok (some [b]), { s with held := none })
    else if room = 0 then s.readAhead
    else s.readBehind [b] room

/-! ## How much is left -/

/-- The bytes that are still to come and the one that is held. -/
def remaining (s : NewlineStream) : Nat := s.inner.bytes.length + s.held.toList.length

theorem length_readOn {size : Nat} {s s' : Inflow} {out : Bytes}
    (h : s.readOn size = (.ok out, s')) : out.length + s'.bytes.length = s.bytes.length := by
  simpa using congrArg List.length (Inflow.bytes_readOn h)

theorem length_compact_le (atEnd : Bool) (buffer : Array UInt8) (i out : Nat) :
    (compact atEnd buffer i out).1.length + (compact atEnd buffer i out).2.toList.length ≤
      out + (buffer.size - i) := by
  fun_induction compact atEnd buffer i out with
  | case1 buffer i out h hb ih =>
    obtain ⟨h', -⟩ := Array.getElem?_eq_some_iff.mp hb.2
    rw [Array.size_setIfInBounds] at ih
    omega
  | case2 buffer i out h hb hl =>
    rw [List.length_take, Option.toList_some, List.length_singleton]
    omega
  | case3 buffer i out h hb hl ih =>
    rw [Array.size_setIfInBounds] at ih
    omega
  | case4 buffer i out h =>
    rw [List.length_take, Option.toList_none, List.length_nil]
    omega

theorem length_decodeRead_le (atEnd : Bool) (bytes : Bytes) :
    (decodeRead atEnd bytes).1.length + (decodeRead atEnd bytes).2.toList.length ≤
      bytes.length := by
  simpa [decodeRead] using length_compact_le atEnd bytes.toArray 0 0

/-- What a read behind `front` gives out and leaves is no more than there was. -/
theorem remaining_readBehind {front : Bytes} {room : Nat} {s s' : NewlineStream}
    {result : Option Bytes} (h : s.readBehind front room = (.ok result, s')) :
    (result.getD []).length + s'.remaining ≤ front.length + s.inner.bytes.length := by
  unfold readBehind at h
  split at h
  · cases h
  · next bytes inner hr =>
    obtain ⟨rfl, rfl⟩ : _ = result ∧ _ = s' := by simpa using h
    have := length_readOn hr
    have := length_decodeRead_le bytes.isEmpty (front ++ bytes)
    rw [List.length_append] at this
    simp only [remaining]
    split
    · simp only [Option.getD_none, List.length_nil]
      omega
    · simp only [Option.getD_some]
      omega

theorem length_lt_of_readBehind {front : Bytes} {room : Nat} {s s' : NewlineStream}
    (h : s.readBehind front room = (.ok none, s')) :
    s'.inner.bytes.length < s.inner.bytes.length := by
  unfold readBehind at h
  split at h
  · cases h
  · next bytes inner hr =>
    obtain ⟨hn, rfl⟩ := Prod.mk.inj h
    have := length_readOn hr
    split at hn
    · next hb =>
      have := List.length_pos_iff.mpr hb.2
      dsimp only
      omega
    · cases hn

/-- Looking one byte ahead always gives something out. -/
theorem remaining_readAhead {s s' : NewlineStream} {result : Option Bytes}
    (h : s.readAhead = (.ok result, s')) :
    result ≠ none ∧ s'.remaining ≤ s.inner.bytes.length := by
  unfold readAhead at h
  split at h
  · cases h
  · next hr =>
    cases h
    have := length_readOn hr
    simp [remaining] at *
    omega
  · next b rest inner hr =>
    have := length_readOn hr
    split at h <;> cases h <;> simp [remaining] at * <;> omega

/-- When a round of a read gives nothing yet, it has taken bytes from the stream. -/
theorem length_lt_of_round {room : Nat} {s s' : NewlineStream}
    (h : s.round room = (.ok none, s')) : s'.inner.bytes.length < s.inner.bytes.length := by
  unfold round at h
  split at h
  · exact length_lt_of_readBehind h
  · split at h
    · cases h
    · split at h
      · exact absurd rfl (remaining_readAhead h).1
      · exact length_lt_of_readBehind h

/-- What a round of a read gives out and leaves is no more than there was. -/
theorem remaining_round {room : Nat} {s s' : NewlineStream} {result : Option Bytes}
    (h : s.round room = (.ok result, s')) :
    s'.remaining ≤ s.remaining ∧ (result.getD [] ≠ [] → s'.remaining < s.remaining) := by
  unfold round at h
  split at h
  · next held =>
    have := remaining_readBehind h
    simp only [List.length_nil] at this
    simp only [remaining, held, Option.toList_none, List.length_nil] at *
    exact ⟨by omega, fun ne => by have := List.length_pos_iff.mpr ne; omega⟩
  · next b held =>
    have hs : s.remaining = s.inner.bytes.length + 1 := by simp [remaining, held]
    split at h
    · cases h
      rw [hs]
      simp [remaining]
    · split at h
      · have := (remaining_readAhead h).2
        exact ⟨by omega, fun _ => by omega⟩
      · have := remaining_readBehind h
        rw [List.length_singleton] at this
        exact ⟨by omega, fun ne => by have := List.length_pos_iff.mpr ne; omega⟩

/-! ## One read -/

/-- Rounds of a read of at most `room + 1` bytes, until one gives bytes or finds the end. -/
def readRounds (room : Nat) (s : NewlineStream) : Except IoFailure Bytes × NewlineStream :=
  match h : s.round room with
  | (.error e, s') => (.error e, s')
  | (.ok (some out), s') => (.ok out, s')
  | (.ok none, s') =>
    have := length_lt_of_round h
    readRounds room s'
termination_by s.inner.bytes.length

/-- A read of at most `size` bytes; it gives no bytes only at the end of the stream, or when it
asked for none. -/
def read (size : Nat) (s : NewlineStream) : Except IoFailure Bytes × NewlineStream :=
  match size with
  | 0 => (.ok [], s)
  | room + 1 => s.readRounds room

theorem remaining_readRounds {room : Nat} {s s' : NewlineStream} {out : Bytes}
    (h : s.readRounds room = (.ok out, s')) (ne : out ≠ []) : s'.remaining < s.remaining := by
  fun_induction readRounds room s with
  | case1 => cases h
  | case2 s out' s'' hr =>
    cases h
    exact (remaining_round hr).2 ne
  | case3 s s'' hr _ ih => exact Nat.lt_of_lt_of_le (ih h) (remaining_round hr).1

/-- A read that gives bytes leaves less. -/
theorem remaining_lt_of_read {size : Nat} {s s' : NewlineStream} {out : Bytes}
    (h : s.read size = (.ok out, s')) (ne : out ≠ []) : s'.remaining < s.remaining := by
  cases size with
  | zero =>
    cases h
    contradiction
  | succ room => exact remaining_readRounds h ne

/-! ## Reading to the end -/

/-- Reads of the same size until one gives no bytes or fails: the bytes of each read and the
failure. -/
def readAll (size : Nat) (s : NewlineStream) : List Bytes × Option IoFailure × NewlineStream :=
  match h : s.read size with
  | (.error e, s') => ([], some e, s')
  | (.ok [], s') => ([], none, s')
  | (.ok (b :: bytes), s') =>
    have := remaining_lt_of_read h (by simp)
    let (more, failure, last) := readAll size s'
    ((b :: bytes) :: more, failure, last)
termination_by s.remaining

end NewlineStream

end DebugBridge
