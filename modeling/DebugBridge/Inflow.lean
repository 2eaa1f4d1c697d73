import DebugBridge.Bytes
import DebugBridge.Failure

/-!
# Inflow

What a stream still has to deliver. Bytes arrive in pieces, and reads may fail between the pieces;
a read takes at most as many bytes as it asked for and never looks past the piece at the front.
After the last arrival every read finds the end of the stream, or fails in the same way each time.

`Inflow.read` is one read, `readOn` repeats a read that was interrupted, and `readExact` reads on
until it has all the bytes that it wants.
-/

namespace DebugBridge

/-- What one read finds. -/
inductive Arrival where
  | bytes (piece : Bytes)
  | failure (cause : IoFailure)
  deriving DecidableEq, Repr, Inhabited

/-- The rest of a stream. -/
structure Inflow where
  arrivals : List Arrival
  /-- How reads fail after the last arrival; none at the end of the stream. -/
  ending : Option IoFailure := none
  deriving DecidableEq, Repr, Inhabited

namespace Inflow

/-- A stream with nothing to deliver. -/
def nothing : Inflow := { arrivals := [] }

/-- A stream that delivers the given bytes in one piece. -/
def ofBytes (bytes : Bytes) : Inflow := { arrivals := [.bytes bytes] }

/-- The bytes of the arrivals, failures left out. -/
def bytesOf (arrivals : List Arrival) : Bytes :=
  arrivals.flatMap fun
    | .bytes piece => piece
    | .failure _ => []

/-- The bytes that are still to come. -/
def bytes (s : Inflow) : Bytes := bytesOf s.arrivals

/-! ## One read -/

/-- A read of `n + 1` bytes. Pieces without bytes are passed over. -/
def readSome (n : Nat) (ending : Option IoFailure) :
    List Arrival → Except IoFailure Bytes × List Arrival
  | [] =>
    match ending with
    | none => (.ok [], [])
    | some e => (.error e, [])
  | .failure e :: rest => (.error e, rest)
  | .bytes [] :: rest => readSome n ending rest
  | .bytes (b :: piece) :: rest =>
    match piece.drop n with
    | [] => (.ok (b :: piece), rest)
    | left => (.ok (b :: piece.take n), .bytes left :: rest)

/-- A read of at most `size` bytes; it gives no bytes only at the end of the stream, or when it
asked for none. -/
def read (size : Nat) (s : Inflow) : Except IoFailure Bytes × Inflow :=
  match size with
  | 0 => (.ok [], s)
  | n + 1 =>
    let (result, arrivals) := readSome n s.ending s.arrivals
    (result, { s with arrivals })

/-! ## Reading on -/

/-- The arrivals after the interruptions at the front. -/
def dropInterruptions : List Arrival → List Arrival
  | [] => []
  | .failure e :: rest => if e.isInterrupted then dropInterruptions rest else .failure e :: rest
  | .bytes [] :: rest => dropInterruptions rest
  | .bytes (b :: piece) :: rest => .bytes (b :: piece) :: rest

/-- A read that is repeated when it was interrupted. -/
def readOn (size : Nat) (s : Inflow) : Except IoFailure Bytes × Inflow :=
  match size with
  | 0 => (.ok [], s)
  | n + 1 =>
    let (result, arrivals) := readSome n s.ending (dropInterruptions s.arrivals)
    (result, { s with arrivals })

/-- The failure of a read that came to the end of the stream too early. -/
def shortRead : IoFailure := ⟨.unexpectedEof, "failed to fill whole buffer"⟩

/-- Reads exactly the given number of bytes. -/
def readExactly (ending : Option IoFailure) :
    Nat → List Arrival → Except IoFailure Bytes × List Arrival
  | 0, arrivals => (.ok [], arrivals)
  | _ + 1, [] => (.error (ending.getD shortRead), [])
  | n + 1, .failure e :: rest =>
    if e.isInterrupted then readExactly ending (n + 1) rest else (.error e, rest)
  | n + 1, .bytes piece :: rest =>
    match piece.drop (n + 1) with
    | [] =>
      match readExactly ending (n + 1 - piece.length) rest with
      | (.ok more, rest) => (.ok (piece ++ more), rest)
      | (.error e, rest) => (.error e, rest)
    | left => (.ok (piece.take (n + 1)), .bytes left :: rest)

/-- Reads exactly `size` bytes, in as many reads as that takes. -/
def readExact (size : Nat) (s : Inflow) : Except IoFailure Bytes × Inflow :=
  let (result, arrivals) := readExactly s.ending size s.arrivals
  (result, { s with arrivals })

/-! ## Reading to the end -/

/-- The bytes before the first failure, the failure, and the arrivals after it. -/
def untilFailure (ending : Option IoFailure) :
    List Arrival → Bytes × Option IoFailure × List Arrival
  | [] => ([], ending, [])
  | .failure e :: rest => ([], some e, rest)
  | .bytes piece :: rest =>
    let (more, failure, rest) := untilFailure ending rest
    (piece ++ more, failure, rest)

/-- Reads on to the end of the stream or the first failure: the bytes and the failure. -/
def readToEnd (s : Inflow) : (Bytes × Option IoFailure) × Inflow :=
  let (bytes, failure, arrivals) := untilFailure s.ending s.arrivals
  ((bytes, failure), { s with arrivals })

/-- The stream without its interruptions. -/
def uninterrupted (s : Inflow) : Inflow :=
  { s with arrivals := s.arrivals.filter fun
      | .failure e => !e.isInterrupted
      | .bytes _ => true }

/-! ## No byte is lost -/

@[simp] theorem bytesOf_nil : bytesOf [] = [] := rfl

@[simp] theorem bytesOf_bytes (piece : Bytes) (rest : List Arrival) :
    bytesOf (.bytes piece :: rest) = piece ++ bytesOf rest := rfl

@[simp] theorem bytesOf_failure (e : IoFailure) (rest : List Arrival) :
    bytesOf (.failure e :: rest) = bytesOf rest := rfl

/-- What a read gives and what it leaves make up what there was. -/
theorem bytesOf_readSome {n : Nat} {ending : Option IoFailure} {arrivals rest : List Arrival}
    {out : Bytes} (h : readSome n ending arrivals = (.ok out, rest)) :
    out ++ bytesOf rest = bytesOf arrivals := by
  fun_induction readSome n ending arrivals with
  | case1 => simp_all
  | case2 => simp_all
  | case3 => simp_all
  | case4 rest' ih => simpa using ih h
  | case5 b piece rest' hd =>
    obtain ⟨rfl, rfl⟩ : b :: piece = out ∧ rest' = rest := by simpa using h
    simp
  | case6 b piece rest' hd =>
    obtain ⟨rfl, rfl⟩ : b :: piece.take n = out ∧ .bytes (piece.drop n) :: rest' = rest := by
      simpa using h
    simp [← List.append_assoc]

@[simp] theorem bytesOf_dropInterruptions (arrivals : List Arrival) :
    bytesOf (dropInterruptions arrivals) = bytesOf arrivals := by
  fun_induction dropInterruptions arrivals <;> simp_all

theorem length_readExactly {ending : Option IoFailure} {n : Nat} {arrivals rest : List Arrival}
    {result : Except IoFailure Bytes} (h : readExactly ending n arrivals = (result, rest)) :
    (bytesOf rest).length + (result.toOption.elim 0 fun _ => n) ≤ (bytesOf arrivals).length := by
  fun_induction readExactly ending n arrivals generalizing result rest with
  | case1 => obtain ⟨rfl, rfl⟩ := Prod.mk.inj h; simp [Except.toOption]
  | case2 => obtain ⟨rfl, rfl⟩ := Prod.mk.inj h; simp [Except.toOption]
  | case3 n e rest' hi ih => simpa using ih h
  | case4 n e rest' hi => obtain ⟨rfl, rfl⟩ := Prod.mk.inj h; simp [Except.toOption]
  | case5 n piece rest' hd more rest'' hm ih =>
    obtain ⟨rfl, rfl⟩ := Prod.mk.inj h
    have := ih hm
    have := List.drop_eq_nil_iff.mp hd
    simp [Except.toOption] at *
    omega
  | case6 n piece rest' hd e rest'' hm ih =>
    obtain ⟨rfl, rfl⟩ := Prod.mk.inj h
    have := ih hm
    simp [Except.toOption] at *
    omega
  | case7 n piece rest' hd =>
    obtain ⟨rfl, rfl⟩ := Prod.mk.inj h
    have : ¬ piece.length ≤ n + 1 := fun hle => hd (List.drop_eq_nil_iff.mpr hle)
    simp [Except.toOption]
    omega

theorem bytes_readOn {size : Nat} {s s' : Inflow} {out : Bytes}
    (h : s.readOn size = (.ok out, s')) : out ++ s'.bytes = s.bytes := by
  cases size with
  | zero =>
    obtain ⟨rfl, rfl⟩ : [] = out ∧ s = s' := by simpa [readOn] using h
    rfl
  | succ n =>
    obtain ⟨hr, rfl⟩ := Prod.mk.inj h
    have := bytesOf_readSome (Prod.ext hr rfl)
    simpa [bytes] using this

end Inflow

end DebugBridge
