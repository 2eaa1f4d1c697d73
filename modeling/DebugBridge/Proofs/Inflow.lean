import DebugBridge.Inflow

/-!
# What reads take from a stream

A read takes bytes from the front of a stream and never reorders them, whatever the pieces are in
which they arrive. A *steady* stream is disturbed by nothing but interruptions and has an end; on
it a read fails only when it asks for more bytes than there are.

* `bytesOf_readExactly` — reading a number of bytes gives exactly that many, from the front
* `readExact_steady`, `readExact_short` — when it succeeds on a steady stream, and when it does not
* `readExactly_received` — when it succeeds on any stream, by the bytes in front of a failure;
  `received_append_later`, where the other bytes are
* `readOn_ok`, `readOn_steady` — a repeated read gives no bytes only at the end, and on a steady
  stream it never fails
* `steady_of_readOn` — a stream that was read to its end without a failure was steady
* `readOn_took`, `readOn_failed` — what a repeated read takes from any stream, and what it goes past
-/

namespace DebugBridge.Inflow

/-- Nothing disturbs reading but interruptions, and after the last arrival the stream ends. -/
structure Steady (s : Inflow) : Prop where
  ending : s.ending = none
  interruptions : ∀ e, .failure e ∈ s.arrivals → e.isInterrupted = true

/-! ## Failures that are still to come -/

theorem mem_readExactly {ending : Option IoFailure} {n : Nat} {arrivals : List Arrival}
    {e : IoFailure} (h : .failure e ∈ (readExactly ending n arrivals).2) :
    .failure e ∈ arrivals := by
  fun_induction readExactly ending n arrivals with
  | case1 arrivals => exact h
  | case2 n => exact h
  | case3 n e' rest hi ih => exact List.mem_cons_of_mem _ (ih h)
  | case4 n e' rest hi => exact List.mem_cons_of_mem _ h
  | case5 n piece rest hd more rest' hr ih =>
    rw [hr] at ih
    exact List.mem_cons_of_mem _ (ih h)
  | case6 n piece rest hd e' rest' hr ih =>
    rw [hr] at ih
    exact List.mem_cons_of_mem _ (ih h)
  | case7 n piece rest hd =>
    rcases List.mem_cons.mp h with h | h
    · cases h
    · exact List.mem_cons_of_mem _ h

theorem mem_readSome {n : Nat} {ending : Option IoFailure} {arrivals : List Arrival}
    {e : IoFailure} (h : .failure e ∈ (readSome n ending arrivals).2) : .failure e ∈ arrivals := by
  fun_induction readSome n ending arrivals with
  | case1 => exact h
  | case2 => exact h
  | case3 e' rest => exact List.mem_cons_of_mem _ h
  | case4 rest ih => exact List.mem_cons_of_mem _ (ih h)
  | case5 b piece rest hd => exact List.mem_cons_of_mem _ h
  | case6 b piece rest hd =>
    rcases List.mem_cons.mp h with h | h
    · cases h
    · exact List.mem_cons_of_mem _ h

theorem mem_dropInterruptions {arrivals : List Arrival} {a : Arrival}
    (h : a ∈ dropInterruptions arrivals) : a ∈ arrivals := by
  fun_induction dropInterruptions arrivals with
  | case1 => exact h
  | case2 e rest hi ih => exact List.mem_cons_of_mem _ (ih h)
  | case3 e rest hi => exact h
  | case4 rest ih => exact List.mem_cons_of_mem _ (ih h)
  | case5 b piece rest => exact h

/-! ## Reading a number of bytes -/

/-- **What is read and what is left make up what there was.** -/
theorem bytesOf_readExactly {ending : Option IoFailure} {n : Nat} {arrivals rest : List Arrival}
    {out : Bytes} (h : readExactly ending n arrivals = (.ok out, rest)) :
    out.length = n ∧ out ++ bytesOf rest = bytesOf arrivals := by
  fun_induction readExactly ending n arrivals generalizing out rest with
  | case1 arrivals =>
    cases h
    exact ⟨rfl, rfl⟩
  | case2 n => cases h
  | case3 n e rest' hi ih => exact ih h
  | case4 n e rest' hi => cases h
  | case5 n piece rest' hd more rest'' hr ih =>
    cases h
    obtain ⟨hl, hb⟩ := ih hr
    have := List.drop_eq_nil_iff.mp hd
    refine ⟨?_, ?_⟩
    · rw [List.length_append, hl]
      omega
    · rw [List.append_assoc, hb, bytesOf_bytes]
  | case6 n piece rest' hd e rest'' hr ih => cases h
  | case7 n piece rest' hd =>
    cases h
    have : ¬ piece.length ≤ n + 1 := fun hle => hd (List.drop_eq_nil_iff.mpr hle)
    refine ⟨?_, ?_⟩
    · rw [List.length_take]
      omega
    · rw [bytesOf_bytes, bytesOf_bytes, ← List.append_assoc, List.take_append_drop]

/-- With nothing but interruptions in the way, reading fails only for want of bytes. -/
theorem readExactly_of_interruptions {n : Nat} {arrivals : List Arrival}
    (hi : ∀ e, .failure e ∈ arrivals → e.isInterrupted = true) :
    (n ≤ (bytesOf arrivals).length → ∃ out, (readExactly none n arrivals).1 = .ok out) ∧
      ((bytesOf arrivals).length < n → (readExactly none n arrivals).1 = .error shortRead) := by
  fun_induction readExactly none n arrivals with
  | case1 arrivals => exact ⟨fun _ => ⟨[], rfl⟩, fun h => absurd h (Nat.not_lt_zero _)⟩
  | case2 n => exact ⟨fun h => absurd h (Nat.not_succ_le_zero n), fun _ => rfl⟩
  | case3 n e rest he ih => exact ih fun e h => hi e (List.mem_cons_of_mem _ h)
  | case4 n e rest he => exact absurd (hi e List.mem_cons_self) he
  | case5 n piece rest hd more rest' hr ih =>
    have hl := (bytesOf_readExactly hr).1
    have hb := congrArg List.length (bytesOf_readExactly hr).2
    have := List.drop_eq_nil_iff.mp hd
    rw [List.length_append] at hb
    rw [bytesOf_bytes, List.length_append]
    exact ⟨fun _ => ⟨piece ++ more, rfl⟩, fun h => by omega⟩
  | case6 n piece rest hd e rest' hr ih =>
    obtain ⟨ihl, ihg⟩ := ih fun e h => hi e (List.mem_cons_of_mem _ h)
    rw [hr] at ihl ihg
    have := List.drop_eq_nil_iff.mp hd
    rw [bytesOf_bytes, List.length_append]
    refine ⟨fun h => ?_, fun h => ihg (by omega)⟩
    obtain ⟨out, ho⟩ := ihl (by omega)
    cases ho
  | case7 n piece rest hd =>
    have : ¬ piece.length ≤ n + 1 := fun hle => hd (List.drop_eq_nil_iff.mpr hle)
    rw [bytesOf_bytes, List.length_append]
    exact ⟨fun _ => ⟨_, rfl⟩, fun h => by omega⟩

theorem bytes_readExact {n : Nat} {s s' : Inflow} {out : Bytes}
    (h : s.readExact n = (.ok out, s')) : out.length = n ∧ out ++ s'.bytes = s.bytes := by
  obtain ⟨hr, rfl⟩ := Prod.mk.inj h
  exact bytesOf_readExactly (Prod.ext hr rfl)

theorem Steady.readExact {s : Inflow} (hs : s.Steady) (n : Nat) : (s.readExact n).2.Steady :=
  ⟨hs.ending, fun e h => hs.interruptions e (mem_readExactly h)⟩

/-- On a steady stream, bytes that are there are read. -/
theorem readExact_steady {s : Inflow} (hs : s.Steady) {front rest : Bytes}
    (h : s.bytes = front ++ rest) :
    ∃ s', s.readExact front.length = (.ok front, s') ∧ s'.Steady ∧ s'.bytes = rest := by
  have hn : front.length ≤ (bytesOf s.arrivals).length := by
    rw [show bytesOf s.arrivals = front ++ rest from h, List.length_append]
    omega
  obtain ⟨out, ho⟩ := (readExactly_of_interruptions hs.interruptions).1 hn
  have hr : s.readExact front.length = (.ok out, (s.readExact front.length).2) := by
    refine Prod.ext ?_ rfl
    simpa only [Inflow.readExact, hs.ending] using ho
  obtain ⟨hl, hb⟩ := bytes_readExact hr
  obtain ⟨rfl, hrest⟩ := List.append_inj (hb.trans h) hl
  exact ⟨_, hr, hs.readExact _, hrest⟩

/-- On a steady stream, asking for more bytes than there are finds the end. -/
theorem readExact_short {s : Inflow} (hs : s.Steady) {n : Nat} (h : s.bytes.length < n) :
    (s.readExact n).1 = .error shortRead := by
  simpa only [Inflow.readExact, hs.ending] using
    (readExactly_of_interruptions hs.interruptions).2 h

/-! ## What comes before a failure -/

/-- The bytes that reads can get: those in front of the first failure that is no interruption. -/
def received : List Arrival → Bytes
  | [] => []
  | .failure e :: rest => if e.isInterrupted then received rest else []
  | .bytes piece :: rest => piece ++ received rest

/-- A steady stream gives all of its bytes. -/
theorem received_steady {arrivals : List Arrival}
    (hi : ∀ e, .failure e ∈ arrivals → e.isInterrupted = true) :
    received arrivals = bytesOf arrivals := by
  induction arrivals with
  | nil => rfl
  | cons arrival rest ih =>
    have ih := ih fun e h => hi e (List.mem_cons_of_mem _ h)
    cases arrival with
    | bytes piece => rw [received, bytesOf_bytes, ih]
    | failure e => rw [received, if_pos (hi e List.mem_cons_self), bytesOf_failure, ih]

/-- The bytes behind failures that are no interruptions, up to the next such failure each. -/
def later : List Arrival → List Bytes
  | [] => []
  | .failure e :: rest => if e.isInterrupted then later rest else received rest :: later rest
  | .bytes _ :: rest => later rest

/-- All bytes are those in front of the first failure and those behind failures. -/
theorem received_append_later (arrivals : List Arrival) :
    received arrivals ++ (later arrivals).flatten = bytesOf arrivals := by
  induction arrivals with
  | nil => rfl
  | cons arrival rest ih =>
    cases arrival with
    | bytes piece => rw [received, later, bytesOf_bytes, List.append_assoc, ih]
    | failure e =>
      rw [received, later, bytesOf_failure]
      split
      · exact ih
      · rw [List.nil_append, List.flatten_cons, ih]

/-- **A number of bytes is read exactly if they come before a failure.** -/
theorem readExactly_received (ending : Option IoFailure) (n : Nat) (arrivals : List Arrival) :
    (n ≤ (received arrivals).length ∧
      ∃ rest, readExactly ending n arrivals = (.ok ((received arrivals).take n), rest) ∧
        received rest = (received arrivals).drop n) ∨
    ((received arrivals).length < n ∧
      ∃ e rest, readExactly ending n arrivals = (.error e, rest)) := by
  fun_induction readExactly ending n arrivals with
  | case1 arrivals => exact .inl ⟨Nat.zero_le _, arrivals, rfl, rfl⟩
  | case2 n => exact .inr ⟨Nat.succ_pos n, _, _, rfl⟩
  | case3 n e rest hi ih => rwa [received, if_pos hi]
  | case4 n e rest hi =>
    rw [received, if_neg hi]
    exact .inr ⟨Nat.succ_pos n, _, _, rfl⟩
  | case5 n piece rest hd more rest' hr ih =>
    have hlen := List.drop_eq_nil_iff.mp hd
    rw [hr] at ih
    rcases ih with ⟨hle, left, heq, hleft⟩ | ⟨_, e, left, heq⟩
    · cases heq
      refine .inl ⟨?_, rest', ?_, ?_⟩
      · rw [received, List.length_append]
        omega
      · rw [received, List.take_append, List.take_of_length_le hlen]
      · rw [received, List.drop_append, hd, List.nil_append, hleft]
    · cases heq
  | case6 n piece rest hd e rest' hr ih =>
    have hlen := List.drop_eq_nil_iff.mp hd
    rw [hr] at ih
    rcases ih with ⟨_, left, heq, _⟩ | ⟨hlt, _⟩
    · cases heq
    · refine .inr ⟨?_, _, _, rfl⟩
      rw [received, List.length_append]
      omega
  | case7 n piece rest hd =>
    have hlen : ¬ piece.length ≤ n + 1 := fun hle => hd (List.drop_eq_nil_iff.mpr hle)
    have hlen : n + 1 ≤ piece.length := by omega
    refine .inl ⟨?_, .bytes (piece.drop (n + 1)) :: rest, ?_, ?_⟩
    · rw [received, List.length_append]
      omega
    · rw [received, List.take_append_of_le_length hlen]
    · rw [received, received, List.drop_append_of_le_length hlen]

/-! ## Repeated reads -/

theorem readSome_ok {n : Nat} {ending : Option IoFailure} {arrivals : List Arrival} {out : Bytes}
    (h : (readSome n ending arrivals).1 = .ok out) :
    out.length ≤ n + 1 ∧ (out = [] → bytesOf arrivals = []) := by
  fun_induction readSome n ending arrivals with
  | case1 =>
    cases h
    exact ⟨Nat.zero_le _, fun _ => rfl⟩
  | case2 e => cases h
  | case3 e rest => cases h
  | case4 rest ih => exact ih h
  | case5 b piece rest hd =>
    cases h
    have := List.drop_eq_nil_iff.mp hd
    exact ⟨by rw [List.length_cons]; omega, fun h => by cases h⟩
  | case6 b piece rest hd =>
    cases h
    exact ⟨by rw [List.length_cons, List.length_take]; omega, fun h => by cases h⟩

/-- **A repeated read gives no more bytes than it asked for, and none only at the end.** -/
theorem readOn_ok {n : Nat} {s s' : Inflow} {out : Bytes} (h : s.readOn n = (.ok out, s')) :
    out.length ≤ n ∧ (0 < n → out = [] → s.bytes = []) := by
  cases n with
  | zero =>
    cases h
    exact ⟨Nat.le_refl _, fun h => absurd h (Nat.lt_irrefl _)⟩
  | succ n =>
    obtain ⟨hl, he⟩ := readSome_ok (Prod.mk.inj h).1
    rw [bytesOf_dropInterruptions] at he
    exact ⟨hl, fun _ => he⟩

theorem mem_of_mem_arrivals {e : IoFailure} {arrivals : List Arrival}
    (h : .failure e ∈ arrivals) :
    e.isInterrupted = true ∨ .failure e ∈ dropInterruptions arrivals := by
  fun_induction dropInterruptions arrivals with
  | case1 => cases h
  | case2 e' rest hi ih =>
    rcases List.mem_cons.mp h with h | h
    · cases h
      exact .inl hi
    · exact ih h
  | case3 e' rest hi => exact .inr h
  | case4 rest ih =>
    rcases List.mem_cons.mp h with h | h
    · cases h
    · exact ih h
  | case5 b piece rest => exact .inr h

/-- A read that succeeds meets no failure, and at the end of the stream there is none left. -/
theorem failures_of_readSome {n : Nat} {ending : Option IoFailure} {arrivals rest : List Arrival}
    {out : Bytes} (h : readSome n ending arrivals = (.ok out, rest)) :
    (∀ e, .failure e ∈ arrivals → .failure e ∈ rest) ∧
      (out = [] → rest = [] ∧ ending = none) := by
  fun_induction readSome n ending arrivals with
  | case1 hend =>
    cases h
    exact ⟨fun e he => he, fun _ => ⟨rfl, hend⟩⟩
  | case2 e => cases h
  | case3 e rest' => cases h
  | case4 rest' ih =>
    obtain ⟨ihf, ihe⟩ := ih h
    refine ⟨fun e he => ?_, ihe⟩
    rcases List.mem_cons.mp he with he | he
    · cases he
    · exact ihf e he
  | case5 b piece rest' hd =>
    cases h
    refine ⟨fun e he => ?_, fun h => by cases h⟩
    rcases List.mem_cons.mp he with he | he
    · cases he
    · exact he
  | case6 b piece rest' hd =>
    cases h
    refine ⟨fun e he => ?_, fun h => by cases h⟩
    rcases List.mem_cons.mp he with he | he
    · cases he
    · exact List.mem_cons_of_mem _ he

/-- **A stream that is read to its end without a failure is steady.** -/
theorem steady_of_readOn {n : Nat} {s s' : Inflow} {out : Bytes} (hn : 0 < n)
    (h : s.readOn n = (.ok out, s')) (hs : out ≠ [] → s'.Steady) : s.Steady := by
  obtain ⟨n, rfl⟩ := Nat.exists_eq_add_of_lt hn
  rw [Nat.zero_add] at h
  obtain ⟨hr, rfl⟩ := Prod.mk.inj h
  obtain ⟨hf, he⟩ := failures_of_readSome (Prod.ext hr rfl)
  -- a failure in `s` was an interruption before the read, or it is still to come in `s'`
  by_cases hout : out = []
  · obtain ⟨hrest, hend⟩ := he hout
    refine ⟨hend, fun e hmem => ?_⟩
    rcases mem_of_mem_arrivals hmem with hi | hmem
    · exact hi
    · have := hf e hmem
      rw [hrest] at this
      cases this
  · refine ⟨(hs hout).ending, fun e hmem => ?_⟩
    rcases mem_of_mem_arrivals hmem with hi | hmem
    · exact hi
    · exact (hs hout).interruptions e (hf e hmem)

/-- The front of a stream after its interruptions is a byte, or it is at its end. -/
theorem readSome_dropInterruptions {n : Nat} {arrivals : List Arrival}
    (hi : ∀ e, .failure e ∈ arrivals → e.isInterrupted = true) :
    ∃ out, (readSome n none (dropInterruptions arrivals)).1 = .ok out := by
  fun_induction dropInterruptions arrivals with
  | case1 => exact ⟨[], rfl⟩
  | case2 e rest he ih => exact ih fun e h => hi e (List.mem_cons_of_mem _ h)
  | case3 e rest he => exact absurd (hi e List.mem_cons_self) he
  | case4 rest ih => exact ih fun e h => hi e (List.mem_cons_of_mem _ h)
  | case5 b piece rest =>
    rw [readSome]
    split
    · exact ⟨b :: piece, rfl⟩
    · exact ⟨b :: piece.take n, rfl⟩

/-- **On a steady stream a repeated read never fails.** -/
theorem readOn_steady {s : Inflow} (hs : s.Steady) (size : Nat) :
    ∃ out s', s.readOn size = (.ok out, s') ∧ s'.Steady ∧ out.length ≤ size ∧
      (0 < size → out = [] → s.bytes = []) := by
  cases size with
  | zero => exact ⟨[], s, rfl, hs, Nat.le_refl _, fun h => absurd h (Nat.lt_irrefl _)⟩
  | succ n =>
    obtain ⟨out, ho⟩ := readSome_dropInterruptions (n := n) hs.interruptions
    have hr : s.readOn (n + 1) = (.ok out, (s.readOn (n + 1)).2) := by
      refine Prod.ext ?_ rfl
      simpa only [readOn, hs.ending] using ho
    refine ⟨out, _, hr, ⟨hs.ending, fun e h => ?_⟩, readOn_ok hr⟩
    exact hs.interruptions e (mem_dropInterruptions (mem_readSome h))

/-! ## What repeated reads take -/

/-- A stream is steady if it has an end and there is nothing behind a failure. -/
theorem steady_iff {s : Inflow} : s.Steady ↔ s.ending = none ∧ later s.arrivals = [] := by
  have hlater : ∀ arrivals : List Arrival,
      later arrivals = [] ↔ ∀ e, .failure e ∈ arrivals → e.isInterrupted = true := by
    intro arrivals
    induction arrivals with
    | nil => simp [later]
    | cons arrival rest ih =>
      cases arrival with
      | bytes piece => simp [later, ih]
      | failure e => by_cases he : e.isInterrupted = true <;> simp [later, ih, he]
  rw [hlater]
  exact ⟨fun h => ⟨h.ending, h.interruptions⟩, fun h => ⟨h.1, h.2⟩⟩

@[simp] theorem received_dropInterruptions (arrivals : List Arrival) :
    received (dropInterruptions arrivals) = received arrivals := by
  fun_induction dropInterruptions arrivals <;> simp_all [received]

@[simp] theorem later_dropInterruptions (arrivals : List Arrival) :
    later (dropInterruptions arrivals) = later arrivals := by
  fun_induction dropInterruptions arrivals <;> simp_all [later]

/-- Reading has taken bytes from the front of a stream. -/
structure Took (s s' : Inflow) (taken : Bytes) : Prop where
  ending : s'.ending = s.ending
  bytes : s.bytes = taken ++ s'.bytes
  received : received s.arrivals = taken ++ received s'.arrivals
  later : later s'.arrivals = later s.arrivals
  ended : s.arrivals = [] → taken = [] ∧ s'.arrivals = []

theorem Took.refl (s : Inflow) : Took s s [] := ⟨rfl, rfl, rfl, rfl, fun h => ⟨rfl, h⟩⟩

theorem Took.trans {s s' s'' : Inflow} {taken more : Bytes} (h : Took s s' taken)
    (h' : Took s' s'' more) : Took s s'' (taken ++ more) where
  ending := h'.ending.trans h.ending
  bytes := by rw [h.bytes, h'.bytes, List.append_assoc]
  received := by rw [h.received, h'.received, List.append_assoc]
  later := h'.later.trans h.later
  ended hover := by
    obtain ⟨rfl, hs'⟩ := h.ended hover
    exact h'.ended hs'

theorem Took.steady {s s' : Inflow} {taken : Bytes} (h : Took s s' taken) (hs : s.Steady) :
    s'.Steady := by
  rw [steady_iff] at hs ⊢
  exact ⟨h.ending.trans hs.1, h.later.trans hs.2⟩

theorem readSome_took {n : Nat} {ending : Option IoFailure} {arrivals rest : List Arrival}
    {out : Bytes} (h : readSome n ending arrivals = (.ok out, rest)) :
    received arrivals = out ++ received rest ∧ later rest = later arrivals := by
  fun_induction readSome n ending arrivals with
  | case1 =>
    cases h
    exact ⟨rfl, rfl⟩
  | case2 e => cases h
  | case3 e rest' => cases h
  | case4 rest' ih => exact ih h
  | case5 b piece rest' hd =>
    cases h
    exact ⟨rfl, rfl⟩
  | case6 b piece rest' hd =>
    cases h
    refine ⟨?_, rfl⟩
    rw [received, received, List.cons_append, List.cons_append, ← List.append_assoc,
      List.take_append_drop]

/-- **A repeated read that succeeds takes what it gives from the front**, and only at the end does
it give nothing. -/
theorem readOn_took {n : Nat} {s s' : Inflow} {out : Bytes} (h : s.readOn n = (.ok out, s')) :
    Took s s' out ∧ (0 < n → out = [] → s'.arrivals = [] ∧ s'.ending = none) := by
  have hbytes := (bytes_readOn h).symm
  cases n with
  | zero =>
    cases h
    exact ⟨.refl s, fun h => absurd h (Nat.lt_irrefl _)⟩
  | succ n =>
    obtain ⟨hr, rfl⟩ := Prod.mk.inj h
    obtain ⟨hreceived, hlater⟩ := readSome_took (Prod.ext hr rfl)
    rw [received_dropInterruptions] at hreceived
    rw [later_dropInterruptions] at hlater
    refine ⟨⟨rfl, hbytes, hreceived, hlater, fun hnil => ?_⟩, fun _ hout => ?_⟩
    · have hnothing :
          out ++ bytesOf (readSome n s.ending (dropInterruptions s.arrivals)).2 = [] := by
        rw [show out ++ bytesOf _ = s.bytes from hbytes.symm, bytes, hnil, bytesOf_nil]
      refine ⟨(List.append_eq_nil_iff.mp hnothing).1, ?_⟩
      cases s.ending <;> rw [hnil] <;> rfl
    · exact (failures_of_readSome (Prod.ext hr rfl)).2 hout

theorem readSome_failed {n : Nat} {e : IoFailure} {arrivals rest : List Arrival}
    (h : readSome n none (dropInterruptions arrivals) = (.error e, rest)) :
    received arrivals = [] ∧ later arrivals = received rest :: later rest := by
  fun_induction dropInterruptions arrivals with
  | case1 => cases h
  | case2 e' rest' hi ih => rw [received, later, if_pos hi, if_pos hi]; exact ih h
  | case3 e' rest' hi =>
    cases h
    rw [received, later, if_neg hi, if_neg hi]
    exact ⟨rfl, rfl⟩
  | case4 rest' ih => exact ih h
  | case5 b piece rest' =>
    rw [readSome] at h
    split at h
    · cases h
    · cases h

/-- A repeated read that fails on a stream with an end goes past the failure at its front. -/
theorem readOn_failed {n : Nat} {s s' : Inflow} {e : IoFailure} (hend : s.ending = none)
    (h : s.readOn n = (.error e, s')) :
    s'.ending = none ∧ received s.arrivals = [] ∧
      later s.arrivals = received s'.arrivals :: later s'.arrivals := by
  cases n with
  | zero => cases h
  | succ n =>
    obtain ⟨hr, rfl⟩ := Prod.mk.inj h
    rw [hend] at hr
    have := readSome_failed (Prod.ext hr rfl)
    dsimp only
    rw [hend]
    exact ⟨rfl, this⟩

end DebugBridge.Inflow
