import DebugBridge.Proofs.Shell.NewlineStream

/-!
# Reading on after reads that failed

A read of a stream may fail, as it does when it runs into its deadline, and a later read may
succeed again. A caller that reads on after each failure gets the bytes from before and behind it.
What it does not get is a carriage return that was held when a read failed: the stream has taken it
out of its hold before it reads, and does not put it back. That changes nothing when the byte is the
first half of a pair that the failure has cut in two, because then it is to be dropped anyway.

* `salvage` — what reading on gives, by the bytes between the failures
* `Gave.salvaged`, `readRounds_error` — reads that succeed and reads that fail keep to it
* `salvage_eq_iff` — when that is the decoding of all bytes
* `readOnward_decode` — any number of reads with any buffers
-/

namespace DebugBridge.NewlineStream

variable {s s' : NewlineStream} {taken out front : Bytes}

/-! ## The bytes between failures -/

/-- The bytes without a carriage return at their end. -/
def dropReturn (bytes : Bytes) : Bytes :=
  if bytes.getLast? = some cr then bytes.dropLast else bytes

/-- What is given out of bytes with failures between them: `front` comes before the first failure,
and each of the others behind one more. -/
def salvage (front : Bytes) : List Bytes → Bytes
  | [] => decode front
  | next :: later => decode (dropReturn front) ++ salvage next later

/-- A failure comes right behind a carriage return that is not the first half of a pair. -/
def LosesReturn (parts : List Bytes) : Prop :=
  ∃ before part behind, parts = before ++ part :: behind ∧ behind ≠ [] ∧
    part.getLast? = some cr ∧ behind.flatten.head? ≠ some lf

@[simp] theorem getLast?_decode (bytes : Bytes) : (decode bytes).getLast? = bytes.getLast? := by
  fun_induction decode bytes with
  | case1 a b rest h ih => rw [ih, List.getLast?_cons_cons]
  | case2 a b rest h ih =>
    rw [List.getLast?_cons, ih, List.getLast?_cons_cons, List.getLast?_cons]
    rfl
  | case3 bytes h => rfl

theorem dropReturn_concat (bytes : Bytes) : dropReturn (bytes ++ [cr]) = bytes := by
  rw [dropReturn, if_pos List.getLast?_concat, List.dropLast_concat]

theorem dropReturn_append {bytes : Bytes} (h : bytes ≠ []) (front : Bytes) :
    dropReturn (front ++ bytes) = front ++ dropReturn bytes := by
  have hlast : (front ++ bytes).getLast? = bytes.getLast? := by
    rw [List.getLast?_append, List.getLast?_eq_some_getLast h, Option.some_or]
  unfold dropReturn
  rw [hlast, List.dropLast_append_of_ne_nil h]
  split
  · rfl
  · rfl

/-- A carriage return at the end of some bytes is given out as it is. -/
theorem decode_concat (bytes : Bytes) : decode (bytes ++ [cr]) = decode bytes ++ [cr] :=
  decode_append fun _ h => lf_ne_cr (Option.some.inj h).symm

theorem decode_dropReturn (bytes : Bytes) :
    decode (dropReturn bytes) = dropReturn (decode bytes) := by
  by_cases h : bytes.getLast? = some cr
  · obtain ⟨front, rfl⟩ := List.getLast?_eq_some_iff.mp h
    rw [decode_concat, dropReturn_concat, dropReturn_concat]
  · rw [dropReturn, if_neg h, dropReturn, if_neg (by rwa [getLast?_decode])]

/-- A part of the bytes that is decoded on its own is decoded as it is within the whole, unless a
pair is cut behind it. -/
theorem decode_front {rest : Bytes} (h : front.getLast? = some cr → rest.head? ≠ some lf) :
    decode (front ++ rest) = decode (dropReturn front) ++
      (if front.getLast? = some cr then [cr] else []) ++ decode rest := by
  rw [decode_append h]
  by_cases hcr : front.getLast? = some cr
  · obtain ⟨init, rfl⟩ := List.getLast?_eq_some_iff.mp hcr
    rw [if_pos hcr, dropReturn_concat, decode_concat]
  · rw [if_neg hcr, dropReturn, if_neg hcr, List.append_nil]

/-- Of a pair that is cut in two only the line feed stays. -/
theorem decode_cut {rest : Bytes} (hcr : front.getLast? = some cr) (hlf : rest.head? = some lf) :
    decode (front ++ rest) = decode (dropReturn front) ++ decode rest := by
  obtain ⟨init, rfl⟩ := List.getLast?_eq_some_iff.mp hcr
  obtain ⟨tail, rfl⟩ := List.head?_eq_some_iff.mp hlf
  have hpair : decode (init ++ cr :: lf :: tail) = decode init ++ decode (cr :: lf :: tail) :=
    decode_append fun _ h => lf_ne_cr (Option.some.inj h).symm
  rw [dropReturn_concat, List.append_assoc, List.singleton_append, hpair, decode_pair,
    decode_cons fun h => absurd h lf_ne_cr]

/-! ## When nothing is lost -/

theorem losesReturn_cons (front : Bytes) (later : List Bytes) :
    LosesReturn (front :: later) ↔
      (later ≠ [] ∧ front.getLast? = some cr ∧ later.flatten.head? ≠ some lf) ∨
        LosesReturn later := by
  constructor
  · rintro ⟨before, part, behind, hparts, hlater⟩
    cases before with
    | nil =>
      obtain ⟨rfl, rfl⟩ := List.cons.inj hparts
      exact .inl hlater
    | cons first before =>
      obtain ⟨-, rfl⟩ := List.cons.inj hparts
      exact .inr ⟨before, part, behind, rfl, hlater⟩
  · rintro (h | ⟨before, part, behind, rfl, h⟩)
    · exact ⟨[], front, later, rfl, h⟩
    · exact ⟨front :: before, part, behind, rfl, h⟩

theorem length_salvage_le (front : Bytes) (later : List Bytes) :
    (salvage front later).length ≤ (decode (front ++ later.flatten)).length := by
  induction later generalizing front with
  | nil =>
    have hall : salvage front [] = decode (front ++ [].flatten) := by
      rw [salvage, List.flatten_nil, List.append_nil]
    exact Nat.le_of_eq (congrArg List.length hall)
  | cons next later ih =>
    have ih := ih next
    rw [salvage, List.length_append, List.flatten_cons]
    by_cases hcut : front.getLast? = some cr ∧ (next ++ later.flatten).head? = some lf
    · rw [decode_cut hcut.1 hcut.2, List.length_append]
      omega
    · rw [decode_front fun hcr hlf => hcut ⟨hcr, hlf⟩, List.length_append, List.length_append]
      omega

/-- **Reading on gives the decoding of all bytes exactly if no failure comes right behind a carriage
return that stays.** -/
theorem salvage_eq_iff (front : Bytes) (later : List Bytes) :
    salvage front later = decode (front ++ later.flatten) ↔ ¬ LosesReturn (front :: later) := by
  induction later generalizing front with
  | nil =>
    rw [salvage, List.flatten_nil, List.append_nil, losesReturn_cons]
    refine iff_of_true rfl ?_
    rintro (⟨hne, -⟩ | ⟨before, part, behind, hnil, -⟩)
    · exact hne rfl
    · exact absurd hnil.symm (List.append_ne_nil_of_right_ne_nil before (List.cons_ne_nil _ _))
  | cons next later ih =>
    rw [losesReturn_cons, salvage, List.flatten_cons]
    by_cases hcr : front.getLast? = some cr
    · by_cases hlf : (next ++ later.flatten).head? = some lf
      · rw [decode_cut hcr hlf, List.append_cancel_left_eq, ih]
        simp [hlf]
      · -- the carriage return is missing, and nothing can make up for it
        have hle := length_salvage_le next later
        refine iff_of_false (fun heq => ?_) (fun hno => hno (.inl ⟨by simp, hcr, hlf⟩))
        rw [decode_front fun _ => hlf, if_pos hcr] at heq
        have := congrArg List.length heq
        simp only [List.length_append, List.length_singleton] at this
        omega
    · rw [decode_front fun h => absurd h hcr, if_neg hcr, List.append_nil,
        List.append_cancel_left_eq, ih]
      simp [hcr]

/-! ## One read -/

/-- What is given out of a stream if its reader goes on after failures. -/
def salvaged (s : NewlineStream) : Bytes :=
  salvage (s.held.toList ++ Inflow.received s.inner.arrivals) (Inflow.later s.inner.arrivals)

/-- In front of a failure a carriage return is never given out last, because it is held. -/
theorem Gave.dropReturn (h : Gave s s' taken out) (hne : s'.inner.arrivals ≠ []) (rest : Bytes) :
    out ++ decode (dropReturn (s'.held.toList ++ rest)) =
      decode (dropReturn (s.held.toList ++ taken ++ rest)) := by
  have hall (rest : Bytes) := h.decodes rest fun hover => absurd hover hne
  rw [decode_dropReturn, decode_dropReturn, ← hall]
  by_cases hfront : s'.held.toList ++ rest = []
  · obtain ⟨hheld, rfl⟩ := List.append_eq_nil_iff.mp hfront
    have hout := hall []
    have hlf := hall [lf]
    rw [hheld, List.nil_append] at hout hlf ⊢
    rw [List.append_nil, show decode ([] : Bytes) = [] from rfl, List.append_nil] at hout
    rw [show decode ([] : Bytes) = [] from rfl, List.append_nil out]
    -- a line feed behind a carriage return would have made a pair of them
    have hlast : out.getLast? ≠ some cr := by
      intro hcr
      have htaken : (s.held.toList ++ taken).getLast? = some cr := by
        rw [← getLast?_decode, ← hout]
        exact hcr
      rw [decode_cut htaken rfl, List.append_cancel_right_eq, decode_dropReturn, ← hout] at hlf
      obtain ⟨init, rfl⟩ := List.getLast?_eq_some_iff.mp hcr
      rw [dropReturn_concat] at hlf
      exact List.cons_ne_nil _ _ (List.append_right_eq_self.mp hlf)
    show out ++ [] = NewlineStream.dropReturn out
    rw [NewlineStream.dropReturn, if_neg hlast, List.append_nil]
  · exact (dropReturn_append (fun hnil => hfront (decode_eq_nil.mp hnil)) out).symm

/-- **A read that succeeds gives the front of what can be got.** -/
theorem Gave.salvaged (h : Gave s s' taken out) : out ++ s'.salvaged = s.salvaged := by
  unfold NewlineStream.salvaged
  rw [h.took.received, ← h.took.later, ← List.append_assoc]
  cases hlater : Inflow.later s'.inner.arrivals with
  | nil => exact h.decodes _ fun hover => by rw [hover]; rfl
  | cons next later =>
    have hne : s'.inner.arrivals ≠ [] := by
      intro hnil
      rw [hnil] at hlater
      cases hlater
    rw [salvage, salvage, ← h.dropReturn hne, List.append_assoc]

/-- **A read that fails goes past one failure**, and what it held is gone. -/
theorem readRounds_error {room : Nat} {e : IoFailure} (hend : s.inner.ending = none)
    (h : s.readRounds room = (.error e, s')) :
    s'.inner.ending = none ∧ s'.salvaged = s.salvaged ∧ s'.remaining ≤ s.remaining ∧
      (Inflow.later s'.inner.arrivals).length + 1 = (Inflow.later s.inner.arrivals).length := by
  fun_induction readRounds room s with
  | case1 s e' s'' hr =>
    cases h
    obtain ⟨n, inner, hread, rfl, hheld⟩ := round_error hr
    obtain ⟨hend', hreceived, hlater⟩ := Inflow.readOn_failed hend hread
    refine ⟨hend', ?_, ?_, ?_⟩
    · unfold salvaged
      rw [hreceived, hlater, salvage]
      rcases hheld with hheld | hheld
      · rw [hheld]
        rfl
      · rw [hheld]
        rfl
    · -- all bytes are still there, since none came in front of the failure
      have hbytes : s.inner.bytes = inner.bytes := by
        rw [Inflow.bytes, Inflow.bytes, ← Inflow.received_append_later,
          ← Inflow.received_append_later inner.arrivals, hreceived, hlater]
        rfl
      rw [remaining, remaining, hbytes]
      exact Nat.add_le_add_left (Nat.zero_le _) _
    · rw [hlater, List.length_cons]
  | case2 s out' s'' hr => cases h
  | case3 s s'' hr _ ih =>
    obtain ⟨taken, hgave, -⟩ := round_gave hr
    obtain ⟨hend', hsalvaged, hremaining, hlater⟩ := ih (hgave.took.ending.trans hend) h
    rw [hgave.took.later] at hlater
    exact ⟨hend', hsalvaged.trans hgave.salvaged,
      Nat.le_trans hremaining (remaining_round hr).1, hlater⟩

/-- The bytes and the failures that a stream can still bring. -/
def ahead (s : NewlineStream) : Nat := s.remaining + (Inflow.later s.inner.arrivals).length

/-- **One read, whether it fails or not**, gives the front of what can be got. It finds the end only
when nothing can be got, and else it uses up bytes or a failure. -/
theorem read_onward {size : Nat} {result : Except IoFailure Bytes} (hend : s.inner.ending = none)
    (hsize : 0 < size) (h : s.read size = (result, s')) :
    s'.inner.ending = none ∧ result.toOption.getD [] ++ s'.salvaged = s.salvaged ∧
      (result = .ok [] → s.salvaged = []) ∧ (result ≠ .ok [] → s'.ahead < s.ahead) := by
  obtain ⟨room, rfl⟩ := Nat.exists_eq_succ_of_ne_zero (Nat.ne_of_gt hsize)
  cases result with
  | ok out =>
    obtain ⟨taken, hgave, -, hover⟩ := read_gave h
    refine ⟨hgave.took.ending.trans hend, hgave.salvaged, fun hnone => ?_, fun hsome => ?_⟩
    · obtain ⟨-, hover⟩ := hover hsize (Except.ok.inj hnone)
      have hout : out = [] := Except.ok.inj hnone
      have hrest : s'.salvaged = [] := by
        rw [NewlineStream.salvaged, hover.held, hover.arrivals]
        rfl
      rw [← hgave.salvaged, hout, hrest]
      rfl
    · have hlt := remaining_lt_of_read h fun hnil => hsome (by rw [hnil])
      rw [ahead, ahead, hgave.took.later]
      exact Nat.add_lt_add_right hlt _
  | error e =>
    obtain ⟨hend', hsalvaged, hle, hlater⟩ := readRounds_error hend h
    refine ⟨hend', hsalvaged, (nomatch ·), fun _ => ?_⟩
    rw [ahead, ahead, ← hlater]
    omega

/-! ## Any number of reads -/

/-- Reads with buffers of the given sizes, also after some of them have failed: what each of them
has come to. -/
def readOnward : List Nat → NewlineStream → List (Except IoFailure Bytes) × NewlineStream
  | [], s => ([], s)
  | size :: sizes, s =>
    let (results, last) := readOnward sizes (s.read size).2
    ((s.read size).1 :: results, last)

/-- The bytes that reads have given. -/
def given (results : List (Except IoFailure Bytes)) : Bytes :=
  results.flatMap fun result => result.toOption.getD []

/-- **What reads give and what can still be got** make up what could be got at first. -/
theorem readOnward_salvaged (hend : s.inner.ending = none) {sizes : List Nat}
    (hpos : ∀ size ∈ sizes, 0 < size) :
    given (readOnward sizes s).1 ++ (readOnward sizes s).2.salvaged = s.salvaged := by
  induction sizes generalizing s with
  | nil => rfl
  | cons size sizes ih =>
    obtain ⟨hsize, hrest⟩ := List.forall_mem_cons.mp hpos
    obtain ⟨hend', hfront, -⟩ := read_onward hend hsize rfl
    rw [← hfront, ← ih hend' hrest, ← List.append_assoc]
    rfl

/-- **Once a read has found the end**, all that could be got was given. -/
theorem given_readOnward (hend : s.inner.ending = none) {sizes : List Nat}
    (hpos : ∀ size ∈ sizes, 0 < size) (hover : .ok [] ∈ (readOnward sizes s).1) :
    given (readOnward sizes s).1 = s.salvaged := by
  induction sizes generalizing s with
  | nil => cases hover
  | cons size sizes ih =>
    have hall := readOnward_salvaged hend hpos
    obtain ⟨hsize, hrest⟩ := List.forall_mem_cons.mp hpos
    obtain ⟨hend', hfront, hnone, -⟩ := read_onward hend hsize rfl
    rcases List.mem_cons.mp hover with hhead | htail
    · rw [hnone hhead.symm] at hall ⊢
      exact (List.append_eq_nil_iff.mp hall).1
    · rw [← hfront, ← ih hend' hrest htail]
      rfl

/-- Reads that have not found the end have each used up bytes or a failure. -/
theorem length_readOnward (hend : s.inner.ending = none) {sizes : List Nat}
    (hpos : ∀ size ∈ sizes, 0 < size) (hover : .ok [] ∉ (readOnward sizes s).1) :
    sizes.length ≤ s.ahead := by
  induction sizes generalizing s with
  | nil => exact Nat.zero_le _
  | cons size sizes ih =>
    obtain ⟨hsize, hrest⟩ := List.forall_mem_cons.mp hpos
    obtain ⟨hend', -, -, hlt⟩ := read_onward hend hsize rfl
    obtain ⟨hhead, htail⟩ := not_or.mp (mt List.mem_cons.mpr hover)
    have hlen := ih hend' hrest htail
    have hlt := hlt (Ne.symm hhead)
    rw [List.length_cons]
    omega

/--
**Reading on after failures gives all bytes exactly if no carriage return is lost.**

The reads may have buffers of any sizes with room, and the stream may fail any number of times. If
there are more reads than bytes and failures, one of them finds the end. Once one has, the bytes
given are what `salvage` says of the bytes between the failures. These are the decoding of all
bytes, as without the failures, for all such reads exactly if no failure comes right behind a
carriage return that is not the first half of a pair.
-/
theorem readOnward_decode {x : Inflow} (hx : x.ending = none) :
    (∀ sizes, (∀ size ∈ sizes, 0 < size) →
      (x.bytes.length + (Inflow.later x.arrivals).length < sizes.length →
        .ok [] ∈ (readOnward sizes { inner := x }).1) ∧
      (.ok [] ∈ (readOnward sizes { inner := x }).1 →
        given (readOnward sizes { inner := x }).1 =
          salvage (Inflow.received x.arrivals) (Inflow.later x.arrivals))) ∧
    ((∀ sizes, (∀ size ∈ sizes, 0 < size) → .ok [] ∈ (readOnward sizes { inner := x }).1 →
        given (readOnward sizes { inner := x }).1 = decode x.bytes) ↔
      ¬ LosesReturn (Inflow.received x.arrivals :: Inflow.later x.arrivals)) := by
  have hover : ∀ sizes, (∀ size ∈ sizes, 0 < size) →
      x.bytes.length + (Inflow.later x.arrivals).length < sizes.length →
      .ok [] ∈ (readOnward sizes { inner := x }).1 := by
    intro sizes hpos hlong
    refine Classical.byContradiction fun hno => ?_
    have hle := length_readOnward (s := { inner := x }) hx hpos hno
    simp only [ahead, remaining, Option.toList_none, List.length_nil] at hle
    omega
  have hgiven : ∀ sizes, (∀ size ∈ sizes, 0 < size) →
      .ok [] ∈ (readOnward sizes { inner := x }).1 →
      given (readOnward sizes { inner := x }).1 =
        salvage (Inflow.received x.arrivals) (Inflow.later x.arrivals) :=
    fun sizes hpos hend => given_readOnward hx hpos hend
  have hiff := salvage_eq_iff (Inflow.received x.arrivals) (Inflow.later x.arrivals)
  rw [Inflow.received_append_later] at hiff
  refine ⟨fun sizes hpos => ⟨hover sizes hpos, hgiven sizes hpos⟩, ?_⟩
  rw [← hiff]
  constructor
  · intro hall
    -- reads of one byte each, more of them than there are bytes and failures
    let sizes := List.replicate (x.bytes.length + (Inflow.later x.arrivals).length + 1) 1
    have hpos : ∀ size ∈ sizes, 0 < size := fun size h => by
      rw [List.eq_of_mem_replicate h]
      exact Nat.one_pos
    have hend := hover sizes hpos (by rw [List.length_replicate]; exact Nat.lt_succ_self _)
    rw [← hgiven sizes hpos hend]
    exact hall sizes hpos hend
  · intro heq sizes hpos hend
    rw [hgiven sizes hpos hend]
    exact heq

/-- A failure in the middle of a pair is not noticed: the line feed comes out alone, as it should.
-/
theorem readOnward_within_pair :
    (⟨[.bytes [97, 13], .failure ⟨.timedOut, ""⟩, .bytes [10, 98]], none⟩ : Inflow).ending = none ∧
      (∀ size ∈ List.replicate 6 4, 0 < size) ∧
      given (readOnward (List.replicate 6 4) { inner :=
        ⟨[.bytes [97, 13], .failure ⟨.timedOut, ""⟩, .bytes [10, 98]], none⟩ }).1 =
          [97, 10, 98] := by
  have hpos : ∀ size ∈ List.replicate 6 4, 0 < size := by decide
  obtain ⟨hend, hgiven⟩ := (readOnward_decode
    (x := ⟨[.bytes [97, 13], .failure ⟨.timedOut, ""⟩, .bytes [10, 98]], none⟩) rfl).1 _ hpos
  exact ⟨rfl, hpos, hgiven (hend (by decide))⟩

/-- A failure behind a carriage return that stands alone: the reads before and behind it give the
letters, and the end is reached, but the carriage return between them is missing. -/
theorem readOnward_lone_return :
    (∀ size ∈ List.replicate 5 16, 0 < size) ∧
      .ok [] ∈ (readOnward (List.replicate 5 16) { inner :=
        ⟨[.bytes [97, 13], .failure ⟨.timedOut, ""⟩, .bytes [98]], none⟩ }).1 ∧
      given (readOnward (List.replicate 5 16) { inner :=
        ⟨[.bytes [97, 13], .failure ⟨.timedOut, ""⟩, .bytes [98]], none⟩ }).1 = [97, 98] ∧
      decode (Inflow.bytes ⟨[.bytes [97, 13], .failure ⟨.timedOut, ""⟩, .bytes [98]], none⟩) =
        [97, 13, 98] := by
  have hpos : ∀ size ∈ List.replicate 5 16, 0 < size := by decide
  have hover : .ok [] ∈ (readOnward (List.replicate 5 16) { inner :=
      ⟨[.bytes [97, 13], .failure ⟨.timedOut, ""⟩, .bytes [98]], none⟩ }).1 :=
    Classical.byContradiction fun hno => absurd (length_readOnward rfl hpos hno) (by decide)
  exact ⟨hpos, hover, given_readOnward rfl hpos hover, rfl⟩

end DebugBridge.NewlineStream
