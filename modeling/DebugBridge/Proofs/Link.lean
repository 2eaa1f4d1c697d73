import DebugBridge.Link
import DebugBridge.Proofs.Inflow

/-!
# What reads and writes do to a link

A read that succeeds takes exactly its bytes off the front of the stream and touches nothing else;
a write that succeeds adds exactly its bytes, in however many pieces they were accepted. How many
bytes are taken depends on the capacity of the link, not on the pieces. A *calm* link takes them all
and brings a steady stream: on it writes never fail, and reads fail only for want of bytes.

* `readExact_received` — when a number of bytes is read
* `written_writeAll`, `writeAll_frame` — what a write adds, and what it leaves alone
* `Moves.writeAll`, `Writable.writeAll` — what comes of a write
-/

namespace DebugBridge.Link

/-- Each write comes through, though it may take several turns. -/
structure Writable (link : Link) : Prop where
  closed : link.closed = false
  unlimited : link.writeLimit = none
  moves : link.writeMax ≠ some 0
  turns : ∀ turn ∈ link.turns,
    (∃ n, turn = .takes (n + 1)) ∨ ∃ e, turn = .fails e ∧ e.isInterrupted = true

/-- Nothing but the end of the stream makes an exchange fail. -/
structure Calm (link : Link) : Prop extends Writable link where
  steady : link.inflow.Steady

/-- A fresh link whose stream is one piece is calm. -/
theorem calm_ofBytes (bytes : Bytes) : Calm { inflow := .ofBytes bytes } where
  closed := rfl
  unlimited := rfl
  moves h := by cases h
  turns turn h := absurd h List.not_mem_nil
  steady := ⟨rfl, fun e h => by cases List.mem_singleton.mp h⟩

/-! ## Reading -/

theorem bytes_readExact {n : Nat} {link link' : Link} {out : Bytes}
    (h : link.readExact n = (.ok out, link')) :
    out.length = n ∧
      ∃ inflow, link' = { link with inflow } ∧ out ++ inflow.bytes = link.inflow.bytes := by
  unfold Link.readExact at h
  split at h
  · split at h
    · next hn =>
      cases h
      exact ⟨hn.symm, link.inflow, rfl, rfl⟩
    · cases h
  · cases hr : link.inflow.readExact n with
    | mk result inflow =>
      rw [hr] at h
      cases h
      obtain ⟨hl, hb⟩ := Inflow.bytes_readExact hr
      exact ⟨hl, inflow, rfl, hb⟩

theorem Calm.readExact {link : Link} (h : link.Calm) (n : Nat) : (link.readExact n).2.Calm := by
  rw [Link.readExact, if_neg (by rw [h.closed]; exact Bool.false_ne_true)]
  exact ⟨⟨h.closed, h.unlimited, h.moves, h.turns⟩, h.steady.readExact n⟩

/-- On a calm link, bytes that are there are read. -/
theorem readExact_calm {link : Link} (h : link.Calm) {n : Nat} (hn : n ≤ link.inflow.bytes.length) :
    ∃ out, (link.readExact n).1 = .ok out := by
  obtain ⟨inflow, hr, -⟩ := Inflow.readExact_steady h.steady
    (List.take_append_drop n link.inflow.bytes).symm
  rw [List.length_take, Nat.min_eq_left hn] at hr
  refine ⟨link.inflow.bytes.take n, ?_⟩
  rw [Link.readExact, if_neg (by rw [h.closed]; exact Bool.false_ne_true), hr]

/-- On a calm link, asking for more bytes than there are finds the end. -/
theorem readExact_short {link : Link} (h : link.Calm) {n : Nat}
    (hn : link.inflow.bytes.length < n) : (link.readExact n).1 = .error Inflow.shortRead := by
  rw [Link.readExact, if_neg (by rw [h.closed]; exact Bool.false_ne_true)]
  exact Inflow.readExact_short h.steady hn

/-- The bytes that reads on a link can get. -/
def received (link : Link) : Bytes :=
  if link.closed then [] else Inflow.received link.inflow.arrivals

/-- On a calm link all bytes can be read. -/
theorem Calm.received {link : Link} (h : link.Calm) : link.received = link.inflow.bytes := by
  rw [Link.received, if_neg (by rw [h.closed]; exact Bool.false_ne_true),
    Inflow.received_steady h.steady.interruptions, Inflow.bytes]

/-- **A number of bytes is read exactly if it can be got**; nothing but the stream changes. -/
theorem readExact_received (n : Nat) (link : Link) :
    (n ≤ link.received.length ∧
      ∃ inflow, link.readExact n = (.ok (link.received.take n), { link with inflow }) ∧
        { link with inflow }.received = link.received.drop n) ∨
    (link.received.length < n ∧ ∃ e inflow, link.readExact n = (.error e, { link with inflow })) := by
  unfold Link.received Link.readExact
  by_cases hc : link.closed = true
  · rw [if_pos hc, if_pos hc]
    by_cases hn : n = 0
    · subst hn
      exact .inl ⟨Nat.le_refl _, link.inflow, rfl, if_pos hc⟩
    · rw [if_neg hn]
      exact .inr ⟨Nat.pos_of_ne_zero hn, _, link.inflow, rfl⟩
  · rw [if_neg hc, if_neg hc]
    rcases Inflow.readExactly_received link.inflow.ending n link.inflow.arrivals with
      ⟨hle, arrivals, hr, hleft⟩ | ⟨hlt, e, arrivals, hr⟩
    · refine .inl ⟨hle, { link.inflow with arrivals }, ?_, ?_⟩
      · rw [Inflow.readExact, hr]
      · simpa [hc] using hleft
    · refine .inr ⟨hlt, e, { link.inflow with arrivals }, ?_⟩
      rw [Inflow.readExact, hr]

/-! ## Writing -/

@[simp] theorem written_accept (bytes : Bytes) (link : Link) :
    (link.accept bytes).written.toList = link.written.toList ++ bytes := Array.toList_appendList

/-- **A write that succeeds adds exactly its bytes**, whatever the turns were. -/
theorem written_writeAll {bytes : Bytes} {link link' : Link}
    (h : link.writeAll bytes = (.ok (), link')) :
    link'.written.toList = link.written.toList ++ bytes := by
  fun_induction Link.writeAll bytes link with
  | case1 link =>
    cases h
    exact (List.append_nil _).symm
  | case2 link b rest e he hi ih => simpa using ih h
  | case3 link b rest e he hi => cases h
  | case4 link b rest he => cases h
  | case5 link b rest n hn ih =>
    rw [ih h, written_accept, List.append_assoc, List.cons_append, List.take_append_drop]

/-- A write adds a front of its bytes, whatever comes of it. -/
theorem written_writeAll_take (bytes : Bytes) (link : Link) :
    ∃ k, (link.writeAll bytes).2.written.toList = link.written.toList ++ bytes.take k := by
  fun_induction Link.writeAll bytes link with
  | case1 link => exact ⟨0, (List.append_nil _).symm⟩
  | case2 link b rest e he hi ih =>
    obtain ⟨k, hk⟩ := ih
    refine ⟨k, ?_⟩
    rw [hk, written_accept, List.append_nil]
  | case3 link b rest e he hi => exact ⟨0, written_accept [] link⟩
  | case4 link b rest he => exact ⟨0, written_accept [] link⟩
  | case5 link b rest n hn ih =>
    obtain ⟨k, hk⟩ := ih
    refine ⟨(b :: rest.take n).length + k, ?_⟩
    have hbytes : b :: rest = (b :: rest.take n) ++ rest.drop n := by
      rw [List.cons_append, List.take_append_drop]
    rw [hk, written_accept, hbytes, List.take_length_add_append, List.append_assoc]

/-- Writing changes nothing but what was written and the turns to come. -/
theorem writeAll_frame (bytes : Bytes) (link : Link) :
    ∃ written turns, (link.writeAll bytes).2 = { link with written, turns } := by
  fun_induction Link.writeAll bytes link with
  | case1 link => exact ⟨link.written, link.turns, rfl⟩
  | case2 link b rest e he hi ih => exact ih
  | case3 => exact ⟨_, _, rfl⟩
  | case4 => exact ⟨_, _, rfl⟩
  | case5 link b rest n hn ih => exact ih

/-- Writing does not change what can be read. -/
@[simp] theorem received_writeAll (bytes : Bytes) (link : Link) :
    (link.writeAll bytes).2.received = link.received := by
  obtain ⟨written, turns, hframe⟩ := link.writeAll_frame bytes
  rw [hframe]
  rfl

theorem closed_writeAll (bytes : Bytes) (link : Link) :
    (link.writeAll bytes).2.closed = link.closed := by
  obtain ⟨written, turns, hframe⟩ := link.writeAll_frame bytes
  rw [hframe]

/-! ### How many bytes are taken -/

/-- Each write is interrupted or may take at least one byte. -/
structure Moves (link : Link) : Prop where
  most : link.writeMax ≠ some 0
  turns : ∀ turn ∈ link.turns,
    (∃ n, turn = .takes (n + 1)) ∨ ∃ e, turn = .fails e ∧ e.isInterrupted = true

/-- How many more bytes a link takes, and how writes fail behind them; none if it takes all. -/
def capacity (link : Link) : Option (Nat × IoFailure) :=
  if link.closed then some (0, closedFailure)
  else link.writeLimit.map fun limit => (limit.1 - link.written.size, limit.2)

/-- The bytes that a link takes, of those that are written. -/
def fitting (bytes : Bytes) : Option (Nat × IoFailure) → Bytes
  | none => bytes
  | some (n, _) => bytes.take n

/-- What comes of writing bytes. -/
def verdict (bytes : Bytes) : Option (Nat × IoFailure) → Except IoFailure Unit
  | none => .ok ()
  | some (n, e) => if bytes.length ≤ n then .ok () else .error e

theorem Moves.accept {link : Link} (h : link.Moves) (bytes : Bytes) : (link.accept bytes).Moves :=
  ⟨h.most, fun turn ht => h.turns turn (List.mem_of_mem_tail ht)⟩

/-- What was taken is taken off the capacity. -/
theorem capacity_accept (bytes : Bytes) (link : Link) :
    (link.accept bytes).capacity =
      link.capacity.map fun room => (room.1 - bytes.length, room.2) := by
  unfold capacity
  by_cases hc : link.closed = true
  · rw [if_pos hc, if_pos (show (link.accept bytes).closed = true from hc), Option.map_some]
    simp only [Nat.zero_sub]
  · rw [if_neg hc, if_neg (show ¬ (link.accept bytes).closed = true from hc)]
    have hsize : (link.accept bytes).written.size = link.written.size + bytes.length := by
      rw [← Array.length_toList, written_accept, List.length_append, Array.length_toList]
    show Option.map _ link.writeLimit = _
    cases link.writeLimit with
    | none => rfl
    | some limit => simp only [Option.map_some, hsize, Nat.sub_sub]

/-- A write that no turn decides takes at least one byte, unless there is no capacity left. -/
theorem Moves.steadyRoom {link : Link} (h : link.Moves) (hc : link.closed = false) (size : Nat) :
    (∃ e, link.steadyRoom (size + 1) = .error e ∧ link.capacity = some (0, e)) ∨
      ∃ n, link.steadyRoom (size + 1) = .ok (n + 1) ∧ n ≤ size ∧
        ∀ limit e, link.capacity = some (limit, e) → n < limit := by
  obtain ⟨most, hmost, hle⟩ :
      ∃ most, min (size + 1) (link.writeMax.getD (size + 1)) = most + 1 ∧ most ≤ size := by
    cases hw : link.writeMax with
    | none => exact ⟨size, by simp, Nat.le_refl _⟩
    | some most =>
      cases most with
      | zero => exact absurd hw h.most
      | succ most => exact ⟨min size most, by simp [Nat.succ_min_succ], Nat.min_le_left _ _⟩
  have hcapacity : link.capacity =
      link.writeLimit.map fun limit => (limit.1 - link.written.size, limit.2) := by
    rw [capacity, hc]
    rfl
  rw [Link.steadyRoom, hmost, hcapacity]
  cases link.writeLimit with
  | none => exact .inr ⟨most, rfl, hle, fun limit e he => by cases he⟩
  | some bound =>
    obtain ⟨limit, e⟩ := bound
    by_cases hfull : limit ≤ link.written.size
    · refine .inl ⟨e, if_pos hfull, ?_⟩
      simp only [Option.map_some, Nat.sub_eq_zero_of_le hfull]
    · refine .inr ⟨min most (limit - link.written.size - 1), ?_, by omega, fun limit' e' he => ?_⟩
      · simp only [if_neg hfull]
        congr 1
        omega
      · cases he
        omega

/-- **A write on a link that moves** is interrupted, or finds no capacity, or takes at least one
byte, and none that there is no capacity for. -/
theorem Moves.room {link : Link} (h : link.Moves) (size : Nat) :
    (∃ e, link.room (size + 1) = .error e ∧ e.isInterrupted = true ∧ link.turns ≠ []) ∨
      (∃ e, link.room (size + 1) = .error e ∧ link.capacity = some (0, e)) ∨
        ∃ n, link.room (size + 1) = .ok (n + 1) ∧ n ≤ size ∧
          ∀ limit e, link.capacity = some (limit, e) → n < limit := by
  rw [Link.room]
  cases hc : link.closed with
  | true =>
    refine .inr (.inl ⟨closedFailure, rfl, ?_⟩)
    rw [capacity, hc]
    rfl
  | false =>
    rw [if_neg Bool.false_ne_true]
    cases ht : link.turns with
    | nil => exact .inr (h.steadyRoom hc size)
    | cons turn turns =>
      rcases h.turns turn (by rw [ht]; exact List.mem_cons_self) with ⟨n, rfl⟩ | ⟨e, rfl, he⟩
      · refine .inr ?_
        show (∃ e, link.steadyRoom (min (size + 1) (n + 1)) = .error e ∧ _) ∨
          ∃ m, link.steadyRoom (min (size + 1) (n + 1)) = .ok (m + 1) ∧ _
        rw [Nat.succ_min_succ]
        refine (h.steadyRoom hc (min size n)).imp id ?_
        rintro ⟨m, hm, hle, hlt⟩
        exact ⟨m, hm, Nat.le_trans hle (Nat.min_le_left _ _), hlt⟩
      · exact .inl ⟨e, rfl, he, List.cons_ne_nil _ _⟩

/-- What a link takes of some bytes it takes of their front, and then of the others. -/
theorem fitting_append {front : Bytes} {capacity : Option (Nat × IoFailure)}
    (h : ∀ limit e, capacity = some (limit, e) → front.length ≤ limit) (behind : Bytes) :
    fitting (front ++ behind) capacity =
      front ++ fitting behind (capacity.map fun room => (room.1 - front.length, room.2)) := by
  cases capacity with
  | none => rfl
  | some bound =>
    obtain ⟨limit, e⟩ := bound
    rw [fitting, List.take_append, List.take_of_length_le (h limit e rfl)]
    rfl

theorem verdict_append {front : Bytes} {capacity : Option (Nat × IoFailure)}
    (h : ∀ limit e, capacity = some (limit, e) → front.length ≤ limit) (behind : Bytes) :
    verdict (front ++ behind) capacity =
      verdict behind (capacity.map fun room => (room.1 - front.length, room.2)) := by
  cases capacity with
  | none => rfl
  | some bound =>
    obtain ⟨limit, e⟩ := bound
    have := h limit e rfl
    simp only [verdict, Option.map_some, List.length_append]
    by_cases hle : front.length + behind.length ≤ limit
    · rw [if_pos hle, if_pos (by omega)]
    · rw [if_neg hle, if_neg (by omega)]

/-- **Writing all bytes depends on the capacity only**, not on the turns in which they are taken. -/
theorem Moves.writeAll {link : Link} (h : link.Moves) (bytes : Bytes) :
    (link.writeAll bytes).1 = verdict bytes link.capacity ∧
      (link.writeAll bytes).2.written.toList =
        link.written.toList ++ fitting bytes link.capacity ∧
      (link.writeAll bytes).2.Moves := by
  fun_induction Link.writeAll bytes link with
  | case1 link =>
    refine ⟨?_, ?_, h⟩
    · cases link.capacity with
      | none => rfl
      | some bound =>
        rw [verdict, List.length_nil, if_pos (Nat.zero_le bound.1)]
    · cases link.capacity with
      | none => exact (List.append_nil _).symm
      | some bound => rw [fitting, List.take_nil, List.append_nil]
  | case2 link b rest e he hi ih =>
    -- an interrupted write takes nothing but its turn
    have hsame : (link.accept []).capacity = link.capacity := by
      rw [capacity_accept]
      exact Option.map_id'
    have ih := ih (h.accept [])
    rwa [hsame, written_accept, List.append_nil] at ih
  | case3 link b rest e he hi =>
    rcases h.room rest.length with ⟨e', hr, hint, hne⟩ | ⟨e', hr, hfull⟩ | ⟨n, hr, -⟩
    · cases he.symm.trans hr
      exact absurd ⟨hint, hne⟩ hi
    · -- only a link without capacity fails
      cases he.symm.trans hr
      rw [hfull]
      exact ⟨rfl, written_accept [] link, h.accept []⟩
    · cases he.symm.trans hr
  | case4 link b rest he =>
    rcases h.room rest.length with ⟨e', hr, -⟩ | ⟨e', hr, -⟩ | ⟨n, hr, -⟩ <;>
      cases he.symm.trans hr
  | case5 link b rest n hn ih =>
    rcases h.room rest.length with ⟨e', hr, -⟩ | ⟨e', hr, -⟩ | ⟨n', hr, hle, hlt⟩
    · cases hn.symm.trans hr
    · cases hn.symm.trans hr
    · cases hn.symm.trans hr
      have hlength : (b :: rest.take n).length = n + 1 := by
        rw [List.length_cons, List.length_take, Nat.min_eq_left hle]
      have hfront : ∀ limit e, link.capacity = some (limit, e) →
          (b :: rest.take n).length ≤ limit := by
        rw [hlength]
        exact hlt
      have hbytes : b :: rest = (b :: rest.take n) ++ rest.drop n := by
        rw [List.cons_append, List.take_append_drop]
      obtain ⟨hverdict, hwritten, hmoves⟩ := ih (h.accept _)
      rw [capacity_accept] at hverdict hwritten
      refine ⟨?_, ?_, hmoves⟩
      · rw [hverdict, hbytes, verdict_append hfront]
      · rw [hwritten, hbytes, fitting_append hfront, written_accept, List.append_assoc]

theorem Writable.toMoves {link : Link} (h : link.Writable) : link.Moves := ⟨h.moves, h.turns⟩

/-- On a writable link writing never fails. -/
theorem Writable.writeAll {link : Link} (h : link.Writable) (bytes : Bytes) :
    (link.writeAll bytes).1 = .ok () ∧ (link.writeAll bytes).2.Writable := by
  obtain ⟨hverdict, -, hmoves⟩ := h.toMoves.writeAll bytes
  obtain ⟨written, turns, hframe⟩ := link.writeAll_frame bytes
  have hcapacity : link.capacity = none := by
    rw [capacity, h.closed, h.unlimited]
    rfl
  rw [hframe] at hmoves ⊢
  rw [hcapacity] at hverdict
  exact ⟨hverdict, h.closed, h.unlimited, hmoves.most, hmoves.turns⟩

theorem Calm.writeAll {link : Link} (h : link.Calm) (bytes : Bytes) :
    (link.writeAll bytes).1 = .ok () ∧ (link.writeAll bytes).2.Calm := by
  obtain ⟨hr, hw⟩ := h.toWritable.writeAll bytes
  exact ⟨hr, hw, by rw [inflow_writeAll]; exact h.steady⟩

end DebugBridge.Link
