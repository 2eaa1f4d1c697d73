import DebugBridge.Proofs.Inflow
import DebugBridge.Shell.NewlineStream

/-!
# Line ends come back whatever the pieces

`decode` says what a whole byte string means: each carriage return right before a line feed goes.
A `NewlineStream` gives out the same bytes, whatever the pieces are in which they arrive and
whatever buffers the caller brings.

* `compact_eq` — going over a buffer in place gives the decoding of what stands in it
* `read_gave` — what one read gives out, followed by the decoding of what is still unread, is the
  decoding of what was unread before; `read_steady`, that on a steady stream it never fails
* `readEach_steady` — the same for any number of reads
* `reads_decode` — so reading to the end gives the decoding of all the bytes
-/

namespace DebugBridge.NewlineStream

/-! ## Decoding whole byte strings -/

/-- The bytes without each carriage return that stands right before a line feed. -/
def decode : Bytes → Bytes
  | a :: b :: rest => if a = cr ∧ b = lf then decode (b :: rest) else a :: decode (b :: rest)
  | bytes => bytes

/-- The bytes with a carriage return before each line feed, as a shell sends them. -/
def withReturns (bytes : Bytes) : Bytes := bytes.flatMap fun b => if b = lf then [cr, lf] else [b]

theorem lf_ne_cr : lf ≠ cr := by decide

/-- A byte that does not begin a pair stays. -/
theorem decode_cons {a : UInt8} {bytes : Bytes} (h : a = cr → bytes.head? ≠ some lf) :
    decode (a :: bytes) = a :: decode bytes := by
  cases bytes with
  | nil => rfl
  | cons b rest =>
    rw [decode, if_neg]
    rintro ⟨ha, hb⟩
    exact h ha (by rw [List.head?_cons, hb])

/-- Of a pair only the line feed stays. -/
theorem decode_pair (rest : Bytes) : decode (cr :: lf :: rest) = lf :: decode rest := by
  rw [decode, if_pos ⟨rfl, rfl⟩, decode_cons fun h => absurd h lf_ne_cr]

/-- Decoding may be done part by part where no pair is cut in two. -/
theorem decode_append {front rest : Bytes} (h : front.getLast? = some cr → rest.head? ≠ some lf) :
    decode (front ++ rest) = decode front ++ decode rest := by
  induction front with
  | nil => rfl
  | cons a front ih =>
    cases front with
    | nil =>
      rw [List.singleton_append, decode_cons fun ha => h (by rw [ha]; rfl)]
      rfl
    | cons b front =>
      have ih := ih fun hl => h (by rw [List.getLast?_cons_cons]; exact hl)
      rw [List.cons_append, List.cons_append, decode, decode]
      rw [List.cons_append] at ih
      split
      · exact ih
      · rw [ih, List.cons_append]

theorem decode_eq_nil {bytes : Bytes} : decode bytes = [] ↔ bytes = [] := by
  fun_induction decode bytes with
  | case1 a b rest h ih => simp [ih]
  | case2 a b rest h ih => simp
  | case3 bytes h => exact Iff.rfl

/-- **Decoding takes the carriage returns out that a shell puts in.** -/
theorem decode_withReturns (bytes : Bytes) : decode (withReturns bytes) = bytes := by
  induction bytes with
  | nil => rfl
  | cons b rest ih =>
    rw [withReturns, List.flatMap_cons, ← withReturns]
    by_cases hb : b = lf
    · rw [if_pos hb, List.cons_append, List.singleton_append, decode_pair, ih, hb]
    · rw [if_neg hb, List.singleton_append, decode_cons, ih]
      intro _ hh
      -- what follows `b` is a line feed only behind a carriage return of its own
      cases rest with
      | nil => cases hh
      | cons c rest =>
        rw [withReturns, List.flatMap_cons] at hh
        split at hh
        · cases hh
        · next hc => exact hc (Option.some.inj hh)

/-! ## Going over a buffer -/

/-- What becomes of the bytes of one read: those to give out, and a carriage return at their end
that is held back. -/
def settle (atEnd : Bool) (bytes : Bytes) : Bytes × Option UInt8 :=
  if atEnd = false ∧ bytes.getLast? = some cr then (decode bytes.dropLast, some cr)
  else (decode bytes, none)

theorem settle_pair (atEnd : Bool) (rest : Bytes) :
    settle atEnd (cr :: lf :: rest) = (lf :: (settle atEnd rest).1, (settle atEnd rest).2) := by
  cases rest with
  | nil => cases atEnd <;> rfl
  | cons b rest =>
    unfold settle
    rw [List.getLast?_cons_cons, List.getLast?_cons_cons, List.dropLast_cons_cons,
      List.dropLast_cons_cons]
    split
    · rw [decode_pair]
    · rw [decode_pair]

theorem settle_cons {atEnd : Bool} {b : UInt8} {rest : Bytes}
    (hp : ¬ (b = cr ∧ rest.head? = some lf)) (hl : ¬ (b = cr ∧ rest = [] ∧ atEnd = false)) :
    settle atEnd (b :: rest) = (b :: (settle atEnd rest).1, (settle atEnd rest).2) := by
  cases rest with
  | nil =>
    unfold settle
    rw [if_neg, if_neg]
    · rfl
    · rintro ⟨-, h⟩
      cases h
    · rintro ⟨ha, h⟩
      exact hl ⟨Option.some.inj h, rfl, ha⟩
  | cons c rest =>
    unfold settle
    rw [List.getLast?_cons_cons, List.dropLast_cons_cons]
    split
    · next h =>
      rw [decode_cons]
      intro hb hh
      cases rest with
      | nil => cases hh
      | cons d rest => exact hp ⟨hb, hh⟩
    · rw [decode_cons fun hb hh => hp ⟨hb, hh⟩]

/-- The buffer in front of `out + 1` after a byte was moved to place `out`. -/
theorem take_setIfInBounds {buffer : Array UInt8} {out : Nat} (h : out < buffer.size) (b : UInt8) :
    (buffer.setIfInBounds out b).toList.take (out + 1) = buffer.toList.take out ++ [b] := by
  rw [Array.toList_setIfInBounds, List.take_add_one, List.take_set_of_le (Nat.le_refl _),
    List.getElem?_set_self (by rwa [Array.length_toList])]
  rfl

/-- Moving a byte to place `out` leaves what stands behind it. -/
theorem drop_setIfInBounds {buffer : Array UInt8} {out k : Nat} (h : out < k) (b : UInt8) :
    (buffer.setIfInBounds out b).toList.drop k = buffer.toList.drop k := by
  rw [Array.toList_setIfInBounds, List.drop_set, if_pos h]

/-- **Going over a buffer in place never overwrites a byte that it has not looked at.** The bytes
before `out` stay, and what is added behind them is what the bytes from `i` on come to. -/
theorem compact_eq {atEnd : Bool} {buffer : Array UInt8} {i out : Nat} (ho : out ≤ i) :
    compact atEnd buffer i out =
      (buffer.toList.take out ++ (settle atEnd (buffer.toList.drop i)).1,
        (settle atEnd (buffer.toList.drop i)).2) := by
  fun_induction compact atEnd buffer i out with
  | case1 buffer i out h hb ih =>
    obtain ⟨h', hlf⟩ := Array.getElem?_eq_some_iff.mp hb.2
    have hdrop : buffer.toList.drop i = cr :: lf :: buffer.toList.drop (i + 2) := by
      rw [List.drop_eq_getElem_cons (by simpa using h),
        List.drop_eq_getElem_cons (by simpa using h')]
      simp [hb.1, hlf]
    rw [ih (by omega), take_setIfInBounds (by omega), drop_setIfInBounds (by omega), hdrop,
      settle_pair, List.append_assoc, List.singleton_append]
  | case2 buffer i out h hb hl =>
    have hdrop : buffer.toList.drop i = [cr] := by
      rw [List.drop_eq_getElem_cons (by simpa using h), List.drop_eq_nil_of_le (by simp; omega)]
      simp [hl.1]
    rw [hdrop, hl.1, hl.2.2]
    simp [settle, decode]
  | case3 buffer i out h hb hl ih =>
    have hdrop : buffer.toList.drop i = buffer[i] :: buffer.toList.drop (i + 1) := by
      rw [List.drop_eq_getElem_cons (by simpa using h)]
      simp
    rw [ih (by omega), take_setIfInBounds (by omega), drop_setIfInBounds (by omega), hdrop,
      settle_cons, List.append_assoc, List.singleton_append]
    · rintro ⟨hc, hh⟩
      exact hb ⟨hc, by simpa using hh⟩
    · rintro ⟨hc, hn, he⟩
      have := List.drop_eq_nil_iff.mp hn
      rw [Array.length_toList] at this
      exact hl ⟨hc, by omega, he⟩
  | case4 buffer i out h =>
    rw [List.drop_eq_nil_of_le (by simp; omega)]
    simp [settle, decode]

theorem decodeRead_eq (atEnd : Bool) (bytes : Bytes) :
    decodeRead atEnd bytes = settle atEnd bytes := by
  rw [decodeRead, compact_eq (Nat.le_refl 0)]
  rfl

/-- What a read gives out and what it holds back decode like the bytes that it took. -/
theorem decodeRead_append {atEnd : Bool} (bytes : Bytes) {rest : Bytes}
    (h : atEnd = true → rest = []) :
    (decodeRead atEnd bytes).1 ++ decode ((decodeRead atEnd bytes).2.toList ++ rest) =
      decode (bytes ++ rest) := by
  rw [decodeRead_eq]
  unfold settle
  split
  · next hl =>
    -- the carriage return goes to the bytes behind, and the cut before it parts no pair
    obtain ⟨front, rfl⟩ := List.getLast?_eq_some_iff.mp hl.2
    rw [List.dropLast_concat, List.append_assoc, Option.toList_some, List.singleton_append]
    refine (decode_append ?_).symm
    intro _ hh
    exact lf_ne_cr (Option.some.inj hh).symm
  · next hl =>
    rw [Option.toList_none, List.nil_append]
    refine (decode_append fun hc => ?_).symm
    cases atEnd with
    | true =>
      rw [h rfl]
      exact fun hh => by cases hh
    | false => exact absurd ⟨rfl, hc⟩ hl

/-- A read gives nothing out only if it took nothing, or a carriage return alone. -/
theorem decodeRead_eq_nil {atEnd : Bool} {bytes : Bytes} (h : (decodeRead atEnd bytes).1 = []) :
    bytes = [] ∨ atEnd = false := by
  rw [decodeRead_eq] at h
  unfold settle at h
  split at h
  · next hl => exact Or.inr hl.1
  · exact Or.inl (decode_eq_nil.mp h)

/-! ## One read -/

/-- The bytes that were not given out yet: the one that is held, and those still to come. -/
def unread (s : NewlineStream) : Bytes := s.held.toList ++ s.inner.bytes

/-- Nothing is held, and the stream has ended. -/
structure Over (s : NewlineStream) : Prop where
  held : s.held = none
  arrivals : s.inner.arrivals = []
  ending : s.inner.ending = none

/-- A step of a read from `s` to `s'` took bytes from the stream and gave `out`. Whatever is still
to come, no byte is lost and none is made up; behind the end of the stream nothing comes. -/
structure Gave (s s' : NewlineStream) (taken out : Bytes) : Prop where
  took : s.inner.Took s'.inner taken
  decodes : ∀ rest, (s'.inner.arrivals = [] → rest = []) →
    out ++ decode (s'.held.toList ++ rest) = decode (s.held.toList ++ taken ++ rest)

section Steps

variable {s s' s'' : NewlineStream} {taken more out out' : Bytes} {room size : Nat}

theorem Gave.trans (h : Gave s s' taken out) (h' : Gave s' s'' more out') :
    Gave s s'' (taken ++ more) (out ++ out') where
  took := h.took.trans h'.took
  decodes := by
    intro rest hrest
    have hmore : s'.inner.arrivals = [] → more ++ rest = [] := by
      intro hover
      obtain ⟨hmore, hover'⟩ := h'.took.ended hover
      rw [hmore, hrest hover', List.append_nil]
    have hdecodes := h.decodes (more ++ rest) hmore
    rw [List.append_assoc, h'.decodes rest hrest, List.append_assoc, hdecodes]
    simp only [List.append_assoc]

theorem Gave.unread (h : Gave s s' taken out) : out ++ decode s'.unread = decode s.unread := by
  rw [NewlineStream.unread, NewlineStream.unread, h.took.bytes, ← List.append_assoc]
  exact h.decodes _ fun hover => by rw [Inflow.bytes, hover, Inflow.bytesOf_nil]

theorem readAhead_gave {result : Option Bytes} (hh : s.held = some cr)
    (h : s.readAhead = (.ok result, s')) :
    ∃ taken out, result = some out ∧ Gave s s' taken out ∧ out.length = 1 := by
  unfold readAhead at h
  split at h
  · cases h
  · next inner hr =>
    cases h
    obtain ⟨htook, hover⟩ := Inflow.readOn_took hr
    refine ⟨[], [cr], rfl, ⟨htook, fun rest hrest => ?_⟩, rfl⟩
    rw [hh, hrest (hover Nat.one_pos rfl).1]
    rfl
  · next b bytes inner hr =>
    obtain ⟨htook, -⟩ := Inflow.readOn_took hr
    obtain rfl : bytes = [] := by
      have := (Inflow.readOn_ok hr).1
      rw [List.length_cons] at this
      exact List.length_eq_zero_iff.mp (by omega)
    split at h
    · next hlf =>
      cases h
      refine ⟨[b], [lf], rfl, ⟨htook, fun rest _ => ?_⟩, rfl⟩
      rw [hh, hlf]
      exact (decode_pair rest).symm
    · next hlf =>
      cases h
      refine ⟨[b], [cr], rfl, ⟨htook, fun rest _ => ?_⟩, rfl⟩
      rw [hh]
      show cr :: decode (b :: rest) = decode (cr :: b :: rest)
      refine (decode_cons ?_).symm
      intro _ hb
      exact hlf (Option.some.inj hb)

theorem readBehind_gave {result : Option Bytes} (hroom : 0 < room)
    (h : s.readBehind s.held.toList room = (.ok result, s')) :
    ∃ taken, Gave s s' taken (result.getD []) ∧
      (result.getD []).length ≤ s.held.toList.length + room ∧
      (result = some [] → s.held = none ∧ taken = [] ∧ s'.Over) := by
  unfold readBehind at h
  split at h
  · cases h
  · next bytes inner hr =>
    obtain ⟨hresult, rfl⟩ := Prod.mk.inj h
    obtain rfl := Except.ok.inj hresult
    obtain ⟨htook, hover⟩ := Inflow.readOn_took hr
    have hle := (Inflow.readOn_ok hr).1
    have hlen := length_decodeRead_le bytes.isEmpty (s.held.toList ++ bytes)
    rw [List.length_append] at hlen
    refine ⟨bytes, ⟨htook, fun rest hrest => ?_⟩, ?_, fun hnone => ?_⟩
    · have hend : bytes.isEmpty = true → rest = [] := fun hempty =>
        hrest (hover hroom (List.isEmpty_iff.mp hempty)).1
      have hd := decodeRead_append (s.held.toList ++ bytes) hend
      rw [← hd]
      split
      · next hn => rw [hn.1, Option.getD_none]
      · rfl
    · split
      · exact Nat.zero_le _
      · rw [Option.getD_some]
        omega
    · split at hnone
      · cases hnone
      · next hn =>
        -- nothing was given out, so nothing was taken, and nothing was held
        have hout := Option.some.inj hnone
        have hbytes : bytes = [] := Classical.byContradiction fun hne => hn ⟨hout, hne⟩
        obtain ⟨harrivals, hending⟩ := hover hroom hbytes
        subst hbytes
        rcases decodeRead_eq_nil hout with hheld | hatEnd
        · rw [List.append_nil] at hheld
          refine ⟨Option.toList_eq_nil_iff.mp hheld, rfl, ⟨?_, harrivals, hending⟩⟩
          rw [hheld, decodeRead_eq]
          rfl
        · cases hatEnd

/-- **One round of a read** neither loses nor makes up a byte if it succeeds, and finds nothing only
at the end. -/
theorem round_gave {result : Option Bytes} (h : s.round room = (.ok result, s')) :
    ∃ taken, Gave s s' taken (result.getD []) ∧ (result.getD []).length ≤ room + 1 ∧
      (result = some [] → s.held = none ∧ taken = [] ∧ s'.Over) := by
  unfold round at h
  split at h
  · next hh =>
    rw [show ([] : Bytes) = s.held.toList by rw [hh]; rfl] at h
    obtain ⟨taken, hgave, hlen, hover⟩ := readBehind_gave (Nat.succ_pos room) h
    rw [hh] at hlen
    exact ⟨taken, hgave, by simpa using hlen, hover⟩
  · next b hh =>
    split at h
    · next hb =>
      cases h
      refine ⟨[], ⟨.refl _, fun rest _ => ?_⟩, Nat.le_add_left _ _, fun h => by cases h⟩
      rw [hh]
      exact (decode_cons fun h => absurd h hb).symm
    · next hb =>
      have hcr : b = cr := Classical.byContradiction hb
      split at h
      · obtain ⟨taken, out, rfl, hgave, hlen⟩ := readAhead_gave (by rw [hh, hcr]) h
        refine ⟨taken, hgave, by rw [Option.getD_some, hlen]; omega, fun h => ?_⟩
        rw [Option.some.inj h] at hlen
        cases hlen
      · next hroom =>
        rw [show [b] = s.held.toList by rw [hh]; rfl] at h
        obtain ⟨taken, hgave, hlen, hover⟩ := readBehind_gave (Nat.pos_of_ne_zero hroom) h
        rw [hh] at hlen
        exact ⟨taken, hgave, by simpa [Nat.add_comm] using hlen, hover⟩

/-- A round of a read fails as a read of the stream does, and then nothing is held. -/
theorem round_error {e : IoFailure} (h : s.round room = (.error e, s')) :
    ∃ n inner, s.inner.readOn n = (.error e, inner) ∧ s' = { inner } ∧
      (s.held = none ∨ s.held = some cr) := by
  have hbehind : ∀ front n, s.readBehind front n = (.error e, s') →
      ∃ inner, s.inner.readOn n = (.error e, inner) ∧ s' = { inner } := by
    intro front n hr
    unfold readBehind at hr
    split at hr
    · next inner hread =>
      cases hr
      exact ⟨inner, hread, rfl⟩
    · cases hr
  unfold round at h
  split at h
  · next hh =>
    obtain ⟨inner, hr, hs⟩ := hbehind _ _ h
    exact ⟨_, inner, hr, hs, .inl hh⟩
  · next b hh =>
    split at h
    · cases h
    · next hb =>
      have hcr : b = cr := Classical.byContradiction hb
      rw [hcr] at hh
      split at h
      · unfold readAhead at h
        split at h
        · next inner hr =>
          cases h
          exact ⟨1, inner, hr, rfl, .inr hh⟩
        · cases h
        · split at h
          · cases h
          · cases h
      · obtain ⟨inner, hr, hs⟩ := hbehind _ _ h
        exact ⟨_, inner, hr, hs, .inr hh⟩

theorem readRounds_gave (h : s.readRounds room = (.ok out, s')) :
    ∃ taken, Gave s s' taken out ∧ out.length ≤ room + 1 ∧
      (out = [] → s.unread = [] ∧ s'.Over) := by
  fun_induction readRounds room s with
  | case1 s e s'' hr => cases h
  | case2 s out' s'' hr =>
    cases h
    obtain ⟨taken, hgave, hlen, hover⟩ := round_gave hr
    refine ⟨taken, hgave, hlen, fun hnone => ?_⟩
    obtain ⟨hheld, htaken, hs'⟩ := hover (by rw [hnone])
    refine ⟨?_, hs'⟩
    rw [unread, hheld, hgave.took.bytes, htaken, Inflow.bytes, hs'.arrivals]
    rfl
  | case3 s s'' hr _ ih =>
    obtain ⟨taken, hgave, -⟩ := round_gave hr
    obtain ⟨more, hgave', hlen, hover⟩ := ih h
    refine ⟨taken ++ more, hgave.trans hgave', hlen, fun hnone => ?_⟩
    obtain ⟨hunread, hs'⟩ := hover hnone
    -- the bytes that this round took cannot all have vanished
    have hd := hgave.unread
    rw [hunread] at hd
    exact ⟨decode_eq_nil.mp hd.symm, hs'⟩

/-- **One read that succeeds**: no byte is lost and none is made up, whatever fails later. -/
theorem read_gave (h : s.read size = (.ok out, s')) :
    ∃ taken, Gave s s' taken out ∧ out.length ≤ size ∧
      (0 < size → out = [] → s.unread = [] ∧ s'.Over) := by
  cases size with
  | zero =>
    cases h
    refine ⟨[], ⟨.refl _, fun rest _ => ?_⟩, Nat.le_refl _, fun h => absurd h (Nat.lt_irrefl 0)⟩
    rw [List.append_nil]
    rfl
  | succ room =>
    obtain ⟨taken, hgave, hlen, hover⟩ := readRounds_gave h
    exact ⟨taken, hgave, hlen, fun _ => hover⟩

/-- A step of a read from `s` to `s'` on a steady stream that gave `out` loses no byte and makes
none up. -/
def Keeps (s s' : NewlineStream) (out : Bytes) : Prop :=
  s'.inner.Steady ∧ out ++ decode s'.unread = decode s.unread

theorem Keeps.trans (h : Keeps s s' out) (h' : Keeps s' s'' out') : Keeps s s'' (out ++ out') :=
  ⟨h'.1, by rw [List.append_assoc, h'.2, h.2]⟩

theorem Gave.keeps (h : Gave s s' taken out) (hs : s.inner.Steady) : Keeps s s' out :=
  ⟨h.took.steady hs, h.unread⟩

theorem readRounds_steady (hs : s.inner.Steady) (room : Nat) :
    ∃ out s', s.readRounds room = (.ok out, s') := by
  fun_induction readRounds room s with
  | case1 s e s' hr =>
    obtain ⟨n, inner, hread, -⟩ := round_error hr
    obtain ⟨_, _, hok, -⟩ := Inflow.readOn_steady hs n
    rw [hread] at hok
    cases hok
  | case2 s out s' hr => exact ⟨out, s', rfl⟩
  | case3 s s' hr _ ih =>
    obtain ⟨taken, hgave, -⟩ := round_gave hr
    exact ih (hgave.keeps hs).1

/-- **One read on a steady stream**: what it gives out, followed by the decoding of what is still
unread, is the decoding of what was unread before. -/
theorem read_steady (hs : s.inner.Steady) (size : Nat) :
    ∃ out s', s.read size = (.ok out, s') ∧ Keeps s s' out ∧ out.length ≤ size ∧
      (0 < size → out = [] → s.unread = []) := by
  obtain ⟨out, s', hr⟩ : ∃ out s', s.read size = (.ok out, s') := by
    cases size with
    | zero => exact ⟨[], s, rfl⟩
    | succ room => exact readRounds_steady hs room
  obtain ⟨taken, hgave, hlen, hover⟩ := read_gave hr
  exact ⟨out, s', hr, hgave.keeps hs, hlen, fun hsize hout => (hover hsize hout).1⟩

end Steps

/-! ## Any number of reads -/

/-- Reads with buffers of the given sizes, one after the other: what each of them gave. -/
def readEach : List Nat → NewlineStream → Except IoFailure (List Bytes) × NewlineStream
  | [], s => (.ok [], s)
  | size :: sizes, s =>
    match s.read size with
    | (.error e, s') => (.error e, s')
    | (.ok out, s') => ((readEach sizes s').1.map (out :: ·), (readEach sizes s').2)

theorem readEach_cons {size : Nat} {sizes : List Nat} {s s' s'' : NewlineStream} {out : Bytes}
    {outs : List Bytes} (h : s.read size = (.ok out, s'))
    (h' : readEach sizes s' = (.ok outs, s'')) :
    readEach (size :: sizes) s = (.ok (out :: outs), s'') := by
  rw [readEach, h]
  dsimp only
  rw [h']
  rfl

/-- **Any number of reads that succeed**: no byte is lost and none is made up. -/
theorem readEach_gave {sizes : List Nat} {s s' : NewlineStream} {outs : List Bytes}
    (h : readEach sizes s = (.ok outs, s')) : ∃ taken, Gave s s' taken outs.flatten := by
  induction sizes generalizing s outs with
  | nil =>
    cases h
    refine ⟨[], .refl _, fun rest _ => ?_⟩
    rw [List.append_nil]
    rfl
  | cons size sizes ih =>
    rw [readEach] at h
    split at h
    · cases h
    · next out s'' hr =>
      obtain ⟨taken, hgave, -⟩ := read_gave hr
      cases hr' : readEach sizes s'' with
      | mk result last =>
        rw [hr'] at h
        cases result with
        | error e => cases h
        | ok outs' =>
          cases h
          obtain ⟨more, hgave'⟩ := ih hr'
          exact ⟨taken ++ more, hgave.trans hgave'⟩

/-- **What any number of reads gives out**, followed by the decoding of what is still unread, is
the decoding of what was unread at first. -/
theorem readEach_steady {s : NewlineStream} (hs : s.inner.Steady) (sizes : List Nat) :
    ∃ outs s', readEach sizes s = (.ok outs, s') ∧ Keeps s s' outs.flatten ∧
      outs.length = sizes.length ∧ ∀ p ∈ outs.zip sizes, p.1.length ≤ p.2 := by
  induction sizes generalizing s with
  | nil => exact ⟨[], s, rfl, ⟨hs, rfl⟩, rfl, fun p h => by cases h⟩
  | cons size sizes ih =>
    obtain ⟨out, s', hr, hk, hl, -⟩ := read_steady hs size
    obtain ⟨outs, s'', hr', hk', hn, hz⟩ := ih hk.1
    refine ⟨out :: outs, s'', readEach_cons hr hr', hk.trans hk', by simp [hn], ?_⟩
    intro p hp
    rcases List.mem_cons.mp hp with rfl | hp
    · exact hl
    · exact hz p hp

/-- Reads that all give something come to an end. -/
theorem length_readEach {sizes : List Nat} {s s' : NewlineStream} {outs : List Bytes}
    (h : readEach sizes s = (.ok outs, s')) (hn : [] ∉ outs) :
    sizes.length + s'.remaining ≤ s.remaining := by
  induction sizes generalizing s outs with
  | nil =>
    cases h
    simp
  | cons size sizes ih =>
    rw [readEach] at h
    split at h
    · cases h
    · next out s'' hr =>
      cases hr' : readEach sizes s'' with
      | mk result t =>
        rw [hr'] at h
        cases result with
        | error e => cases h
        | ok outs' =>
          cases h
          rw [List.mem_cons, not_or] at hn
          have := ih hr' hn.2
          have := remaining_lt_of_read hr (Ne.symm hn.1)
          rw [List.length_cons]
          omega

/-- Once a read with room for bytes has given none, all bytes were given out. -/
theorem flatten_readEach {sizes : List Nat} {s s' : NewlineStream} {outs : List Bytes}
    (hs : s.inner.Steady) (hpos : ∀ size ∈ sizes, 0 < size)
    (h : readEach sizes s = (.ok outs, s')) (hn : [] ∈ outs) :
    outs.flatten = decode s.unread := by
  induction sizes generalizing s outs with
  | nil =>
    cases h
    cases hn
  | cons size sizes ih =>
    obtain ⟨out, s'', hr, hk, -, he⟩ := read_steady hs size
    obtain ⟨outs', t, hr', hk', -⟩ := readEach_steady hk.1 sizes
    rw [readEach_cons hr hr'] at h
    cases h
    rcases List.mem_cons.mp hn with hn | hn
    · have hu := he (hpos size List.mem_cons_self) hn.symm
      have hall := (hk.trans hk').2
      rw [hu] at hall ⊢
      exact (List.append_eq_nil_iff.mp hall).1
    · rw [List.flatten_cons, ih hk.1 (fun n h => hpos n (List.mem_cons_of_mem _ h)) hr' hn]
      exact hk.2

theorem unread_eq_nil {s : NewlineStream} (h : s.unread = []) :
    s.inner.bytes = [] ∧ s.held = none := by
  obtain ⟨hh, hb⟩ := List.append_eq_nil_iff.mp h
  exact ⟨hb, Option.toList_eq_nil_iff.mp hh⟩

/-- Reading to the end gives all bytes. -/
theorem readAll_steady {s : NewlineStream} (hs : s.inner.Steady) {size : Nat} (hpos : 0 < size) :
    ∃ outs s', readAll size s = (outs, none, s') ∧ outs.flatten = decode s.unread ∧
      s'.unread = [] := by
  fun_induction readAll size s with
  | case1 s e s' hr =>
    obtain ⟨_, _, h, -⟩ := read_steady hs size
    rw [hr] at h
    cases h
  | case2 s s' hr =>
    obtain ⟨_, _, h, hk, -, he⟩ := read_steady hs size
    rw [hr] at h
    cases h
    have hu := he hpos rfl
    have hd := hk.2
    rw [hu] at hd
    exact ⟨[], s', rfl, by rw [hu]; rfl, decode_eq_nil.mp hd⟩
  | case3 s b bytes s' hr _ more failure last hm ih =>
    obtain ⟨_, _, h, hk, -⟩ := read_steady hs size
    rw [hr] at h
    cases h
    obtain ⟨outs, s'', hr', hf, hu⟩ := ih hk.1
    rw [hm] at hr'
    cases hr'
    exact ⟨_, _, rfl, by rw [List.flatten_cons, hf, hk.2], hu⟩

/-- How a stream of `bytes` stands after reads that gave `outs`. -/
structure Delivered (bytes : Bytes) (outs : List Bytes) (s : NewlineStream) : Prop where
  /-- What was given out and what is still to come decode like the whole. -/
  whole : outs.flatten ++ decode (s.held.toList ++ s.inner.bytes) = decode bytes
  /-- At most one byte is held. -/
  held : s.held.toList.length ≤ 1
  /-- A read without room changes nothing. -/
  noRoom : s.read 0 = (.ok [], s)
  /-- A read with room gives no bytes only when all were given out. -/
  atEnd : ∀ size s', 0 < size → s.read size = (.ok [], s') →
    (s.inner.bytes = [] ∧ s.held = none) ∧ (s'.inner.bytes = [] ∧ s'.held = none) ∧
      outs.flatten = decode bytes

/--
**A shell stream decodes independently of the pieces and of the buffers.**

`x` may bring its bytes in any pieces, with any number of interruptions between them; the reads may
have buffers of any sizes. Reads that all have room give no bytes sooner or later, and then all of
them were given out. Bytes that a shell has put carriage returns into come back as they were.
-/
theorem reads_decode {x : Inflow} (hx : x.Steady) :
    (∀ sizes, ∃ outs s, readEach sizes { inner := x } = (.ok outs, s) ∧
      outs.length = sizes.length ∧ (∀ p ∈ outs.zip sizes, p.1.length ≤ p.2) ∧
      Delivered x.bytes outs s ∧
      ((∀ size ∈ sizes, 0 < size) →
        ([] ∈ outs → outs.flatten = decode x.bytes) ∧
          (x.bytes.length < sizes.length → [] ∈ outs))) ∧
    (∀ size, 0 < size → ∃ outs s, readAll size { inner := x } = (outs, none, s) ∧
      outs.flatten = decode x.bytes ∧ s.inner.bytes = [] ∧ s.held = none) ∧
    ∀ bytes size, 0 < size → x.bytes = withReturns bytes →
      (readAll size { inner := x }).1.flatten = bytes := by
  refine ⟨fun sizes => ?_, fun size hpos => ?_, fun bytes size hpos hb => ?_⟩
  · obtain ⟨outs, s, hr, hk, hn, hz⟩ := readEach_steady (s := { inner := x }) hx sizes
    have hlen : s.held.toList.length ≤ 1 := by cases s.held <;> simp
    refine ⟨outs, s, hr, hn, hz, ⟨hk.2, hlen, rfl, ?_⟩, fun hpos => ⟨?_, fun hlt => ?_⟩⟩
    · intro size s' hsize hr'
      obtain ⟨_, _, h, hk', -, he⟩ := read_steady hk.1 size
      rw [hr'] at h
      cases h
      have hu := he hsize rfl
      have hd := hk'.2
      have hall := hk.2
      rw [hu] at hd hall
      refine ⟨unread_eq_nil hu, unread_eq_nil (decode_eq_nil.mp hd), ?_⟩
      exact (List.append_nil _).symm.trans hall
    · exact flatten_readEach hx hpos hr
    · refine Classical.byContradiction fun hno => ?_
      have hle := length_readEach hr hno
      have hrem : remaining { inner := x } = x.bytes.length := by simp [remaining]
      omega
  · obtain ⟨outs, s, hr, hf, hu⟩ := readAll_steady (s := { inner := x }) hx hpos
    exact ⟨outs, s, hr, hf, unread_eq_nil hu⟩
  · obtain ⟨outs, s, hr, hf, -⟩ := readAll_steady (s := { inner := x }) hx hpos
    rw [hr]
    show outs.flatten = bytes
    rw [hf, show unread { inner := x } = x.bytes from rfl, hb, decode_withReturns]

/-- A pair that is cut in two by an interruption, read one byte at a time. -/
theorem reads_cut_pair :
    Inflow.Steady ⟨[.bytes [97, 13], .failure ⟨.interrupted, ""⟩, .bytes [10, 13]], none⟩ ∧
      ∃ outs s, readAll 1
          { inner := ⟨[.bytes [97, 13], .failure ⟨.interrupted, ""⟩, .bytes [10, 13]], none⟩ } =
        (outs, none, s) ∧ outs.flatten = [97, 10, 13] := by
  have hx : Inflow.Steady
      ⟨[.bytes [97, 13], .failure ⟨.interrupted, ""⟩, .bytes [10, 13]], none⟩ :=
    ⟨rfl, fun e h => by simp at h; rw [h]; rfl⟩
  obtain ⟨outs, s, hr, hf, -⟩ := (reads_decode hx).2.1 1 Nat.one_pos
  exact ⟨hx, outs, s, hr, hf⟩

end DebugBridge.NewlineStream
