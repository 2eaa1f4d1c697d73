import DebugBridge.Proofs.Sync.InStep

/-!
# Pulls in step with the device

A pull leaves its session in step with the device unless the sink refuses a piece. That failure
alone ends a pull in the middle of an answer without closing the session, and what is left of the
answer is what the next operation reads.

* `pull_settled_or_stranded` — a pull has no third way to end
* `pull_stores` — what comes to the sink are bytes of the blocks in front
* `pull_settled_iff` — when a pull is in step, and what it means for the next one
* `pull_delivers_stale_piece` — a second pull that delivers a piece of the first file
-/

namespace DebugBridge

open SyncSession (maxChunk maxPath)

namespace Transfer

/-! ## Sessions in the middle of an answer -/

/-- A pull ended in the middle of an answer with its session open, since the sink had refused a
piece. -/
structure Stranded (sink : Sink) (s : SyncSession)
    (out : Except Failure Nat × Sink × SyncSession) : Prop where
  isOpen : out.2.2.isOpen = true
  refused : ∃ pieces piece e sink₁,
    (∀ piece' ∈ pieces ++ [piece], piece'.length ≤ maxChunk) ∧
    s.unread = dataBlocks (pieces ++ [piece]) ++ out.2.2.unread ∧
    sink.storeAll pieces = (.ok (), sink₁) ∧ sink₁.store piece = (.error e, out.2.1) ∧
    out.1 = .error (.localFile e)

/-- The sink refuses nothing of a file that comes in blocks at the front of `bytes`. -/
def Takes (sink : Sink) (bytes : Bytes) : Prop :=
  ∀ pieces tail, (∀ piece ∈ pieces, piece.length ≤ maxChunk) → bytes = dataBlocks pieces ++ tail →
    ∃ sink', sink.storeAll pieces = (.ok (), sink')

theorem takes_unlimited {sink : Sink} (h : sink.limit = none) (bytes : Bytes) :
    Takes sink bytes := by
  intro pieces tail _ _
  obtain ⟨sink', hr, -⟩ := Sink.storeAll_unlimited h pieces
  exact ⟨sink', hr⟩

/-- A sink that takes all that is in front of it strands no session. -/
theorem Takes.not_stranded {sink : Sink} {s : SyncSession} (h : Takes sink s.unread)
    {out : Except Failure Nat × Sink × SyncSession} : ¬ Stranded sink s out := by
  rintro ⟨-, pieces, piece, e, sink₁, hp, hu, hstore, hrefuse, -⟩
  obtain ⟨_, hr⟩ := h _ _ hp hu
  rw [Sink.storeAll_append hstore, Sink.storeAll, hrefuse] at hr
  cases hr

/-- The bytes of a whole answer to a pull. -/
def WholeFile (front : Bytes) : Prop :=
  ∃ pieces verdict, SyncAnswer.content.sending.Whole pieces verdict front

/-- Two whole answers in front of the same bytes leave the same bytes behind them. -/
theorem WholeFile.rest_eq {front front' rest rest' : Bytes} (h : WholeFile front)
    (h' : WholeFile front') (hu : front ++ rest = front' ++ rest') : rest = rest' := by
  obtain ⟨pieces, verdict, hw⟩ := h
  obtain ⟨pieces', verdict', hw'⟩ := h'
  have hp' := hw'.parts rest'
  rw [← hu] at hp'
  cases ((hw.parts rest).unique hp').2
  rfl

/-- Blocks of a file without an end are no whole answer. -/
theorem not_wholeFile {pieces : List Bytes} (hp : ∀ piece ∈ pieces, piece.length ≤ maxChunk) :
    ¬ WholeFile (dataBlocks pieces) := by
  rintro ⟨pieces', verdict, hw⟩
  refine SyncAnswer.content.sending.not_broken hw [] (.connectionClosed "reading frame")
    ⟨hp, [], ?_, .cutCommand (by decide)⟩
  rfl

theorem dataBlocks_ne_nil (pieces : List Bytes) (piece : Bytes) :
    dataBlocks (pieces ++ [piece]) ≠ [] := by
  rw [dataBlocks, List.flatMap_append, List.flatMap_cons, List.flatMap_nil, SyncBlock.block_append]
  intro h
  have := congrArg List.length (List.append_eq_nil_iff.mp (List.append_eq_nil_iff.mp h).2).1
  rw [SyncCommand.length_id] at this
  cases this

/-- A stranded session is out of step. -/
theorem Stranded.not_settled {sink : Sink} {s : SyncSession} {request : Bytes → Prop}
    {out : Except Failure Nat × Sink × SyncSession} (h : Stranded sink s out) :
    ¬ SyncSession.Settled s request (fun _ => WholeFile) (out.1, out.2.2) := by
  obtain ⟨result, sink', s'⟩ := out
  obtain ⟨ho, pieces, piece, e, sink₁, hp, hu, -⟩ := h
  intro hsettled
  -- the blocks that were read are neither nothing nor a whole answer
  cases hsettled with
  | closed hc => exact Bool.false_ne_true (hc.symm.trans ho)
  | untouched he =>
    exact dataBlocks_ne_nil pieces piece (List.append_left_eq_self.mp hu.symm)
  | exchanged ho' hs hw ha hu' =>
    rw [hu'] at hu
    rw [List.append_cancel_right hu] at ha
    exact not_wholeFile hp ha

theorem pull_settled_or_stranded (cancelled : Cancelled) (reporting : Reporting) (path : String)
    (sink : Sink) {t : Transfer} (ht : t.session.isOpen = true)
    {out : Except Failure Nat × Sink × Transfer}
    (h : pull cancelled reporting path sink t = out) :
    SyncSession.Settled t.session (· = SyncCommand.receive.block (Utf8.ofString path))
        (fun _ => WholeFile) (out.1, out.2.2.session) ∨
      Stranded sink t.session (out.1, out.2.1, out.2.2.session) := by
  obtain ⟨result, sink', ⟨s', moment, reports⟩⟩ := out
  rcases pull_cases cancelled reporting path sink ht h with ⟨e, hwhy, hout⟩ | hpulled
  · obtain ⟨rfl, rfl, rfl⟩ := hout
    refine .inl (.untouched ?_)
    rcases hwhy with ⟨he, -⟩ | ⟨he, -⟩
    · exact .inl ⟨_, he⟩
    · exact .inr he
  · cases hpulled with
    | @ended pieces ending result' _ _ hparts hstore hf =>
      refine .inl ?_
      generalize hend : (ending.map fun _ => 0 + pieces.flatten.length) = ending' at hf
      cases hf with
      | whole ho =>
        cases ending with
        | whole verdict rest =>
          cases hend
          obtain ⟨pieces', front, hw, -, hu⟩ :=
            SyncAnswer.content.sending.parts_whole.mp hparts
          exact .exchanged ho.isOpen rfl ho.written ⟨pieces', verdict, hw⟩ hu
        | senseless e => cases hend
        | cut => cases hend
      | broken he hc => exact .closed hc
    | closed hp hu hstore hc hwhy => exact .inl (.closed hc)
    | refused hp hu hstore hrefuse ho =>
      exact .inr ⟨ho.isOpen, _, _, _, _, hp, hu, hstore, hrefuse, rfl⟩

/-- A pull on a closed session stores nothing. -/
theorem pull_closed (cancelled : Cancelled) (reporting : Reporting) (path : String) (sink : Sink)
    {t : Transfer} (ht : t.session.isOpen = false) :
    (pull cancelled reporting path sink t).2.1 = sink := by
  obtain ⟨⟨link, isOpen⟩, moment, reports⟩ := t
  cases ht
  rw [pull]
  simp only [begin_bind]
  split
  · next h =>
    rfl
  · next h =>
    split at h
    · cases h
    · split at h
      · cases h
      · cases h

/-- **What a pull stores are bytes of the blocks in front of it.** -/
theorem pull_stores (cancelled : Cancelled) (reporting : Reporting) (path : String) (sink : Sink)
    {t : Transfer} (ht : t.session.isOpen = true) {out : Except Failure Nat × Sink × Transfer}
    (h : pull cancelled reporting path sink t = out) :
    ∃ pieces tail k, t.session.unread = dataBlocks pieces ++ tail ∧
      out.2.1.stored.toList = sink.stored.toList ++ pieces.flatten.take k := by
  obtain ⟨result, sink', ⟨s', moment, reports⟩⟩ := out
  rcases pull_cases cancelled reporting path sink ht h with ⟨e, -, hout⟩ | hpulled
  · obtain ⟨rfl, rfl, rfl⟩ := hout
    refine ⟨[], t.session.unread, 0, rfl, ?_⟩
    rw [List.take_zero, List.append_nil]
  · cases hpulled with
    | @ended pieces ending result' _ _ hparts hstore hf =>
      obtain ⟨pieces', tail, -, hpieces, hu, -⟩ :=
        SyncAnswer.content.sending.parts_iff.mp hparts
      obtain ⟨k, hstored, -⟩ := Sink.stored_storeAll hstore
      rw [hpieces, show pieces'.map SyncAnswer.content.sending.meaning = pieces' from
        List.map_id pieces'] at hstored
      exact ⟨pieces', tail, k, hu, hstored⟩
    | closed hp hu hstore hc hwhy =>
      obtain ⟨k, hstored, -⟩ := Sink.stored_storeAll hstore
      exact ⟨_, _, k, hu, hstored⟩
    | @refused pieces piece e sink₁ _ _ hp hu hstore hrefuse ho =>
      -- the refused piece counts: its front has come to the sink
      have hall : sink.storeAll (pieces ++ [piece]) = (.error e, sink') := by
        rw [Sink.storeAll_append hstore, Sink.storeAll, hrefuse]
      obtain ⟨k, hstored, -⟩ := Sink.stored_storeAll hall
      exact ⟨_, _, k, hu, hstored⟩

/--
**A pull leaves its session in step exactly if its sink refused no piece.**

A sink that takes all blocks in front refuses none, whatever else fails. In step, a next operation
reads nothing of the first answer: the session is closed, or the first pull did nothing, or what is
unread is what came behind the answer, and a second pull stores bytes of the blocks in that only.
-/
theorem pull_settled_iff (cancelled : Cancelled) (reporting : Reporting) (path : String)
    (sink : Sink) {t : Transfer} (ht : t.session.isOpen = true)
    {out : Except Failure Nat × Sink × Transfer}
    (h : pull cancelled reporting path sink t = out) :
    (SyncSession.Settled t.session (· = SyncCommand.receive.block (Utf8.ofString path))
        (fun _ => WholeFile) (out.1, out.2.2.session) ↔
      ¬ Stranded sink t.session (out.1, out.2.1, out.2.2.session)) ∧
    (Takes sink t.session.unread →
      ¬ Stranded sink t.session (out.1, out.2.1, out.2.2.session)) ∧
    ∀ front rest, ¬ Stranded sink t.session (out.1, out.2.1, out.2.2.session) →
      WholeFile front → t.session.unread = front ++ rest → out.2.2.session ≠ t.session →
      (out.2.2.session.isOpen = true → out.2.2.session.unread = rest) ∧
      ∀ cancelled' reporting' path' sink' out',
        pull cancelled' reporting' path' sink' out.2.2 = out' →
        ∃ pieces tail k, rest = dataBlocks pieces ++ tail ∧
          out'.2.1.stored.toList = sink'.stored.toList ++ pieces.flatten.take k := by
  have hcases := pull_settled_or_stranded cancelled reporting path sink ht h
  refine ⟨⟨fun hs hstranded => hstranded.not_settled hs, hcases.resolve_right⟩,
    fun htakes => htakes.not_stranded, ?_⟩
  intro front rest hno hfront hu hne
  have hrest : out.2.2.session.isOpen = true → out.2.2.session.unread = rest := by
    intro ho
    have hsettled := hcases.resolve_right hno
    obtain ⟨result, sink', ⟨s', moment, reports⟩⟩ := out
    cases hsettled with
    | closed hc => exact absurd (hc.symm.trans ho) Bool.false_ne_true
    | untouched he => exact absurd rfl hne
    | exchanged ho' hs hw ha hu' => exact (hfront.rest_eq ha (hu.symm.trans hu')).symm
  refine ⟨hrest, fun cancelled' reporting' path' sink' out' h' => ?_⟩
  by_cases ho : out.2.2.session.isOpen = true
  · obtain ⟨pieces, tail, k, hu', hstored⟩ := pull_stores cancelled' reporting' path' sink' ho h'
    exact ⟨pieces, tail, k, (hrest ho).symm.trans hu', hstored⟩
  · have hclosed := pull_closed cancelled' reporting' path' sink' (Bool.eq_false_iff.mpr ho)
    rw [h'] at hclosed
    exact ⟨[], rest, 0, rfl, by rw [hclosed, List.take_zero, List.append_nil]⟩

/-- On a calm connection a sink that refuses a piece of the answer does leave the session in the
middle of it. -/
theorem pull_stranded_of_refusal (reporting : Reporting) {t : Transfer}
    (ht : t.session.isOpen = true) (hc : t.session.link.Calm) {path : String}
    (hpath : Utf8.size path ≤ maxPath) {sink : Sink} {pieces : List Bytes}
    {verdict : Except Failure Unit} {front rest : Bytes}
    (hw : SyncAnswer.content.sending.Whole pieces verdict front)
    (hu : t.session.unread = front ++ rest)
    (hrefuse : ∀ sink', sink.storeAll pieces ≠ (.ok (), sink'))
    {out : Except Failure Nat × Sink × Transfer}
    (h : pull (fun _ => false) reporting path sink t = out) :
    Stranded sink t.session (out.1, out.2.1, out.2.2.session) ∧ out.2.2.session.link.Calm := by
  obtain ⟨result, sink', ⟨s', moment, reports⟩⟩ := out
  rcases pull_cases _ reporting path sink ht h with ⟨e, hwhy, -⟩ | hpulled
  · rcases hwhy with ⟨-, hlong⟩ | ⟨-, moment, hstop⟩
    · exact absurd hpath (Nat.not_le.mpr hlong)
    · cases hstop
  · cases hpulled with
    | ended hparts hstore hf =>
      have hp := hw.parts rest
      rw [← hu] at hp
      obtain ⟨hpieces, -⟩ := hp.unique hparts
      rw [← hpieces, show pieces.map SyncAnswer.content.sending.meaning = pieces from
        List.map_id pieces] at hstore
      exact absurd hstore (hrefuse _)
    | closed _ _ _ _ hwhy =>
      rcases hwhy with hd | ⟨moment, hstop⟩
      · exact absurd hc hd
      · cases hstop
    | refused hp hu hstore hrefuse ho =>
      exact ⟨⟨ho.isOpen, _, _, _, _, hp, hu, hstore, hrefuse, rfl⟩, ho.calm hc⟩

/-- The whole answer with a file of the given pieces. -/
theorem whole_dataBlocks {pieces : List Bytes} (h : ∀ piece ∈ pieces, piece.length ≤ maxChunk) :
    SyncAnswer.content.sending.Whole pieces (.ok ())
      (dataBlocks pieces ++ SyncCommand.done.word 0) :=
  ⟨h, SyncCommand.done.id ++ Bytes.ofWord 0, .value rfl, rfl⟩

theorem dataBlocks_cons (piece : Bytes) (pieces : List Bytes) (rest : Bytes) :
    dataBlocks (piece :: pieces) ++ rest =
      SyncCommand.data.block piece ++ (dataBlocks pieces ++ rest) := by
  rw [dataBlocks, List.flatMap_cons, List.append_assoc]
  rfl

/-- The first of the blocks in front of some bytes is determined by the bytes. -/
theorem dataBlocks_cons_inj {piece piece' : Bytes} {pieces pieces' : List Bytes}
    {rest rest' : Bytes} (h : piece.length ≤ maxChunk) (h' : piece'.length ≤ maxChunk)
    (hu : dataBlocks (piece :: pieces) ++ rest = dataBlocks (piece' :: pieces') ++ rest') :
    piece = piece' ∧ dataBlocks pieces ++ rest = dataBlocks pieces' ++ rest' := by
  rw [dataBlocks_cons, dataBlocks_cons] at hu
  have hf := SyncAnswer.content_part.mpr ⟨h', hu⟩
  rw [SyncAnswer.content_part.mpr ⟨h, rfl⟩] at hf
  obtain ⟨hv, hrest⟩ := Ending.whole.inj hf
  exact ⟨Option.some.inj (Except.ok.inj hv), hrest⟩

/-- Two files in a row: the second one is what the first pull leaves unread. -/
theorem pull_settled_two_files :
    ∃ t : Transfer, t.session.isOpen = true ∧
      SyncSession.Settled t.session (· = SyncCommand.receive.block (Utf8.ofString "/f"))
        (fun _ => WholeFile)
        ((pull (fun _ => false) .alone "/f" {} t).1,
          (pull (fun _ => false) .alone "/f" {} t).2.2.session) ∧
      (pull (fun _ => false) .alone "/f" {} t).2.2.session.unread =
        dataBlocks [[99, 100]] ++ SyncCommand.done.word 0 := by
  let first : Bytes := dataBlocks [[97, 98]] ++ SyncCommand.done.word 0
  let second : Bytes := dataBlocks [[99, 100]] ++ SyncCommand.done.word 0
  let inflow : Inflow := .ofBytes (first ++ second)
  have hc : Link.Calm { inflow } := Link.calm_ofBytes _
  let t : Transfer := { session := { link := { inflow } } }
  have hu : t.session.unread = first ++ second := List.append_nil _
  have hfirst := @whole_dataBlocks [[97, 98]] (by decide)
  have haccepts := @SyncSession.accepts_pull .alone t rfl hc "/f" (by decide) {} rfl rfl _ rfl
  obtain ⟨-, ho, hrest, -⟩ := haccepts.whole _ _ first second ⟨.ok (), hfirst, rfl⟩ hu
  obtain ⟨hiff, htakes, hnext⟩ := @pull_settled_iff (fun _ => false) .alone "/f" {} t rfl _ rfl
  have hne : (pull (fun _ => false) .alone "/f" {} t).2.2.session ≠ t.session := by
    intro heq
    have hsame : second = first ++ second :=
      hrest.symm.trans ((congrArg SyncSession.unread heq).trans hu)
    exact absurd (List.append_left_eq_self.mp hsame.symm) (List.cons_ne_nil _ _)
  have hno := htakes (takes_unlimited rfl _)
  exact ⟨t, rfl, hiff.mpr hno, (hnext first second hno ⟨_, _, hfirst⟩ hu hne).1 ho⟩

/-- A sink that refuses the first of two pieces: the session stays open in front of the second one,
and the next pull takes it for the start of its own file. -/
theorem pull_delivers_stale_piece :
    ∃ (t : Transfer) (sink : Sink), t.session.isOpen = true ∧
      t.session.unread = dataBlocks [[97, 98], [99, 100]] ++ SyncCommand.done.word 0 ∧
      ¬ SyncSession.Settled t.session (· = SyncCommand.receive.block (Utf8.ofString "/f"))
        (fun _ => WholeFile)
        ((pull (fun _ => false) .alone "/f" sink t).1,
          (pull (fun _ => false) .alone "/f" sink t).2.2.session) ∧
      (pull (fun _ => false) .alone "/g" {}
        (pull (fun _ => false) .alone "/f" sink t).2.2).2.1.stored.toList = [99, 100] := by
  let bytes : Bytes := dataBlocks [[97, 98], [99, 100]] ++ SyncCommand.done.word 0
  let t : Transfer := { session := { link := { inflow := .ofBytes bytes } } }
  have hu : t.session.unread = bytes := List.append_nil _
  let sink : Sink := { limit := some (0, ⟨.storageFull, "full"⟩) }
  obtain ⟨hstranded, hcalm⟩ := @pull_stranded_of_refusal .alone t rfl (Link.calm_ofBytes _) "/f"
    (by decide) sink _ _ bytes [] (whole_dataBlocks (by decide))
    (hu.trans (List.append_nil _).symm) (fun _ h => by cases h) _ rfl
  refine ⟨t, sink, rfl, hu, hstranded.not_settled, ?_⟩
  obtain ⟨ho, pieces, piece, e, sink₁, hp, hleft, hstore, -⟩ := hstranded
  have hleft := hu.symm.trans hleft
  -- this sink refuses the first piece already
  cases pieces with
  | cons piece' pieces =>
    obtain ⟨rfl, -⟩ := dataBlocks_cons_inj (by decide) (hp piece' List.mem_cons_self) hleft
    cases hstore
  | nil =>
    obtain ⟨rfl, hrest⟩ := dataBlocks_cons_inj (by decide) (hp piece List.mem_cons_self) hleft
    have haccepts := @SyncSession.accepts_pull .alone _ ho hcalm "/g" (by decide) {} rfl rfl _ rfl
    have hsecond := @whole_dataBlocks [[99, 100]] (by decide)
    exact (haccepts.whole _ _ _ [] ⟨.ok (), hsecond, rfl⟩
      (hrest.symm.trans (List.append_nil _).symm)).2.2.2

end Transfer

end DebugBridge
