import DebugBridge.Proofs.Sync.Transfer

/-!
# Sessions accept exactly their grammar

On a calm connection only the bytes of the answer decide what an operation comes to. `Accepts` says
what they decide: a whole answer in front gives its verdict, whatever comes behind it, and leaves
the session open right behind it; any other bytes break in one way, and then the session is closed.
-/

namespace DebugBridge

open SyncSession (maxChunk maxPath Fits Onward)
open SyncAnswer (failure?)

variable {α β γ ι : Type}

namespace SyncAnswer.Sending

variable {g : SyncAnswer (Option α)} (r : g.Sending γ)

/-- A whole answer with parts `xs`, of which a caller gets `value xs`. -/
def Reply (value : List γ → β) (xs : List γ) (verdict : Except Failure β) (front : Bytes) : Prop :=
  ∃ ending, r.Whole xs ending front ∧ verdict = ending.map fun _ => value xs

/-- A reply that gives a value ends with a block `DONE`. -/
theorem reply_ok {value : List γ → β} {xs : List γ} {b : β} {front : Bytes} :
    r.Reply value xs (.ok b) front ↔
      (∀ x ∈ xs, r.fits x) ∧ b = value xs ∧ ∃ words : Bytes, words.length = r.words ∧
        front = xs.flatMap r.block ++ SyncCommand.done.id ++ words := by
  constructor
  · rintro ⟨ending, ⟨hxs, closing, hclosing, rfl⟩, hb⟩
    cases hclosing with
    | value hl =>
      cases hb
      exact ⟨hxs, rfl, _, hl, (List.append_assoc _ _ _).symm⟩
    | refusal hmax => cases hb
  · rintro ⟨hxs, rfl, words, hl, rfl⟩
    exact ⟨.ok (), ⟨hxs, _, .value hl, List.append_assoc _ _ _⟩, rfl⟩

/-- Bytes that break behind the blocks of `xs`. -/
def Broken (xs : List γ) (bytes : Bytes) (e : Failure) : Prop :=
  (∀ x ∈ xs, r.fits x) ∧ ∃ tail, bytes = xs.flatMap r.block ++ tail ∧ g.Breaks tail e

end SyncAnswer.Sending

namespace SyncSession

/-- An operation on `s` accepts exactly the whole answers. Of an answer with the parts `xs` it has
`kept xs`, whether the answer was whole or broke behind them. -/
structure Accepts (reply : ι → Except Failure α → Bytes → Prop)
    (breaks : ι → Bytes → Failure → Prop) (kept : ι → Prop) (s : SyncSession)
    (out : Except Failure α × SyncSession) : Prop where
  /-- A whole answer in front gives its verdict, and exactly what is behind it stays unread. -/
  whole : ∀ xs verdict front rest, reply xs verdict front → s.unread = front ++ rest →
    out.1 = verdict ∧ out.2.isOpen = true ∧ out.2.unread = rest ∧ kept xs
  /-- Bytes that break close the session. -/
  broken : ∀ xs e, breaks xs s.unread e → out.1 = .error e ∧ out.2.isOpen = false ∧ kept xs
  /-- There are no other bytes. -/
  total : (∃ xs verdict front rest, reply xs verdict front ∧ s.unread = front ++ rest) ∨
    ∃ xs e, breaks xs s.unread e

theorem Accepts.ok_iff {reply : ι → Except Failure α → Bytes → Prop}
    {breaks : ι → Bytes → Failure → Prop} {kept : ι → Prop} {s : SyncSession}
    {out : Except Failure α × SyncSession} (h : Accepts reply breaks kept s out) (a : α) :
    out.1 = .ok a ↔ ∃ xs front rest, reply xs (.ok a) front ∧ s.unread = front ++ rest := by
  constructor
  · intro hok
    rcases h.total with ⟨xs, verdict, front, rest, hw, hu⟩ | ⟨xs, e, hb⟩
    · obtain ⟨hv, -⟩ := h.whole xs verdict front rest hw hu
      rw [hok] at hv
      subst hv
      exact ⟨xs, front, rest, hw, hu⟩
    · obtain ⟨hv, -⟩ := h.broken xs e hb
      rw [hok] at hv
      cases hv
  · rintro ⟨xs, front, rest, hw, hu⟩
    exact (h.whole xs (.ok a) front rest hw hu).1

theorem Fits.of_whole {s : SyncSession} {request rest : Bytes} {verdict : Except Failure α}
    {out : Except Failure α × SyncSession} (h : Fits s request (.whole verdict rest) out) :
    out.1 = verdict ∧ out.2.isOpen = true ∧ out.2.unread = rest := by
  cases h with
  | whole ho => exact ⟨rfl, ho.isOpen, rfl⟩
  | broken he hc => cases he

theorem Fits.of_failure {s : SyncSession} {request : Bytes} {ending : Ending α} {e : Failure}
    {out : Except Failure α × SyncSession} (h : Fits s request ending out)
    (he : failure? ending = some e) : out.1 = .error e ∧ out.2.isOpen = false := by
  cases h with
  | whole ho => cases he
  | broken he' hc =>
    rw [he] at he'
    cases he'
    exact ⟨rfl, hc⟩

/-- A run that reads one block by the grammar accepts exactly that block. -/
theorem accepts_single {command : SyncCommand} (hcommand : command ≠ .fail) {n : Nat}
    {value : Bytes → α} {expected : String} {s : SyncSession} {request : Bytes}
    {out : Except Failure α × SyncSession}
    (h : Fits s request ((SyncAnswer.single command n value expected).front s.unread) out) :
    Accepts (fun _ : Unit => Closing command n value)
      (fun _ => (SyncAnswer.single command n value expected).Breaks) (fun _ => True) s out where
  whole xs verdict front rest hw hu := by
    rw [(SyncAnswer.front_closing hcommand).mpr ⟨front, hw, hu⟩] at h
    obtain ⟨hv, ho, hr⟩ := h.of_whole
    exact ⟨hv, ho, hr, trivial⟩
  broken xs e hb := by
    obtain ⟨hv, hc⟩ := h.of_failure (SyncAnswer.breaks_iff.mp hb)
    exact ⟨hv, hc, trivial⟩
  total := by
    cases hf : (SyncAnswer.single command n value expected).front s.unread with
    | whole verdict rest =>
      obtain ⟨front, hw, hu⟩ := (SyncAnswer.front_closing hcommand).mp hf
      exact .inl ⟨(), verdict, front, rest, hw, hu⟩
    | senseless e => exact .inr ⟨(), e, SyncAnswer.breaks_iff.mpr (by rw [hf, failure?])⟩
    | cut =>
      exact .inr ⟨(), .connectionClosed "reading frame",
        SyncAnswer.breaks_iff.mpr (by rw [hf, failure?])⟩

/-- A run that reads many blocks by the grammar accepts exactly the answers of many blocks. -/
theorem accepts_parts {g : SyncAnswer (Option α)} (r : g.Sending γ) {value : List γ → β}
    {kept : List γ → Prop} {s : SyncSession} {request : Bytes}
    {out : Except Failure β × SyncSession} {as : List α} {ending : Ending Unit}
    (hp : g.Parts s.unread as ending)
    (h : ∀ xs, as = xs.map r.meaning →
      Fits s request (ending.map fun _ => value xs) out ∧ kept xs) :
    Accepts (r.Reply value) r.Broken kept s out where
  whole xs verdict front rest hw hu := by
    obtain ⟨verdict, hw, rfl⟩ := hw
    -- the parts that were read are those of this answer, since there is only one
    obtain ⟨rfl, rfl⟩ := hp.unique (r.parts_whole.mpr ⟨xs, front, hw, rfl, hu⟩)
    obtain ⟨hf, hk⟩ := h xs rfl
    obtain ⟨hv, ho, hr⟩ := hf.of_whole
    exact ⟨hv, ho, hr, hk⟩
  broken xs e hb := by
    obtain ⟨hxs, tail, hu, hb⟩ := hb
    obtain ⟨_, hp', he⟩ := r.parts_breaks.mpr ⟨xs, tail, hxs, rfl, hu, hb⟩
    obtain ⟨rfl, rfl⟩ := hp.unique hp'
    obtain ⟨hf, hk⟩ := h xs rfl
    have he : failure? (ending.map fun _ => value xs) = some e := by
      cases ending <;> exact he
    obtain ⟨hv, hc⟩ := hf.of_failure he
    exact ⟨hv, hc, hk⟩
  total := by
    cases he : failure? ending with
    | none =>
      cases ending with
      | whole verdict rest =>
        obtain ⟨xs, front, hw, -, hu⟩ := r.parts_whole.mp hp
        exact .inl ⟨xs, verdict.map fun _ => value xs, front, rest, ⟨verdict, hw, rfl⟩, hu⟩
      | senseless e => cases he
      | cut => cases he
    | some e =>
      obtain ⟨xs, tail, hxs, -, hu, hb⟩ := r.parts_breaks.mp ⟨ending, hp, he⟩
      exact .inr ⟨xs, e, hxs, tail, hu, hb⟩

/-- A run that accepts answers of many blocks succeeds exactly on those that end with `DONE`. -/
theorem Accepts.ok_iff_blocks {g : SyncAnswer (Option α)} {r : g.Sending γ} {value : List γ → β}
    {kept : List γ → Prop} {s : SyncSession} {out : Except Failure β × SyncSession}
    (h : Accepts (r.Reply value) r.Broken kept s out) (b : β) :
    out.1 = .ok b ↔ ∃ (xs : List γ) (words rest : Bytes), (∀ x ∈ xs, r.fits x) ∧
      words.length = r.words ∧ b = value xs ∧
      s.unread = xs.flatMap r.block ++ SyncCommand.done.id ++ words ++ rest := by
  rw [h.ok_iff]
  constructor
  · rintro ⟨xs, front, rest, hreply, hu⟩
    obtain ⟨hxs, rfl, words, hl, rfl⟩ := r.reply_ok.mp hreply
    exact ⟨xs, words, rest, hxs, hl, rfl, hu⟩
  · rintro ⟨xs, words, rest, hxs, hl, rfl, hu⟩
    exact ⟨xs, _, rest, r.reply_ok.mpr ⟨hxs, rfl, words, hl, rfl⟩, hu⟩

theorem accepts_stat {s : SyncSession} (hs : s.isOpen = true) (hc : s.link.Calm) {path : String}
    (hp : Utf8.size path ≤ maxPath) :
    Accepts (fun _ : Unit => Closing .stat 12 FileStat.ofBytes)
      (fun _ => SyncAnswer.status.Breaks) (fun _ => True) s (stat path s) := by
  rcases stat_fits hs hp with hf | hd
  · exact accepts_single (by decide) hf
  · exact absurd hc hd.disturbed

theorem accepts_list {s : SyncSession} (hs : s.isOpen = true) (hc : s.link.Calm) {path : String}
    (hp : Utf8.size path ≤ maxPath) :
    Accepts (SyncAnswer.listing.sending.Reply (·.map SentEntry.entry))
      SyncAnswer.listing.sending.Broken (fun _ => True) s (list path s) := by
  rcases list_fits hs hp with ⟨entries, ending, hparts, hf⟩ | hd
  · have hsent : ∀ xs : List SentEntry, entries = xs.map SentEntry.entry →
        Fits s (SyncCommand.list.block (Utf8.ofString path))
          (ending.map fun _ => xs.map SentEntry.entry) (list path s) ∧ True := by
      rintro xs rfl
      exact ⟨hf, trivial⟩
    exact accepts_parts _ hparts hsent
  · exact absurd hc hd.disturbed

/-- **The answer to a pull is read by the grammar**, on a calm connection and into a sink that takes
everything: the sink has all pieces, however the answer ends. -/
theorem pull_fits (reporting : Reporting) {t : Transfer} (hs : t.session.isOpen = true)
    (hc : t.session.link.Calm) {path : String} (hp : Utf8.size path ≤ maxPath) {sink : Sink}
    (hlimit : sink.limit = none) (hflush : sink.flushFailure = none)
    {out : Except Failure Nat × Sink × Transfer}
    (h : Transfer.pull (fun _ => false) reporting path sink t = out) :
    ∃ pieces ending, SyncAnswer.content.Parts t.session.unread pieces ending ∧
      Fits t.session (SyncCommand.receive.block (Utf8.ofString path))
        (ending.map fun _ => pieces.flatten.length) (out.1, out.2.2.session) ∧
      out.2.1.stored.toList = sink.stored.toList ++ pieces.flatten := by
  obtain ⟨result, sink', t'⟩ := out
  rcases Transfer.pull_cases _ reporting path sink hs h with ⟨e, hwhy, -⟩ | hpulled
  · rcases hwhy with ⟨-, hlong⟩ | ⟨-, moment, hstop⟩
    · exact absurd hp (Nat.not_le.mpr hlong)
    · cases hstop
  · cases hpulled with
    | @ended pieces ending result' _ _ hparts hstore hf =>
      obtain ⟨_, hr, hflush'⟩ := Sink.storeAll_unlimited hlimit pieces
      rw [hr] at hstore
      cases hstore
      obtain ⟨k, hstored, hall⟩ := Sink.stored_storeAll hr
      rw [Sink.flushed_of_none (hflush'.trans hflush)]
      rw [Nat.zero_add] at hf
      exact ⟨pieces, ending, hparts, hf, by rw [hstored, hall rfl]⟩
    | closed _ _ _ _ hwhy =>
      rcases hwhy with hd | ⟨moment, hstop⟩
      · exact absurd hc hd
      · cases hstop
    | @refused pieces piece e sink₁ sink'' s' _ _ hstore hrefuse _ =>
      obtain ⟨_, hr, -⟩ := Sink.storeAll_unlimited hlimit (pieces ++ [piece])
      rw [Sink.storeAll_append hstore, Sink.storeAll, hrefuse] at hr
      cases hr

theorem accepts_pull (reporting : Reporting) {t : Transfer} (hs : t.session.isOpen = true)
    (hc : t.session.link.Calm) {path : String} (hp : Utf8.size path ≤ maxPath) {sink : Sink}
    (hlimit : sink.limit = none) (hflush : sink.flushFailure = none)
    {out : Except Failure Nat × Sink × Transfer}
    (h : Transfer.pull (fun _ => false) reporting path sink t = out) :
    Accepts (SyncAnswer.content.sending.Reply (·.flatten.length))
      SyncAnswer.content.sending.Broken
      (fun pieces => out.2.1.stored.toList = sink.stored.toList ++ pieces.flatten) t.session
      (out.1, out.2.2.session) := by
  obtain ⟨pieces, ending, hparts, hf, hstored⟩ := pull_fits reporting hs hc hp hlimit hflush h
  have hsent : ∀ xs : List Bytes, pieces = xs.map id →
      Fits t.session (SyncCommand.receive.block (Utf8.ofString path))
        (ending.map fun _ => xs.flatten.length) (out.1, out.2.2.session) ∧
      out.2.1.stored.toList = sink.stored.toList ++ xs.flatten := by
    intro xs hxs
    obtain rfl : pieces = xs := hxs.trans (List.map_id _)
    exact ⟨hf, hstored⟩
  exact accepts_parts _ hparts hsent

/--
**On a calm connection the answers decide, and the sessions accept exactly their grammar.**

`stat` accepts a block `STAT`, `list` blocks `DENT` and a block `DONE`, `pull` blocks `DATA` and a
block `DONE`; each of them also takes a refusal for an answer. All bytes of the pieces come to the
sink in order, also those of an answer that breaks. What is behind an answer stays unread.
-/
theorem replies_exact {t : Transfer} (hs : t.session.isOpen = true) (hc : t.session.link.Calm)
    {path : String} (hp : Utf8.size path ≤ maxPath) {sink : Sink} (hlimit : sink.limit = none)
    (hflush : sink.flushFailure = none) :
    (Accepts (fun _ : Unit => Closing .stat 12 FileStat.ofBytes)
        (fun _ => SyncAnswer.status.Breaks) (fun _ => True) t.session (stat path t.session) ∧
      ∀ status, (stat path t.session).1 = .ok status ↔
        ∃ words rest : Bytes, words.length = 12 ∧ status = .ofBytes words ∧
          t.session.unread = SyncCommand.stat.id ++ words ++ rest) ∧
    (Accepts (SyncAnswer.listing.sending.Reply (·.map SentEntry.entry))
        SyncAnswer.listing.sending.Broken (fun _ => True) t.session (list path t.session) ∧
      ∀ entries, (list path t.session).1 = .ok entries ↔
        ∃ (sent : List SentEntry) (words rest : Bytes), (∀ x ∈ sent, x.name.length ≤ maxChunk) ∧
          words.length = 16 ∧ entries = sent.map SentEntry.entry ∧
          t.session.unread =
            sent.flatMap SentEntry.block ++ SyncCommand.done.id ++ words ++ rest) ∧
    ∀ (reporting : Reporting) (out : Except Failure Nat × Sink × Transfer),
      Transfer.pull (fun _ => false) reporting path sink t = out →
      Accepts (SyncAnswer.content.sending.Reply (·.flatten.length))
        SyncAnswer.content.sending.Broken
        (fun pieces => out.2.1.stored.toList = sink.stored.toList ++ pieces.flatten) t.session
        (out.1, out.2.2.session) ∧
      ∀ size, out.1 = .ok size ↔
        ∃ (pieces : List Bytes) (words rest : Bytes), (∀ x ∈ pieces, x.length ≤ maxChunk) ∧
          words.length = 4 ∧ size = pieces.flatten.length ∧
          t.session.unread =
            pieces.flatMap SyncCommand.data.block ++ SyncCommand.done.id ++ words ++ rest := by
  have hstat := accepts_stat hs hc hp
  have hlist := accepts_list hs hc hp
  refine ⟨⟨hstat, fun status => ?_⟩, ⟨hlist, hlist.ok_iff_blocks⟩, fun reporting out h => ?_⟩
  · rw [hstat.ok_iff]
    constructor
    · rintro ⟨-, front, rest, hclosing, hu⟩
      cases hclosing with
      | value hl => exact ⟨_, rest, hl, rfl, hu⟩
    · rintro ⟨words, rest, hl, rfl, hu⟩
      exact ⟨(), _, rest, .value hl, hu⟩
  · have hpull := accepts_pull reporting hs hc hp hlimit hflush h
    exact ⟨hpull, hpull.ok_iff_blocks⟩

/-- A file of one piece, in two arrivals with an interruption between them. -/
theorem pull_exact_one_piece :
    ∃ t : Transfer, t.session.isOpen = true ∧ t.session.link.Calm ∧
      t.session.unread = SyncCommand.data.block [104, 105] ++ SyncCommand.done.word 0 ∧
      (Transfer.pull (fun _ => false) .alone "/f" {} t).1 = .ok 2 := by
  have hbytes : SyncCommand.data.block [104, 105] ++ SyncCommand.done.word 0 =
      [[104, 105]].flatMap SyncCommand.data.block ++ SyncCommand.done.id ++ [0, 0, 0, 0] ++ [] := by
    decide
  have hc : Link.Calm
      { inflow := ⟨[.bytes ((SyncCommand.data.block [104, 105]).take 5),
          .failure ⟨.interrupted, ""⟩,
          .bytes ((SyncCommand.data.block [104, 105]).drop 5 ++ SyncCommand.done.word 0)],
        none⟩ } :=
    ⟨⟨rfl, rfl, by decide, fun turn h => absurd h List.not_mem_nil⟩, rfl, fun e h => by
      simp at h
      rw [h]
      rfl⟩
  refine ⟨{ session := { link := _ } }, rfl, hc, rfl, ?_⟩
  obtain ⟨-, -, h⟩ := @replies_exact { session := { link := _ } } rfl hc "/f" (by decide) {} rfl rfl
  exact ((h .alone _ rfl).2 2).mpr ⟨[[104, 105]], [0, 0, 0, 0], [], by decide, rfl, rfl, hbytes⟩

end SyncSession

end DebugBridge
