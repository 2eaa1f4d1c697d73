import DebugBridge.Proofs.Sync.RoundTrip
import DebugBridge.Sync.Directory

/-!
# Requests that are served

On a calm connection an operation whose answer stands whole in front of the unread bytes writes
exactly its request, reads exactly that answer and leaves the session ready for the next operation.
Rows of operations are put together from this.

* `Served` — an operation has got its answer
* `list_served`, `pull_served`, `push_served` — the three operations that directories are moved by
* `Summary.of` — what moved files are summed up to
-/

namespace DebugBridge

open SyncSession (maxChunk maxPath Fits Onward)

variable {α β : Type}

namespace SyncSession

/-- An operation on `s` came to `a`: it has written `request`, and `rest` is what it left unread. -/
structure Served (s : SyncSession) (request rest : Bytes) (a : α)
    (out : Except Failure α × SyncSession) : Prop where
  result : out.1 = .ok a
  onward : Onward s out.2 request
  unread : out.2.unread = rest

theorem Fits.served {s : SyncSession} {request rest : Bytes} {a : α}
    {out : Except Failure α × SyncSession} (h : Fits s request (.whole (.ok a) rest) out) :
    Served s request rest a out := by
  cases h with
  | whole ho => exact ⟨rfl, ho, rfl⟩
  | broken he hc => cases he

/-- **A list that is served** has the entries that were sent. -/
theorem list_served {s : SyncSession} (hs : s.isOpen = true) (hc : s.link.Calm) {path : String}
    (hp : Utf8.size path ≤ maxPath) {sent : List SentEntry}
    (hsent : ∀ x ∈ sent, x.name.length ≤ maxChunk) {words rest : Bytes} (hwords : words.length = 16)
    (hu : s.unread = sent.flatMap SentEntry.block ++ (SyncCommand.done.id ++ words) ++ rest) :
    Served s (SyncCommand.list.block (Utf8.ofString path)) rest (sent.map SentEntry.entry)
      (list path s) := by
  rcases list_fits hs hp with ⟨entries, ending, hparts, hf⟩ | hd
  · have hwhole : SyncAnswer.listing.sending.Whole sent (.ok ())
        (sent.flatMap SentEntry.block ++ (SyncCommand.done.id ++ words)) :=
      ⟨hsent, _, .value hwords, rfl⟩
    obtain ⟨rfl, rfl⟩ :=
      hparts.unique (SyncAnswer.listing.sending.parts_whole.mpr ⟨sent, _, hwhole, rfl, hu⟩)
    exact hf.served
  · exact absurd hc hd.disturbed

end SyncSession

open SyncSession (Served)

/-- **A file that is served** comes to a sink that takes it, in the pieces in which it was sent. -/
theorem Transfer.pull_served (reporting : Reporting) {t : Transfer} (ht : t.session.isOpen = true)
    (hc : t.session.link.Calm) {path : String} (hp : Utf8.size path ≤ maxPath) {sink : Sink}
    (hlimit : sink.limit = none) (hflush : sink.flushFailure = none) {pieces : List Bytes}
    (hpieces : ∀ piece ∈ pieces, piece.length ≤ maxChunk) {words rest : Bytes}
    (hwords : words.length = 4)
    (hu : t.session.unread =
      pieces.flatMap SyncCommand.data.block ++ (SyncCommand.done.id ++ words) ++ rest)
    {out : Except Failure Nat × Sink × Transfer}
    (h : Transfer.pull (fun _ => false) reporting path sink t = out) :
    out.2.1.stored.toList = sink.stored.toList ++ pieces.flatten ∧
      Served t.session (SyncCommand.receive.block (Utf8.ofString path)) rest pieces.flatten.length
        (out.1, out.2.2.session) := by
  obtain ⟨parts, ending, hparts, hf, hstored⟩ :=
    SyncSession.pull_fits reporting ht hc hp hlimit hflush h
  have hwhole : SyncAnswer.content.sending.Whole pieces (.ok ())
      (pieces.flatMap SyncCommand.data.block ++ (SyncCommand.done.id ++ words)) :=
    ⟨hpieces, _, .value hwords, rfl⟩
  obtain ⟨hsame, rfl⟩ :=
    hparts.unique (SyncAnswer.content.sending.parts_whole.mpr ⟨pieces, _, hwhole, rfl, hu⟩)
  obtain rfl : parts = pieces := hsame.trans (List.map_id _)
  exact ⟨hstored, hf.served⟩

/-- **A push that is served** has sent its whole source. -/
theorem Transfer.push_served (reporting : Reporting) {source : Inflow} (hsource : source.Steady)
    {path : String} (hp : Utf8.size path ≤ maxPath) (mode mtime : UInt32) {t : Transfer}
    (ht : t.session.isOpen = true) (hc : t.session.link.Calm) {words rest : Bytes}
    (hwords : words.length = 4) (hu : t.session.unread = SyncCommand.okay.id ++ words ++ rest)
    {out : Except Failure Nat × Inflow × Transfer}
    (h : push (fun _ => false) reporting source path mode mtime t = out) :
    ∃ sent, WholeRequest source path mode mtime sent ∧
      Served t.session sent rest source.bytes.length (out.1, out.2.2.session) := by
  obtain ⟨_, -, -, -, hokay⟩ := push_sent reporting hsource hp mode mtime ht hc.toWritable h
  obtain ⟨hok, hopen⟩ := hokay words rest hwords (hc.received.trans hu)
  have hpushed := push_cases _ reporting source path mode mtime ht h
  obtain ⟨result, source', t'⟩ := out
  obtain rfl : result = .ok source.bytes.length := hok
  generalize hs : t'.session = s' at hpushed hopen
  cases hpushed with
  | @ended sent _ _ hwhole hfits =>
    have hfront : SyncAnswer.receipt.front t.session.unread = .whole (.ok ()) rest :=
      (SyncAnswer.front_closing (by decide)).mpr ⟨_, .value hwords, hu⟩
    rw [hfront] at hfits
    exact ⟨sent, hwhole, hfits.served⟩

/-! ## Sums -/

namespace Summary

/-- The number of files with these contents, and of the bytes in them. -/
def of (contents : List Bytes) : Summary := ⟨contents.length, contents.flatten.length⟩

theorem join_of_cons (done : Summary) (data : Bytes) (contents : List Bytes) :
    done.join (of (data :: contents)) = (done.add data.length).join (of contents) := by
  simp only [join, add, of, List.length_cons, List.flatten_cons, List.length_append]
  rw [Nat.add_right_comm, Nat.add_assoc, Nat.add_assoc]

theorem join_of_append (done : Summary) (contents more : List Bytes) :
    done.join (of (contents ++ more)) = (done.join (of contents)).join (of more) := by
  simp only [join, of, List.length_append, List.flatten_append, Nat.add_assoc]

theorem empty_join (s : Summary) : join {} s = s := by
  simp only [join, Nat.zero_add]

end Summary

end DebugBridge
