import DebugBridge.Proofs.Sync.Calls
import DebugBridge.Proofs.Sync.PullInStep
import DebugBridge.Sync.Directory

/-!
# The levels of a fetched directory

`pullLevels` recurses on a number of levels, which is larger than the number of bytes that are left
to read. Every list takes some of these bytes, so the levels never run out: a fetch of a directory
makes the directory, asks for its entries, and fetches the directories among them the same way.

* `pullLevel_congr` — one level needs the next one only for less that is left to read
* `pullBelow_eq` — a fetch of a directory with all its levels, without their number
-/

namespace DebugBridge

variable {α β : Type}

/-! ## What is read -/

/-- A list that succeeds reads a whole answer, and its entries are those of the blocks in it. -/
theorem SyncSession.list_ok {s s' : SyncSession} {remote : String} {entries : List FileEntry}
    (h : list remote s = (.ok entries, s')) :
    ∃ (sent : List SentEntry) (closing : Bytes), closing ≠ [] ∧
      entries = sent.map SentEntry.entry ∧
      s.unread = sent.flatMap SentEntry.block ++ closing ++ s'.unread := by
  by_cases hs : s.isOpen = true
  · have hsettled := list_settled hs remote
    rw [h] at hsettled
    cases hsettled with
    | exchanged _ _ _ hanswer hu =>
      obtain ⟨sent, hreply⟩ := hanswer
      obtain ⟨-, rfl, words, -, rfl⟩ := SyncAnswer.listing.sending.reply_ok.mp hreply
      rw [List.append_assoc (sent.flatMap _)] at hu
      exact ⟨sent, _, List.append_ne_nil_of_left_ne_nil (by decide) words, rfl, hu⟩
  · obtain ⟨e, he⟩ := refusal?_closed (Bool.eq_false_iff.mpr hs) remote false
    rw [list_refused he] at h
    cases h

/-- A transfer of a file that succeeds leaves the end of what there was to read. -/
theorem Transfer.pull_ok {t t' : Transfer} {cancelled : Cancelled} {reporting : Reporting}
    {remote : String} {sink sink' : Sink} {received : Nat}
    (h : pull cancelled reporting remote sink t = (.ok received, sink', t')) :
    t'.session.unread <:+ t.session.unread := by
  by_cases hs : t.session.isOpen = true
  · rcases pull_settled_or_stranded cancelled reporting remote sink hs h with hsettled | hstranded
    · obtain ⟨s', moment, reports⟩ := t'
      cases hsettled with
      | exchanged _ _ _ _ hu => exact ⟨_, hu.symm⟩
    · obtain ⟨_, _, e, _, -, -, -, -, he⟩ := hstranded.refused
      cases he
  · obtain ⟨e, he⟩ :=
      SyncSession.refusal?_closed (Bool.eq_false_iff.mpr hs) remote (cancelled t.moment)
    obtain ⟨moment, hr⟩ := pull_refused he reporting sink
    rw [hr] at h
    cases h

namespace FileTransfer

/-- The bytes that the session has still to read. -/
def unread (f : FileTransfer) : Bytes := f.transfer.session.unread

/-- A run that leaves the end of what there was to read, if it succeeds. -/
def Advances (x : FileRun α) : Prop := ∀ f a f', x f = (.ok a, f') → f'.unread <:+ f.unread

theorem advances_pure (a : α) : Advances (pure a) := by
  intro f b f' h
  cases h
  exact List.suffix_refl _

theorem Advances.bind {x : FileRun α} {g : α → FileRun β} (hx : Advances x)
    (hg : ∀ a, Advances (g a)) : Advances (x >>= g) := by
  intro f b f'' h
  rw [Run.bind_apply] at h
  split at h
  · next a f' hf => exact (hg a f' b f'' h).trans (hx f a f' hf)
  · cases h

/-- **A list takes bytes.** -/
theorem list_takes {remote : String} {f f' : FileTransfer} {entries : List FileEntry}
    (h : onSession (SyncSession.list remote) f = (.ok entries, f')) :
    f'.unread <:+ f.unread ∧ f'.unread.length < f.unread.length := by
  obtain ⟨hresult, rfl⟩ := Prod.mk.inj h
  obtain ⟨sent, closing, hne, -, hu⟩ := SyncSession.list_ok (Prod.ext hresult rfl)
  refine ⟨⟨_, hu.symm⟩, ?_⟩
  show _ < f.transfer.session.unread.length
  rw [hu, List.length_append, List.length_append]
  exact Nat.lt_add_of_pos_left (Nat.add_pos_right _ (List.length_pos_iff.mpr hne))

theorem advances_makeAll (path : String) : Advances (makeAll path) := by
  intro f a f' h
  obtain ⟨-, rfl⟩ := Prod.mk.inj h
  exact List.suffix_refl _

theorem advances_pullInto (cancelled : Cancelled) (reporting : Reporting) (path remote : String) :
    Advances (pullInto cancelled reporting path remote (pure ()) (pure ())) := by
  have hchange : Advances (change (·.create path)) := by
    intro f a f' h
    rw [change] at h
    split at h
    · cases h
      exact List.suffix_refl _
    · cases h
  refine hchange.bind fun place => (advances_pure ()).bind fun _ => Advances.bind ?_ fun received =>
    (advances_pure ()).bind fun _ => advances_pure received
  intro f received f' h
  obtain ⟨hresult, rfl⟩ := Prod.mk.inj h
  exact Transfer.pull_ok (Prod.ext hresult rfl)

section Level

variable (cancelled : Cancelled) {down down' : Summary → String → String → FileRun Summary}
  (hdown : ∀ done path remote, Advances (down done path remote))
include hdown

theorem advances_pullEntry (path remote : String) (done : Summary) (entry : FileEntry) :
    Advances (pullEntry cancelled down path remote done entry) := by
  rw [pullEntry]
  split
  · exact advances_pure done
  · split
    · exact hdown done _ _
    · exact (advances_pullInto cancelled _ _ _).bind fun received => advances_pure _
    · exact advances_pure done

theorem advances_pullEntries (path remote : String) (done : Summary) (entries : List FileEntry) :
    Advances (pullEntries cancelled down path remote done entries) := by
  induction entries generalizing done with
  | nil => exact advances_pure done
  | cons entry entries ih => exact (advances_pullEntry cancelled hdown path remote done entry).bind ih

theorem advances_pullLevel (done : Summary) (path remote : String) :
    Advances (pullLevel cancelled down done path remote) := by
  refine (advances_makeAll path).bind fun _ => Advances.bind ?_ fun entries =>
    advances_pullEntries cancelled hdown path remote done entries
  exact fun f entries f' h => (list_takes h).1

/-- The entries of a directory need what is below it only for what is left to read. -/
theorem pullEntries_congr {n : Nat}
    (hsame : ∀ done path remote f, f.unread.length < n →
      down done path remote f = down' done path remote f)
    (path remote : String) (done : Summary) (entries : List FileEntry) {f : FileTransfer}
    (hf : f.unread.length < n) :
    pullEntries cancelled down path remote done entries f =
      pullEntries cancelled down' path remote done entries f := by
  induction entries generalizing done f with
  | nil => rfl
  | cons entry entries ih =>
    have hentry : pullEntry cancelled down path remote done entry f =
        pullEntry cancelled down' path remote done entry f := by
      simp only [pullEntry]
      split
      · rfl
      · cases entry.stat.kind with
        | directory => exact hsame _ _ _ f hf
        | _ => rfl
    have hadvances := advances_pullEntry cancelled hdown path remote done entry f
    rw [pullEntries, pullEntries, Run.bind_apply, Run.bind_apply, ← hentry]
    split
    · next done' f' h => exact ih done' (Nat.lt_of_le_of_lt (hadvances done' f' h).length_le hf)
    · rfl

/-- **A level needs the next one only for less that is left to read.** -/
theorem pullLevel_congr {f : FileTransfer}
    (hsame : ∀ done path remote f', f'.unread.length < f.unread.length →
      down done path remote f' = down' done path remote f')
    (done : Summary) (path remote : String) :
    pullLevel cancelled down done path remote f = pullLevel cancelled down' done path remote f := by
  rw [pullLevel, pullLevel, Run.bind_apply, Run.bind_apply]
  split
  · next made f₁ hmade =>
    have hle := advances_makeAll path f made f₁ hmade
    rw [Run.bind_apply, Run.bind_apply]
    split
    · next entries f₂ hlist =>
      have hless := Nat.lt_of_lt_of_le (list_takes hlist).2 hle.length_le
      exact pullEntries_congr cancelled hdown hsame path remote done entries hless
    · rfl
  · rfl

end Level

/-! ## All levels -/

theorem advances_pullLevels (cancelled : Cancelled) (levels : Nat) (done : Summary)
    (path remote : String) : Advances (pullLevels cancelled levels done path remote) := by
  induction levels generalizing done path remote with
  | zero => exact fun _ _ _ h => nomatch h
  | succ levels ih => exact advances_pullLevel cancelled ih done path remote

theorem advances_pullBelow (cancelled : Cancelled) (done : Summary) (path remote : String) :
    Advances (pullBelow cancelled done path remote) := fun f =>
  advances_pullLevels cancelled _ done path remote f

/-- A level more than there are bytes left to read is none too few. -/
theorem pullLevels_succ (cancelled : Cancelled) {levels : Nat} (done : Summary)
    (path remote : String) {f : FileTransfer} (h : f.unread.length < levels) :
    pullLevels cancelled (levels + 1) done path remote f =
      pullLevels cancelled levels done path remote f := by
  induction levels generalizing done path remote f with
  | zero => exact absurd h (Nat.not_lt_zero _)
  | succ levels ih =>
    exact pullLevel_congr cancelled (advances_pullLevels cancelled (levels + 1))
      (fun done path remote f' hf' =>
        ih done path remote (Nat.lt_of_lt_of_le hf' (Nat.le_of_lt_succ h))) done path remote

theorem pullLevels_eq (cancelled : Cancelled) {levels : Nat} (done : Summary)
    (path remote : String) {f : FileTransfer} (h : f.unread.length < levels) :
    pullLevels cancelled levels done path remote f = pullBelow cancelled done path remote f := by
  induction h with
  | refl => rfl
  | step h ih => rw [pullLevels_succ cancelled done path remote h, ih]

/-- **A fetch of a directory** makes it, asks for its entries, and fetches the directories among
them the same way, however many levels there are. -/
theorem pullBelow_eq (cancelled : Cancelled) (done : Summary) (path remote : String) :
    pullBelow cancelled done path remote =
      pullLevel cancelled (pullBelow cancelled) done path remote := by
  funext f
  exact pullLevel_congr cancelled (advances_pullLevels cancelled f.unread.length)
    (fun done path remote f' hf' => pullLevels_eq cancelled done path remote hf') done path remote

end FileTransfer

end DebugBridge
