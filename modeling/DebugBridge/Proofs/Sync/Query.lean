import DebugBridge.Proofs.Sync.Session

/-!
# Questions answered by the grammar

`stat` and `list` write one request and read one answer. What they come to is what the grammar says
about the unread bytes, unless the connection fails before.
-/

namespace DebugBridge.SyncSession

open SyncAnswer (failure? last?)

variable {α : Type}

/-- A run that begins with a check of a path. -/
theorem checkPath_bind {σ : Type} (path : String) (f : Run σ α) (s : σ) :
    ((checkPath path : Run σ Unit) >>= fun _ => f) s =
      if Utf8.size path > maxPath then
        (.error (.remotePathTooLong (Utf8.size path) maxPath), s)
      else f s := by
  by_cases h : Utf8.size path > maxPath
  · rw [checkPath, if_pos h, if_pos h]
    rfl
  · rw [checkPath, if_neg h, if_neg h]
    rfl

/-- **The answer to `stat` is read by the grammar.** -/
theorem stat_fits {s : SyncSession} (hs : s.isOpen = true) {path : String}
    (hp : Utf8.size path ≤ maxPath) :
    Fits s (SyncCommand.stat.block (Utf8.ofString path)) (SyncAnswer.status.front s.unread)
        (stat path s) ∨ Dropped s (stat path s) := by
  rw [stat, checkPath_bind, if_neg (Nat.not_lt.mpr hp), request]
  rcases writeAll_bind hs (SyncCommand.stat.block (Utf8.ofString path)) fun _ => statAnswer with
    ⟨s', hr, hu, ho⟩ | hd
  · rw [← hu]
    rcases follows_statAnswer ho.isOpen with hf | hd
    · rw [← hr] at hf
      exact .inl (ho.fits_answer hf)
    · rw [← hr] at hd
      exact .inr (ho.dropped hd)
  · exact .inr hd

/-- A block with which reading an answer fails is its last one. -/
theorem Follows.last {g : SyncAnswer (Option α)} {s s' : SyncSession} {e : Failure} {β : Type}
    (h : Follows g.front s (.error e, s')) :
    (∃ ending, g.Parts s.unread [] ending ∧
      ∀ f : Unit → β, Fits s [] (ending.map f) (.error e, s')) ∨
      Dropped s ((.error e : Except Failure β), s') := by
  rcases h with h | h
  · generalize he : g.front s.unread = ending at h
    refine .inl ?_
    cases h with
    | whole ho => exact ⟨.whole (.error e) s'.unread, .last (by rw [he]; rfl), fun f => .whole ho⟩
    | broken hf hc =>
      cases ending with
      | whole verdict rest => cases hf
      | senseless e' =>
        cases hf
        exact ⟨_, .last (by rw [he]; rfl), fun f => .broken rfl hc⟩
      | cut =>
        cases hf
        exact ⟨_, .last (by rw [he]; rfl), fun f => .broken rfl hc⟩
  · exact .inr h.error

/-- The loop over the blocks of a directory. -/
theorem listParts_fits {s : SyncSession} (hs : s.isOpen = true) (entries : List FileEntry) :
    (∃ more ending, SyncAnswer.listing.Parts s.unread more ending ∧
      Fits s [] (ending.map fun _ => entries.reverse ++ more) (listParts entries s)) ∨
      Dropped s (listParts entries s) := by
  fun_induction listParts entries s with
  | case1 entries s e s' h =>
    have hf := follows_listPart hs
    rw [h] at hf
    rcases hf.last with ⟨ending, hp, hfits⟩ | hd
    · exact .inl ⟨[], ending, hp, hfits _⟩
    · exact .inr hd
  | case2 entries s s' h =>
    have hf := follows_listPart hs
    rw [h] at hf
    obtain ⟨hr, ho⟩ := hf.whole
    refine .inl ⟨[], _, .last (by rw [hr]; rfl), ?_⟩
    rw [List.append_nil]
    exact .whole ho
  | case3 entries s entry s' h _ ih =>
    have hf := follows_listPart hs
    rw [h] at hf
    obtain ⟨hr, ho⟩ := hf.whole
    rcases ih ho.isOpen with ⟨more, ending, hp, hfits⟩ | hd
    · refine .inl ⟨entry :: more, ending, .part hr hp, ?_⟩
      rw [List.reverse_cons, List.append_assoc] at hfits
      exact ho.fits hfits
    · exact .inr (ho.dropped hd)

/-- **The answer to `list` is read by the grammar.** -/
theorem list_fits {s : SyncSession} (hs : s.isOpen = true) {path : String}
    (hp : Utf8.size path ≤ maxPath) :
    (∃ entries ending, SyncAnswer.listing.Parts s.unread entries ending ∧
      Fits s (SyncCommand.list.block (Utf8.ofString path)) (ending.map fun _ => entries)
        (list path s)) ∨ Dropped s (list path s) := by
  rw [list, checkPath_bind, if_neg (Nat.not_lt.mpr hp), request]
  rcases writeAll_bind hs (SyncCommand.list.block (Utf8.ofString path)) fun _ => listParts [] with
    ⟨s', hr, hu, ho⟩ | hd
  · rw [← hu, hr]
    rcases listParts_fits ho.isOpen [] with ⟨entries, ending, hp, hfits⟩ | hd
    · exact .inl ⟨entries, ending, hp, ho.fits_answer hfits⟩
    · exact .inr (ho.dropped hd)
  · exact .inr hd

end DebugBridge.SyncSession
