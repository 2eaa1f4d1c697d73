import DebugBridge.Proofs.Sync.Directory
import DebugBridge.Proofs.Sync.Served
import DebugBridge.Proofs.Utf8
import Mathlib.Data.List.Chain

/-!
# How deep a fetched directory nests

A fetch of a directory fetches the directories among its entries, and waits for each of them. The
device makes up the entries as it goes, so nothing but the path of a directory can bound how many
fetches wait at a time: each of them asks for a longer path than the one that waits for it, and no
list is asked for a path of more than `maxPath` bytes.

One name does not make the path longer: the empty one, in a directory whose path ends with a slash.
Its path is that of the directory itself, and the device may name it again and again.

* `Nests` — a fetch that is made while another one waits; `pullLevel_of_nests`, that there are no
  others
* `nests_grows` — the paths of nested fetches
* `pullDirectory_depth` — how many fetches wait at a time
* `pullDirectory_unbounded` — a device that nests as many as it likes
-/

namespace DebugBridge

open DebugBridge.Path (joinRemote endsInSlash)
open SyncSession (maxPath)

namespace FileTransfer

/-- A fetch of a directory that is about to be made. -/
structure Call where
  done : Summary
  path : String
  remote : String
  state : FileTransfer

/-- What a fetch comes to, if directories are fetched by `down`. -/
def Call.by (down : Summary → String → String → FileRun Summary) (c : Call) :
    Except Failure Summary × FileTransfer := down c.done c.path c.remote c.state

/-! ## Nested fetches -/

section Nests

variable (cancelled : Cancelled)

/-- The fetches that are made while the entries of a directory are fetched one after another. -/
inductive Descends (path remote : String) : Summary → List FileEntry → FileTransfer → Call → Prop
  | here {done : Summary} {entry : FileEntry} {rest : List FileEntry} {f : FileTransfer} :
      entry.name ≠ "." → entry.name ≠ ".." → entry.stat.kind = .directory →
      Descends path remote done (entry :: rest) f
        ⟨done, Path.join path entry.name, joinRemote remote entry.name, f⟩
  | later {done done' : Summary} {entry : FileEntry} {rest : List FileEntry} {f f' : FileTransfer}
      {inner : Call} :
      pullEntry cancelled (pullBelow cancelled) path remote done entry f = (.ok done', f') →
      Descends path remote done' rest f' inner → Descends path remote done (entry :: rest) f inner

/-- The fetch `inner` is made while `outer` waits for it. -/
def Nests (outer inner : Call) : Prop :=
  ∃ f entries f', makeAll outer.path outer.state = (.ok (), f) ∧
    onSession (SyncSession.list outer.remote) f = (.ok entries, f') ∧
    Descends cancelled outer.path outer.remote outer.done entries f' inner

variable {cancelled}

theorem pullEntries_of_descends {down : Summary → String → String → FileRun Summary}
    {path remote : String} {done : Summary} {entries : List FileEntry} {f : FileTransfer}
    (h : ∀ inner, Descends cancelled path remote done entries f inner →
      inner.by down = inner.by (pullBelow cancelled)) :
    pullEntries cancelled down path remote done entries f =
      pullEntries cancelled (pullBelow cancelled) path remote done entries f := by
  induction entries generalizing done f with
  | nil => rfl
  | cons entry entries ih =>
    have hentry : pullEntry cancelled down path remote done entry f =
        pullEntry cancelled (pullBelow cancelled) path remote done entry f := by
      simp only [pullEntry]
      split
      · rfl
      · next hdots =>
        simp only [Bool.or_eq_true, decide_eq_true_eq, not_or] at hdots
        cases hkind : entry.stat.kind with
        | directory => exact h _ (.here hdots.1 hdots.2 hkind)
        | _ => rfl
    rw [pullEntries, pullEntries, Run.bind_apply, Run.bind_apply, hentry]
    split
    · next done' f' hdone => exact ih fun inner hinner => h inner (.later hdone hinner)
    · rfl

/-- **A fetch makes no other fetches than those that nest in it**: how all others come out does not
matter. -/
theorem pullLevel_of_nests {down : Summary → String → String → FileRun Summary} {outer : Call}
    (h : ∀ inner, Nests cancelled outer inner → inner.by down = inner.by (pullBelow cancelled)) :
    outer.by (pullLevel cancelled down) = outer.by (pullBelow cancelled) := by
  simp only [Call.by]
  rw [pullBelow_eq, pullLevel, pullLevel, Run.bind_apply, Run.bind_apply]
  split
  · next u f hmade =>
    rw [Run.bind_apply, Run.bind_apply]
    split
    · next entries f' hlist =>
      exact pullEntries_of_descends fun inner hinner =>
        h inner ⟨f, entries, f', hmade, hlist, hinner⟩
    · rfl
  · rfl

/-- What was fetched before was read. -/
theorem Descends.reads {path remote : String} {done : Summary} {entries : List FileEntry}
    {f : FileTransfer} {inner : Call} (h : Descends cancelled path remote done entries f inner) :
    inner.state.unread <:+ f.unread ∧
      ∃ entry ∈ entries, inner.remote = joinRemote remote entry.name := by
  induction h with
  | here => exact ⟨List.suffix_refl _, _, List.mem_cons_self, rfl⟩
  | later hentry _ ih =>
    obtain ⟨hreads, entry, hmem, hremote⟩ := ih
    have hbefore := advances_pullEntry cancelled (advances_pullBelow cancelled) _ _ _ _ _ _ _ hentry
    exact ⟨hreads.trans hbefore, entry, List.mem_cons_of_mem _ hmem, hremote⟩

/-- **The path of a nested fetch is longer**, but for an empty name behind a slash; the fetch that
waits for it had a path of at most `maxPath` bytes, and has read the name. -/
theorem nests_grows {outer inner : Call} (h : Nests cancelled outer inner) :
    Utf8.size outer.remote ≤ maxPath ∧ inner.state.unread <:+ outer.state.unread ∧
      ∃ name, ListedIn outer.state.unread name ∧ inner.remote = joinRemote outer.remote name ∧
        ((inner.remote = outer.remote ∧ name = "" ∧ endsInSlash outer.remote = true) ∨
          Utf8.size outer.remote < Utf8.size inner.remote) := by
  obtain ⟨f, entries, f', hmade, hlist, hinner⟩ := h
  have hresult : (SyncSession.list outer.remote f.transfer.session).1 = .ok entries :=
    congrArg Prod.fst hlist
  obtain ⟨hreads, entry, hmem, hremote⟩ := hinner.reads
  have hbefore := advances_makeAll _ _ _ _ hmade
  refine ⟨?_, (hreads.trans (list_takes hlist).1).trans hbefore, entry.name, ?_, hremote, ?_⟩
  · refine Nat.le_of_not_lt fun hlong => ?_
    have hrefused : SyncSession.list outer.remote f.transfer.session =
        (.error (.remotePathTooLong (Utf8.size outer.remote) maxPath), f.transfer.session) := by
      rw [SyncSession.list, SyncSession.checkPath_bind, if_pos hlong]
    rw [hrefused] at hresult
    cases hresult
  · have hlisted := SyncSession.list_listed (Prod.ext hresult rfl) entry hmem
    exact hlisted.of_suffix hbefore
  · rw [hremote]
    exact Path.joinRemote_grows outer.remote entry.name

/-! ## Rows of waiting fetches -/

/-- How often a fetch is made for the path of the one that waits for it. -/
def repeats : List Call → Nat
  | outer :: inner :: rest =>
    (if inner.remote = outer.remote then 1 else 0) + repeats (inner :: rest)
  | _ => 0

variable (cancelled) in
/-- A row of fetches of which each waits for the next one. -/
abbrev Waiting (calls : List Call) : Prop := calls.IsChain (Nests cancelled)

/-- The paths of waiting fetches leave room for so many of them. -/
theorem room_of_waiting {outer inner : Call} {calls : List Call}
    (h : Waiting cancelled (outer :: inner :: calls)) :
    (outer :: inner :: calls).length + Utf8.size outer.remote ≤
      maxPath + 2 + repeats (outer :: inner :: calls) := by
  induction calls generalizing outer inner with
  | nil =>
    obtain ⟨hmax, -⟩ := nests_grows (List.isChain_cons_cons.mp h).1
    simp only [List.length_cons, List.length_nil]
    omega
  | cons next calls ih =>
    obtain ⟨hnests, hcalls⟩ := List.isChain_cons_cons.mp h
    obtain ⟨-, -, name, -, -, hgrows⟩ := nests_grows hnests
    have hroom := ih hcalls
    -- the inner path is one byte longer at least, or the row has one more repetition
    rw [repeats]
    simp only [List.length_cons] at hroom ⊢
    rcases hgrows with ⟨hsame, -⟩ | hgrows
    · rw [hsame] at hroom
      rw [if_pos hsame]
      omega
    · omega

/-- **So many fetches wait at a time**, and one more for each that repeats a path. -/
theorem length_of_waiting {calls : List Call} (h : Waiting cancelled calls) :
    calls.length ≤ maxPath + 2 + repeats calls :=
  match calls, h with
  | [], _ => Nat.zero_le _
  | [_], _ => Nat.le_trans (by decide : 1 ≤ maxPath + 2) (Nat.le_add_right _ _)
  | _ :: _ :: _, h => Nat.le_trans (Nat.le_add_right _ _) (room_of_waiting h)

/-- Without empty names no path is repeated. -/
theorem repeats_of_named {first : Call} {calls : List Call} (h : Waiting cancelled (first :: calls))
    (hnames : ∀ name, ListedIn first.state.unread name → name ≠ "") :
    repeats (first :: calls) = 0 := by
  induction calls generalizing first with
  | nil => rfl
  | cons inner calls ih =>
    obtain ⟨hnests, hcalls⟩ := List.isChain_cons_cons.mp h
    obtain ⟨-, hreads, name, hlisted, -, hgrows⟩ := nests_grows hnests
    rw [repeats, ih hcalls fun name hname => hnames name (hname.of_suffix hreads), if_neg]
    rintro hsame
    rcases hgrows with ⟨-, hempty, -⟩ | hgrows
    · exact hnames name hlisted hempty
    · rw [hsame] at hgrows
      exact Nat.lt_irrefl _ hgrows

/-- **As many levels as fetches wait at a time are enough.** -/
theorem pullLevels_of_waiting {levels : Nat} {first : Call}
    (h : ∀ calls, Waiting cancelled (first :: calls) → calls.length < levels) :
    first.by (pullLevels cancelled levels) = first.by (pullBelow cancelled) := by
  induction levels generalizing first with
  | zero => exact absurd (h [] (.singleton first)) (Nat.not_lt_zero _)
  | succ levels ih =>
    -- a row that goes on from a nested fetch is one longer when it starts here
    refine pullLevel_of_nests fun inner hinner => ih fun calls hcalls => ?_
    exact Nat.lt_of_succ_lt_succ (h (inner :: calls) (.cons_cons hinner hcalls))

end Nests

/--
**How deep a fetch of a directory nests**, whatever the device sends and however it ends.

Each nested fetch asks for a name below the path of the one that waits for it, which has at most
`maxPath` bytes; its own path is longer, unless the name is empty and behind a slash. So at most
`maxPath + 2` fetches wait at a time, and one more for each that repeats the path of the one before.
If the device lists no empty name there are no more than `maxPath + 2`, and a fetch with so many
levels does the same.
-/
theorem pullDirectory_depth (cancelled : Cancelled) (path remote : String) (f : FileTransfer) :
    let first : Call := ⟨{}, path, remote, f⟩
    (∀ outer inner, Nests cancelled outer inner → Utf8.size outer.remote ≤ maxPath ∧
      ∃ name, inner.remote = joinRemote outer.remote name ∧
        ((inner.remote = outer.remote ∧ name = "" ∧ endsInSlash outer.remote = true) ∨
          Utf8.size outer.remote < Utf8.size inner.remote)) ∧
    (∀ calls, Waiting cancelled (first :: calls) →
      (first :: calls).length ≤ maxPath + 2 + repeats (first :: calls)) ∧
    ((∀ name, ListedIn f.unread name → name ≠ "") →
      (∀ calls, Waiting cancelled (first :: calls) → (first :: calls).length ≤ maxPath + 2) ∧
      pullDirectory cancelled path remote f =
        pullLevels cancelled (maxPath + 2) {} path remote f) := by
  intro first
  refine ⟨fun outer inner h => ?_, fun calls => length_of_waiting, fun hnames => ?_⟩
  · obtain ⟨hmax, -, name, -, hremote, hgrows⟩ := nests_grows h
    exact ⟨hmax, name, hremote, hgrows⟩
  · have hlength : ∀ calls, Waiting cancelled (first :: calls) →
        (first :: calls).length ≤ maxPath + 2 := by
      intro calls hcalls
      have hle := length_of_waiting hcalls
      rwa [repeats_of_named hcalls hnames] at hle
    exact ⟨hlength, (@pullLevels_of_waiting cancelled (maxPath + 2) first hlength).symm⟩

/-- A directory without a name. -/
def nameless : SentEntry := ⟨⟨0o040755, 0, 0⟩, []⟩

/-- An answer with that one entry. -/
def namelessList : Bytes :=
  [nameless].flatMap SentEntry.block ++ (SyncCommand.done.id ++ List.replicate 16 0)

/-- A device that answers so again and again is asked again and again. -/
theorem waiting_nameless (levels : Nat) {t : Transfer} (ht : t.session.isOpen = true)
    (hc : t.session.link.Calm)
    (hu : t.session.unread = (List.replicate levels namelessList).flatten) :
    ∃ calls, calls.length = levels ∧
      Waiting (fun _ => false) (⟨{}, "/", "/", ⟨t, {}⟩⟩ :: calls) := by
  induction levels generalizing t with
  | zero => exact ⟨[], rfl, .singleton _⟩
  | succ levels ih =>
    rw [List.replicate_succ, List.flatten_cons] at hu
    have hp : Utf8.size "/" ≤ maxPath := by decide
    have hsent : ∀ x ∈ [nameless], x.name.length ≤ SyncSession.maxChunk := by decide
    obtain ⟨hok, honward, hrest⟩ := SyncSession.list_served ht hc hp hsent rfl hu
    -- the nested fetch is made for the same path, on what this list has left unread
    let t' : Transfer := { t with session := (SyncSession.list "/" t.session).2 }
    obtain ⟨calls, hlength, hcalls⟩ := ih (t := t') honward.isOpen (honward.calm hc) hrest
    refine ⟨_ :: calls, congrArg (· + 1) hlength, .cons_cons ?_ hcalls⟩
    have hmade : makeAll "/" ⟨t, {}⟩ = (.ok (), ⟨t, {}⟩) := rfl
    have hlist : onSession (SyncSession.list "/") ⟨t, {}⟩ = (.ok [nameless.entry], ⟨t', {}⟩) :=
      Prod.ext (hok ▸ rfl) rfl
    have hname : nameless.entry.name = "" := congrArg String.ofList Utf8.lenient_nil
    have hbelow : Descends (fun _ => false) "/" "/" {} [nameless.entry] ⟨t', {}⟩
        ⟨{}, Path.join "/" nameless.entry.name, joinRemote "/" nameless.entry.name, ⟨t', {}⟩⟩ := by
      refine .here ?_ ?_ (by decide)
      · rw [hname]
        decide
      · rw [hname]
        decide
    rw [hname] at hbelow
    exact ⟨_, _, _, hmade, hlist, hbelow⟩

/-- **No number bounds how deep fetches nest**, on a calm connection and in a directory that is
there: a device can list nothing but an entry without a name, as often as it likes. -/
theorem pullDirectory_unbounded :
    ¬ ∃ bound : Nat, ∀ (f : FileTransfer) (calls : List Call), f.transfer.session.isOpen = true →
      f.transfer.session.link.Calm → Waiting (fun _ => false) (⟨{}, "/", "/", f⟩ :: calls) →
      calls.length ≤ bound := by
  rintro ⟨bound, h⟩
  let session : SyncSession :=
    { link := { inflow := .ofBytes (List.replicate (bound + 1) namelessList).flatten } }
  have hc : session.link.Calm := Link.calm_ofBytes _
  have hu : session.unread = (List.replicate (bound + 1) namelessList).flatten := List.append_nil _
  obtain ⟨calls, hlength, hcalls⟩ := waiting_nameless (bound + 1) (t := { session }) rfl hc hu
  have hle := h ⟨{ session }, {}⟩ calls rfl hc hcalls
  rw [hlength] at hle
  exact Nat.not_succ_le_self bound hle

end FileTransfer

end DebugBridge
