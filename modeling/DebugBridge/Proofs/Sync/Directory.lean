import DebugBridge.Proofs.Files.Tree
import DebugBridge.Proofs.Sync.Levels

/-!
# Where a fetched directory goes

A fetch of a directory takes entries one after another to the local files: a directory is made with
all that is missing above it, a file is made or emptied and filled. `Taken` is one such entry, with
the name that the device gave it and the local directory to which that name was joined.

Names `.` and `..` are left out, but a name may be any text. One that leads upwards behind a slash,
or starts at the root, takes its entry out of the directory that is fetched into.

* `Walked.below_iff` — a row of entries stays below exactly if none of their names leads out
* `pullDirectory_below` — what a fetch makes, and when all of it is below its target
* `pullDirectory_outside` — a file beside the target that a device overwrites
-/

namespace DebugBridge

open DebugBridge.Path (Below Above LeadsOut)

/-! ## Entries -/

/-- An entry that a fetch takes to the local files. -/
structure Taken where
  /-- The local directory to which the name is joined. -/
  dir : String
  /-- The name that the device gave. -/
  name : String
  /-- The data of a file; none for a directory. -/
  data : Option Bytes

namespace Taken

/-- The path to which the entry goes. -/
def path (t : Taken) : String := Path.join t.dir t.name

/-- The local files with the entry, as far as it can be made. -/
def put (tree : FileTree) (t : Taken) : FileTree :=
  match t.data with
  | none => (tree.makeAll t.path).2
  | some data =>
    match tree.create t.path with
    | .ok (place, tree) => tree.store place data
    | .error _ => tree

/-- The local files with one entry after another. -/
def putAll (taken : List Taken) (tree : FileTree) : FileTree := taken.foldl put tree

/-- Entries in the order in which a fetch into `dir` takes them: behind a directory comes what is
below it, and then what comes beside it. -/
inductive Walked : String → List Taken → Prop
  | nil (dir : String) : Walked dir []
  | file {dir : String} {rest : List Taken} (name : String) (data : Bytes) : Walked dir rest →
      Walked dir (⟨dir, name, some data⟩ :: rest)
  | directory {dir : String} {below rest : List Taken} (name : String) :
      Walked (Path.join dir name) below → Walked dir rest →
      Walked dir (⟨dir, name, none⟩ :: (below ++ rest))

theorem Walked.append {dir : String} {taken more : List Taken} (h : Walked dir taken)
    (hmore : Walked dir more) : Walked dir (taken ++ more) := by
  induction h with
  | nil => exact hmore
  | file name data _ ih => exact .file name data (ih hmore)
  | directory name hbelow _ _ ih =>
    rw [List.cons_append, List.append_assoc]
    exact .directory name hbelow (ih hmore)

/-- **A row of entries stays below a path exactly if none of their names leads out of it.** -/
theorem Walked.below_iff {path dir : String} {taken : List Taken} (h : Walked dir taken)
    (hdir : Below path dir) :
    (∀ t ∈ taken, Below path t.path) ↔ ∀ t ∈ taken, ¬ LeadsOut path t.name := by
  induction h with
  | nil => simp
  | file name data _ ih =>
    rw [List.forall_mem_cons, List.forall_mem_cons, ih hdir]
    exact and_congr_left fun _ => Path.below_join hdir name
  | directory name _ _ ihbelow ihrest =>
    rw [List.forall_mem_cons, List.forall_mem_cons, List.forall_mem_append,
      List.forall_mem_append, ihrest hdir]
    constructor
    · rintro ⟨hself, hbelow, hrest⟩
      exact ⟨(Path.below_join hdir name).mp hself, (ihbelow hself).mp hbelow, hrest⟩
    · rintro ⟨hname, hbelow, hrest⟩
      -- what is below the directory stays below, since the directory does
      have hself := (Path.below_join hdir name).mpr hname
      exact ⟨hself, (ihbelow hself).mpr hbelow, hrest⟩

/-- **An entry below a directory that is there** makes nothing elsewhere. -/
theorem put_made {path : String} {t : Taken} (ht : Below path t.path) {tree : FileTree}
    (hthere : tree.Entered path) : FileTree.Made (Below path) (Below path) tree (put tree t) := by
  unfold put
  split
  · exact (FileTree.makeAll_below hthere ht).mono (fun _ hp => hp) nofun
  · split
    · next place made hmade => exact (FileTree.Made.refl tree).file _ ht hmade
    · exact .refl tree

theorem putAll_made {path : String} {taken : List Taken} (h : ∀ t ∈ taken, Below path t.path)
    {tree : FileTree} (hthere : tree.Entered path) :
    FileTree.Made (Below path) (Below path) tree (putAll taken tree) := by
  induction taken generalizing tree with
  | nil => exact .refl tree
  | cons t taken ih =>
    obtain ⟨ht, htaken⟩ := List.forall_mem_cons.mp h
    have hput := put_made ht hthere
    -- what was made did not take the directory away
    exact hput.trans (ih htaken (hthere.mono hput.grows))

end Taken

open Taken (Walked putAll)

/-! ## Names that a device gives -/

/-- The name is that of an entry whose block is among the bytes. -/
def ListedIn (bytes : Bytes) (name : String) : Prop :=
  ∃ sent : SentEntry, sent.block <:+: bytes ∧ name = Utf8.lenientString sent.name

theorem ListedIn.of_suffix {bytes bytes' : Bytes} {name : String} (h : ListedIn bytes name)
    (hle : bytes <:+ bytes') : ListedIn bytes' name := by
  obtain ⟨sent, hblock, hname⟩ := h
  exact ⟨sent, hblock.trans hle.isInfix, hname⟩

/-- A name under which a fetch takes an entry: it stands among the bytes, and it is neither that of
the directory itself nor that of the one above it. -/
def TakenName (bytes : Bytes) (name : String) : Prop :=
  name ≠ "." ∧ name ≠ ".." ∧ ListedIn bytes name

theorem ListedIn.taken {bytes : Bytes} {name : String} (h : ListedIn bytes name)
    (hdots : ¬ (name = "." || name = "..") = true) : TakenName bytes name := by
  simp only [Bool.or_eq_true, decide_eq_true_eq, not_or] at hdots
  exact ⟨hdots.1, hdots.2, h⟩

/-- **The names of a list stand among the bytes that were read.** -/
theorem SyncSession.list_listed {s s' : SyncSession} {remote : String} {entries : List FileEntry}
    (h : list remote s = (.ok entries, s')) :
    ∀ entry ∈ entries, ListedIn s.unread entry.name := by
  obtain ⟨sent, closing, -, rfl, hu⟩ := list_ok h
  intro entry hentry
  obtain ⟨x, hx, rfl⟩ := List.mem_map.mp hentry
  obtain ⟨before, after, rfl⟩ := List.append_of_mem hx
  refine ⟨x, ⟨before.flatMap SentEntry.block,
    after.flatMap SentEntry.block ++ closing ++ s'.unread, ?_⟩, rfl⟩
  rw [hu, List.flatMap_append, List.flatMap_cons]
  simp only [List.append_assoc]

namespace FileTransfer

variable {α β : Type} {bytes : Bytes} {dir : String}

/-! ## What a fetch takes -/

/-- The entries were taken to the files of `tree`, which have become those of `tree'`. Their names
stand among the bytes. -/
structure Took (bytes : Bytes) (dir : String) (tree tree' : FileTree) (taken : List Taken) :
    Prop where
  walked : Walked dir taken
  named : ∀ t ∈ taken, TakenName bytes t.name
  tree : tree' = putAll taken tree

/-- All that a run does to the local files is to take entries to them, with names among the bytes of
which the session has still to read the end. -/
def Takes (bytes : Bytes) (dir : String) (x : FileRun α) : Prop :=
  ∀ f, f.unread <:+ bytes → ∃ taken, Took bytes dir f.tree (x f).2.tree taken

theorem Took.nothing (tree : FileTree) : Took bytes dir tree tree [] := ⟨.nil dir, nofun, rfl⟩

theorem Took.trans {tree tree' tree'' : FileTree} {taken more : List Taken}
    (h : Took bytes dir tree tree' taken) (h' : Took bytes dir tree' tree'' more) :
    Took bytes dir tree tree'' (taken ++ more) where
  walked := h.walked.append h'.walked
  named := List.forall_mem_append.mpr ⟨h.named, h'.named⟩
  tree := by rw [h'.tree, h.tree, putAll, putAll, putAll, List.foldl_append]

theorem takes_return (result : Except Failure α) :
    Takes bytes dir (fun f => (result, f) : FileRun α) := fun f _ => ⟨[], .nothing f.tree⟩

theorem Takes.bind {x : FileRun α} {g : α → FileRun β} (hx : Takes bytes dir x)
    (hadvances : Advances x) (hg : ∀ a, Takes bytes dir (g a)) : Takes bytes dir (x >>= g) := by
  intro f hf
  obtain ⟨taken, h⟩ := hx f hf
  rw [Run.bind_apply]
  split
  · next a f' hok =>
    rw [hok] at h
    obtain ⟨more, hmore⟩ := hg a f' ((hadvances f a f' hok).trans hf)
    exact ⟨taken ++ more, h.trans hmore⟩
  · next e f' herror =>
    rw [herror] at h
    exact ⟨taken, h⟩

/-- What is fetched into a file that could be made. -/
theorem pullInto_made {f : FileTransfer} {path : String} {place : Place} {tree : FileTree}
    (hmade : f.tree.create path = .ok (place, tree)) {cancelled : Cancelled}
    {reporting : Reporting} {remote : String} {result : Except Failure Nat} {sink : Sink}
    {transfer : Transfer}
    (hpull : Transfer.pull cancelled reporting remote {} f.transfer = (result, sink, transfer)) :
    pullInto cancelled reporting path remote (pure ()) (pure ()) f =
      (result, { transfer, tree := tree.store place sink.stored.toList }) := by
  have hbegin : change (·.create path) f = (.ok place, { f with tree }) := by
    rw [change, hmade]
  rw [pullInto, Run.bind_apply, hbegin]
  simp only
  rw [Run.bind_apply]
  show (_ >>= _ : FileRun Nat) { f with tree } = _
  rw [Run.bind_apply]
  simp only [hpull]
  cases result with
  | error e => rfl
  | ok received => rfl

/-- **A file is one entry.** -/
theorem takes_pullInto {name : String} (hname : TakenName bytes name) (cancelled : Cancelled)
    (reporting : Reporting) (remote : String) :
    Takes bytes dir
      (pullInto cancelled reporting (Path.join dir name) remote (pure ()) (pure ())) := by
  intro f _
  cases hc : f.tree.create (Path.join dir name) with
  | error e =>
    refine ⟨[], ?_⟩
    rw [pullInto, Run.bind_apply, change, hc]
    exact .nothing f.tree
  | ok made =>
    obtain ⟨place, tree⟩ := made
    cases hpull : Transfer.pull cancelled reporting remote {} f.transfer with
    | mk result rest =>
      obtain ⟨sink, transfer⟩ := rest
      rw [pullInto_made hc hpull]
      refine ⟨[⟨dir, name, some sink.stored.toList⟩], .file name _ (.nil dir),
        List.forall_mem_singleton.mpr hname, ?_⟩
      rw [putAll, List.foldl_cons, List.foldl_nil, Taken.put, Taken.path, hc]

/-- What is listed in a fetch stands among the bytes of which the end was still to be read. -/
theorem listed_of_list {remote : String} {f f' : FileTransfer} {entries : List FileEntry}
    (h : onSession (SyncSession.list remote) f = (.ok entries, f')) (hf : f.unread <:+ bytes) :
    f'.unread <:+ bytes ∧ ∀ entry ∈ entries, ListedIn bytes entry.name := by
  have hreads := (list_takes h).1.trans hf
  obtain ⟨hresult, rfl⟩ := Prod.mk.inj h
  exact ⟨hreads, fun entry hentry =>
    (SyncSession.list_listed (Prod.ext hresult rfl) entry hentry).of_suffix hf⟩

section Level

variable {cancelled : Cancelled} {down : Summary → String → String → FileRun Summary}
  (hadvances : ∀ done path remote, Advances (down done path remote))
  (hdown : ∀ done dir name remote, TakenName bytes name →
    Takes bytes dir (down done (Path.join dir name) remote))
include hadvances hdown

theorem takes_pullEntries (remote : String) (done : Summary) {entries : List FileEntry}
    (h : ∀ entry ∈ entries, ListedIn bytes entry.name) :
    Takes bytes dir (pullEntries cancelled down dir remote done entries) := by
  induction entries generalizing done with
  | nil => exact takes_return (.ok done)
  | cons entry entries ih =>
    obtain ⟨hentry, hentries⟩ := List.forall_mem_cons.mp h
    refine Takes.bind ?_ (advances_pullEntry cancelled hadvances dir remote done entry)
      fun done => ih done hentries
    rw [pullEntry]
    split
    · exact takes_return (.ok done)
    · next hdots =>
      have hname := hentry.taken hdots
      split
      · exact hdown done dir entry.name _ hname
      · exact (takes_pullInto hname cancelled _ _).bind (advances_pullInto cancelled _ _ _)
          fun received => takes_return (.ok _)
      · exact takes_return (.ok done)

/-- **A level is the making of its directory, and the entries in it.** There are none if the
directory could not be made. -/
theorem took_pullLevel (done : Summary) (path remote : String) {f : FileTransfer}
    (hf : f.unread <:+ bytes) :
    ∃ taken, Took bytes path (f.tree.makeAll path).2
        (pullLevel cancelled down done path remote f).2.tree taken ∧
      ((f.tree.makeAll path).1 = .ok () ∨ taken = []) := by
  rw [pullLevel, Run.bind_apply, makeAll]
  generalize f.tree.makeAll path = out
  obtain ⟨_ | made, tree⟩ := out
  · exact ⟨[], .nothing tree, .inr rfl⟩
  · show ∃ taken, Took bytes path tree
        ((_ >>= _ : FileRun Summary) { f with tree }).2.tree taken ∧ _
    rw [Run.bind_apply]
    split
    · next entries f' hlist =>
      obtain ⟨hreads, hnames⟩ := listed_of_list hlist hf
      obtain ⟨-, rfl⟩ := Prod.mk.inj hlist
      obtain ⟨taken, htaken⟩ := takes_pullEntries hadvances hdown remote done hnames _ hreads
      exact ⟨taken, htaken, .inl rfl⟩
    · next e f' hlist =>
      obtain ⟨-, rfl⟩ := Prod.mk.inj hlist
      exact ⟨[], .nothing tree, .inr rfl⟩

end Level

/-- **A directory below is one entry, and those in it.** -/
theorem takes_pullLevels (cancelled : Cancelled) (levels : Nat) (done : Summary)
    (dir name remote : String) (hname : TakenName bytes name) :
    Takes bytes dir (pullLevels cancelled levels done (Path.join dir name) remote) := by
  induction levels generalizing done dir name remote with
  | zero => exact takes_return (.error _)
  | succ levels ih =>
    intro f hf
    obtain ⟨below, hbelow, -⟩ := took_pullLevel (advances_pullLevels cancelled levels) ih done
      (Path.join dir name) remote hf
    refine ⟨⟨dir, name, none⟩ :: (below ++ []), .directory name hbelow.walked (.nil dir), ?_, ?_⟩
    · rw [List.append_nil]
      exact List.forall_mem_cons.mpr ⟨hname, hbelow.named⟩
    · rw [List.append_nil]
      exact hbelow.tree

theorem takes_pullBelow (cancelled : Cancelled) (done : Summary) (dir name remote : String)
    (hname : TakenName bytes name) :
    Takes bytes dir (pullBelow cancelled done (Path.join dir name) remote) := fun f hf =>
  takes_pullLevels cancelled _ done dir name remote hname f hf

/--
**A fetched directory stays below its target exactly if no name of an entry leads out.**

Whatever the device sends and however the fetch ends: the target is made with all that is missing
above it, and then entries are taken, each by joining a name to the target or to a directory that
was taken before. Every name came in a list, and none is `.` or `..`. All entries go to paths below
the target exactly if none of their names leads out of it, and then, once the target is made, every
directory and every file that is made is below it.
-/
theorem pullDirectory_below (cancelled : Cancelled) (path remote : String) (f : FileTransfer) :
    ∃ taken : List Taken, Walked path taken ∧ (∀ t ∈ taken, TakenName f.unread t.name) ∧
      (pullDirectory cancelled path remote f).2.tree = putAll taken (f.tree.makeAll path).2 ∧
      ((∀ t ∈ taken, Below path t.path) ↔ ∀ t ∈ taken, ¬ LeadsOut path t.name) ∧
      FileTree.Made (Above path) (fun _ => False) f.tree (f.tree.makeAll path).2 ∧
      ((∀ t ∈ taken, ¬ LeadsOut path t.name) →
        FileTree.Made (Below path) (Below path) (f.tree.makeAll path).2
          (pullDirectory cancelled path remote f).2.tree) := by
  obtain ⟨taken, htaken, hthere⟩ := took_pullLevel (advances_pullBelow cancelled)
    (takes_pullBelow cancelled) {} path remote (List.suffix_refl f.unread)
  rw [pullDirectory, pullBelow_eq]
  have hiff := htaken.walked.below_iff (Path.below_self path)
  refine ⟨taken, htaken.walked, htaken.named, htaken.tree, hiff, f.tree.makeAll_made path,
    fun hnames => ?_⟩
  rw [htaken.tree]
  rcases hthere with hmade | rfl
  · exact Taken.putAll_made (hiff.mpr hnames) (FileTree.makeAll_entered hmade)
  · exact .refl _

/-- A device gives a file the name `../notes`, and the file of that name beside the target is
overwritten. -/
theorem pullDirectory_outside :
    let entry : SentEntry := ⟨⟨0o100644, 1, 0⟩, Utf8.ofString "../notes"⟩
    let listing := entry.block ++ SyncCommand.done.id ++ List.replicate 16 0
    let content := SyncCommand.data.block [2] ++ SyncCommand.done.word 0
    let tree : FileTree :=
      ⟨[(["tmp"], .directory), (["tmp", "out"], .directory), (["tmp", "notes"], .file [1] 0o644 0)]⟩
    let session : SyncSession := { link := { inflow := .ofBytes (listing ++ content) } }
    ¬ ["tmp", "out"] <+: ["tmp", "notes"] ∧
      (pullDirectory (fun _ => false) "/tmp/out" "/r" ⟨{ session }, tree⟩).2.tree.get?
        ["tmp", "notes"] = some (.file [2] 0o644 0) := by
  decide +kernel

end FileTransfer

end DebugBridge
