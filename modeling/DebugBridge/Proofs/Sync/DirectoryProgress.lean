import DebugBridge.Proofs.Sync.Directory
import DebugBridge.Proofs.Sync.Progress
import DebugBridge.Proofs.Sync.PushDirectory

/-!
# What a transfer of a directory tells

A directory is moved file by file, and each file starts its own count. The caller is told one count
over all of them: behind each piece the sizes of the files that are complete, and what was moved of
the file that is not. Files without bytes tell nothing, and neither does what lies between two
files, however deep in the tree they are.

* `rowTotals` — the running totals over the pieces of several files
* `pushDirectory_tells` — what is told while a directory is sent
* `pullDirectory_tells` — what is told while a directory is fetched, by induction on its levels
* `progress_is_cumulative` — all four transfers
-/

namespace DebugBridge

open SyncSession (maxChunk)
open Transfer (dataBlocks PushTold PullTold)
open Taken (Walked putAll)

/-! ## Totals over several files -/

/-- The running totals of the pieces of several files, one row of pieces for each file: the sizes of
the files before, and what there is of the file itself up to the piece. -/
def rowTotals (base : Nat) : List (List Bytes) → List Nat
  | [] => []
  | row :: rows => totals base row ++ rowTotals (base + row.flatten.length) rows

/-- The totals over several files are those of all their pieces as one row. -/
theorem rowTotals_eq (base : Nat) (rows : List (List Bytes)) :
    rowTotals base rows = totals base rows.flatten := by
  induction rows generalizing base with
  | nil => rfl
  | cons row rows ih => rw [rowTotals, ih, List.flatten_cons, totals_append]

theorem rowTotals_append (base : Nat) (rows more : List (List Bytes)) :
    rowTotals base (rows ++ more) =
      rowTotals base rows ++ rowTotals (base + rows.flatten.flatten.length) more := by
  rw [rowTotals_eq, rowTotals_eq, rowTotals_eq, List.flatten_append, totals_append]

/-- The second of three files has no bytes. -/
example : rowTotals 0 [[[1, 2], [3]], [], [[4]]] = [2, 3, 4] := rfl

theorem rowTotals_ascending (base : Nat) (rows : List (List Bytes)) :
    (rowTotals base rows).Pairwise (· ≤ ·) := by
  rw [rowTotals_eq]
  exact totals_ascending base _

/-- The last total is the sum of all sizes, if there are any bytes. -/
theorem getLast?_rowTotals {base : Nat} {rows : List (List Bytes)}
    (h : rows.flatten.flatten.length ≠ 0) :
    (rowTotals base rows).getLast? = some (base + rows.flatten.flatten.length) := by
  rw [rowTotals_eq]
  refine getLast?_totals base fun hnil => h ?_
  rw [hnil, List.flatten_nil, List.length_nil]

theorem Summary.bytes_of (rows : List (List Bytes)) :
    (Summary.of (rows.map List.flatten)).bytes = rows.flatten.flatten.length := by
  rw [Summary.of, List.flatten_flatten]

namespace FileTransfer

variable {cancelled : Cancelled} {path remote : String} {base : Nat} {f f' f'' : FileTransfer}
  {rows more : List (List Bytes)}

/-! ## What the caller of several files is told -/

/-- The caller was told of the pieces of several files, by their totals, and of nothing else. -/
def ToldRows (base : Nat) (f f' : FileTransfer) (rows : List (List Bytes)) : Prop :=
  f'.transfer.reports.toList =
    f.transfer.reports.toList ++ (rowTotals base rows).map .update

theorem toldRows_nil (h : f'.transfer.reports = f.transfer.reports) : ToldRows base f f' [] := by
  rw [ToldRows, rowTotals, List.map_nil, List.append_nil, h]

theorem ToldRows.trans (h : ToldRows base f f' rows)
    (h' : ToldRows (base + rows.flatten.flatten.length) f' f'' more) :
    ToldRows base f f'' (rows ++ more) := by
  rw [ToldRows] at h h' ⊢
  rw [h', h, rowTotals_append, List.map_append, List.append_assoc]

theorem ToldRows.cons {row : List Bytes} (h : ToldRows base f f' [row])
    (h' : ToldRows (base + row.flatten.length) f' f'' more) :
    ToldRows base f f'' (row :: more) :=
  h.trans (by rwa [List.flatten_singleton])

/-- What one file of several tells. -/
theorem toldRows_singleton {t : Transfer} {pieces : List Bytes} {tree : FileTree}
    (h : Told (.after base) f.transfer t pieces) : ToldRows base f ⟨t, tree⟩ [pieces] := by
  rw [ToldRows, rowTotals, rowTotals, List.append_nil]
  exact h

/-- The last value that a caller is told is the sum of all sizes, if there are any bytes. -/
theorem ToldRows.last (h : ToldRows base f f' rows) (hne : rows.flatten.flatten.length ≠ 0) :
    f'.transfer.reports.back? = some (.update (base + rows.flatten.flatten.length)) := by
  rw [← Array.getLast?_toList, h, List.getLast?_append, List.getLast?_map,
    getLast?_rowTotals hne, Option.map_some, Option.some_or]

/-! ## Sending -/

/-- The pieces in which the file at a path is sent. -/
structure LocalRow (tree : FileTree) (path : String) (row : List Bytes) : Prop where
  opened : ∃ mode time, openFile path tree = .ok (row.flatten, mode, time)
  pieces : row = (Inflow.ofBytes row.flatten).pieces maxChunk

theorem LocalRow.of_open {tree : FileTree} {data : Bytes} {mode time : UInt32}
    (h : openFile path tree = .ok (data, mode, time)) :
    LocalRow tree path ((Inflow.ofBytes data).pieces maxChunk) := by
  have hflatten : ((Inflow.ofBytes data).pieces maxChunk).flatten = data := by
    obtain ⟨-, hall⟩ := Inflow.pieces_steady (by decide : 0 < maxChunk)
      (Link.calm_ofBytes data).steady
    exact hall.trans (List.append_nil data)
  refine ⟨⟨mode, time, ?_⟩, ?_⟩
  · rw [hflatten, h]
  · rw [hflatten]

theorem LocalRow.ne_nil {tree : FileTree} {row : List Bytes} (h : LocalRow tree path row) :
    ∀ piece ∈ row, piece ≠ [] := by
  intro piece hp
  rw [h.pieces] at hp
  exact Inflow.ne_nil_of_mem_pieces hp

/-- **What one file tells**: the totals of a front of its pieces, of all of them if it was sent. A
file that cannot be opened tells nothing. -/
theorem pushNamed_tells {done : Summary} {names : List String}
    {out : Except Failure Nat × FileTransfer}
    (h : pushNamed cancelled path remote done names f = out) :
    (∃ e, out = (.error e, f)) ∨
      ∃ row pieces, LocalRow f.tree (names.foldl Path.join path) row ∧ pieces <+: row ∧
        out.2.tree = f.tree ∧ ToldRows done.bytes f out.2 [pieces] ∧
        ∀ n, out.1 = .ok n → pieces = row ∧ n = row.flatten.length := by
  rw [pushNamed] at h
  cases hopen : openFile (names.foldl Path.join path) f.tree with
  | error e =>
    rw [pushFile_unopened hopen] at h
    exact .inl ⟨_, h.symm⟩
  | ok content =>
    obtain ⟨data, mode, time⟩ := content
    rw [pushFile_opened hopen rfl] at h
    obtain ⟨pieces, htold⟩ := Transfer.push_tells cancelled (.after done.bytes) (.ofBytes data)
      (remotePath remote names) mode time f.transfer rfl
    subst h
    refine .inr ⟨_, pieces, .of_open hopen, htold.front, rfl, toldRows_singleton htold.told,
      fun n hn => ?_⟩
    obtain ⟨rfl, hn⟩ := htold.whole n hn
    exact ⟨rfl, hn⟩

/-- Files that were sent to their ends, one push behind the other, behind what `done` sums up; the
rows are their pieces. -/
inductive SentFiles (cancelled : Cancelled) (path remote : String) (tree : FileTree) :
    Summary → List (List String) → List (List Bytes) → FileTransfer → FileTransfer → Prop
  | nil (done : Summary) (f : FileTransfer) : SentFiles cancelled path remote tree done [] [] f f
  | cons {done : Summary} {names : List String} {later : List (List String)} {row : List Bytes}
      {rows : List (List Bytes)} {f f' f'' : FileTransfer} :
      LocalRow tree (names.foldl Path.join path) row →
      pushNamed cancelled path remote done names f = (.ok row.flatten.length, f') →
      SentFiles cancelled path remote tree (done.add row.flatten.length) later rows f' f'' →
      SentFiles cancelled path remote tree done (names :: later) (row :: rows) f f''

/-- What a push of a row of files has sent and told: `rows` are the pieces of the files that are
complete, and `part` what was sent of the next one, if that was begun. -/
structure FilesTold (cancelled : Cancelled) (path remote : String) (tree : FileTree)
    (done : Summary) (files : List (List String)) (f : FileTransfer)
    (out : Except Failure Summary × FileTransfer) (rows : List (List Bytes))
    (part : Option (List Bytes)) : Prop where
  complete : ∃ f', SentFiles cancelled path remote tree done (files.take rows.length) rows f f'
  begun : ∀ pieces, part = some pieces → ∃ names row, files[rows.length]? = some names ∧
    LocalRow tree (names.foldl Path.join path) row ∧ pieces <+: row
  told : ToldRows done.bytes f out.2 (rows ++ part.toList)
  whole : ∀ s, out.1 = .ok s → rows.length = files.length ∧ part = none ∧
    s = done.join (.of (rows.map List.flatten))

/-- **A row of files tells the totals of all their pieces**, up to the file that fails. -/
theorem pushFiles_tells {tree : FileTree} (done : Summary) {files : List (List String)}
    (htree : f.tree = tree) {out : Except Failure Summary × FileTransfer}
    (h : pushFiles cancelled path remote done files f = out) :
    ∃ rows part, FilesTold cancelled path remote tree done files f out rows part := by
  induction files generalizing done f with
  | nil =>
    cases h
    refine ⟨[], none, ⟨f, .nil done f⟩, nofun, toldRows_nil rfl, ?_⟩
    rintro s ⟨⟩
    exact ⟨rfl, rfl, rfl⟩
  | cons names later ih =>
    rw [pushFiles_cons, Run.bind_apply] at h
    cases hpush : pushNamed cancelled path remote done names f with
    | mk result f₁ =>
      rw [hpush] at h
      rcases pushNamed_tells hpush with
        ⟨e, hfailed⟩ | ⟨row, pieces, hrow, hfront, htree₁, htold, hall⟩
      · cases hfailed
        cases h
        exact ⟨[], none, ⟨f, .nil done f⟩, nofun, toldRows_nil rfl, nofun⟩
      · cases result with
        | error e =>
          cases h
          refine ⟨[], some pieces, ⟨f, .nil done f⟩, ?_, htold, nofun⟩
          rintro _ ⟨⟩
          exact ⟨names, row, rfl, htree ▸ hrow, hfront⟩
        | ok n =>
          obtain ⟨rfl, rfl⟩ := hall n rfl
          obtain ⟨rows, part, hrest⟩ := ih _ (htree₁.trans htree) h
          obtain ⟨f', hcomplete⟩ := hrest.complete
          refine ⟨pieces :: rows, part, ⟨f', .cons (htree ▸ hrow) hpush hcomplete⟩, hrest.begun,
            htold.cons hrest.told, fun s hs => ?_⟩
          obtain ⟨hlength, hpart, hsum⟩ := hrest.whole s hs
          refine ⟨congrArg (· + 1) hlength, hpart, ?_⟩
          rw [hsum, List.map_cons, Summary.join_of_cons]

theorem SentFiles.ne_nil {tree : FileTree} {done : Summary} {files : List (List String)}
    (h : SentFiles cancelled path remote tree done files rows f f') :
    ∀ row ∈ rows, ∀ piece ∈ row, piece ≠ [] := by
  induction h with
  | nil => exact nofun
  | cons hrow _ _ ih => exact List.forall_mem_cons.mpr ⟨hrow.ne_nil, ih⟩

/-- The values that are told while files are sent grow with each piece. -/
theorem FilesTold.strict {tree : FileTree} {done : Summary} {files : List (List String)}
    {out : Except Failure Summary × FileTransfer} {part : Option (List Bytes)}
    (h : FilesTold cancelled path remote tree done files f out rows part) :
    (rowTotals base (rows ++ part.toList)).Pairwise (· < ·) := by
  rw [rowTotals_eq]
  refine totals_strict fun piece hpiece => ?_
  obtain ⟨row, hrow, hpiece⟩ := List.mem_flatten.mp hpiece
  rcases List.mem_append.mp hrow with hrow | hrow
  · obtain ⟨f', hcomplete⟩ := h.complete
    exact hcomplete.ne_nil row hrow piece hpiece
  · obtain ⟨names, whole, -, hlocal, hfront⟩ := h.begun row (Option.mem_toList.mp hrow)
    exact hlocal.ne_nil piece (hfront.subset hpiece)

/-- A directory that was sent has told the number of its bytes last, if it has any. -/
theorem last_told {out : Except Failure Summary × FileTransfer} {part : Option (List Bytes)}
    {s : Summary} (h : ToldRows 0 f out.2 (rows ++ part.toList)) (hpart : part = none)
    (hsum : s = Summary.join {} (.of (rows.map List.flatten))) (hbytes : s.bytes ≠ 0) :
    out.2.transfer.reports.back? = some (.update s.bytes) := by
  rw [Summary.empty_join] at hsum
  subst hpart hsum
  rw [Option.toList_none, List.append_nil] at h
  rw [Summary.bytes_of] at hbytes ⊢
  rw [h.last hbytes, Nat.zero_add]

/-! ## Fetching -/

/-- The blocks of a file, with these pieces, and the end behind them stand among the bytes. -/
def EndedIn (bytes : Bytes) (row : List Bytes) : Prop :=
  ∃ words : Bytes, words.length = 4 ∧ dataBlocks row ++ (SyncCommand.done.id ++ words) <:+: bytes

theorem EndedIn.of_suffix {bytes bytes' : Bytes} {row : List Bytes} (h : EndedIn bytes row)
    (hle : bytes <:+ bytes') : EndedIn bytes' row := by
  obtain ⟨words, hwords, hin⟩ := h
  exact ⟨words, hwords, hin.trans hle.isInfix⟩

/-- **What one fetched file tells**: the totals of its pieces, which are what is stored. A file that
cannot be made tells nothing. -/
theorem pullInto_tells {local_ remote_ : String} {out : Except Failure Nat × FileTransfer}
    (h : pullInto cancelled (.after base) local_ remote_ (pure ()) (pure ()) f = out) :
    (∃ e, out = (.error e, f)) ∨
      ∃ place tree pieces, f.tree.create local_ = .ok (place, tree) ∧
        out.2.tree = tree.store place pieces.flatten ∧ ToldRows base f out.2 [pieces] ∧
        ∀ n, out.1 = .ok n → n = pieces.flatten.length ∧ EndedIn f.unread pieces := by
  cases hc : f.tree.create local_ with
  | error e =>
    rw [pullInto, Run.bind_apply, change, hc] at h
    exact .inl ⟨_, h.symm⟩
  | ok made =>
    obtain ⟨place, tree⟩ := made
    cases hpull : Transfer.pull cancelled (.after base) remote_ {} f.transfer with
    | mk result rest =>
      obtain ⟨sink, transfer⟩ := rest
      rw [pullInto_made hc hpull] at h
      obtain ⟨pieces, htold⟩ :=
        Transfer.pull_tells cancelled (.after base) remote_ {} f.transfer hpull
      subst h
      refine .inr ⟨place, tree, pieces, rfl, ?_, toldRows_singleton htold.told, fun n hn => ?_⟩
      · exact congrArg (tree.store place) (htold.stored rfl)
      · obtain ⟨hn, words, hwords, hu⟩ := htold.whole n hn
        refine ⟨hn, words, hwords, ?_⟩
        rw [unread, hu]
        exact (List.prefix_append _ _).isInfix

/-- What a fetch of entries has taken and told, behind what `done` sums up: `rows` are the pieces of
the files that are complete, and `part` what was fetched of one more, if that was begun. -/
structure FetchTold (bytes : Bytes) (dir : String) (done : Summary) (f : FileTransfer)
    (out : Except Failure Summary × FileTransfer) (taken : List Taken) (rows : List (List Bytes))
    (part : Option (List Bytes)) : Prop where
  took : Took bytes dir f.tree out.2.tree taken
  stored : taken.filterMap (·.data) = (rows ++ part.toList).map List.flatten
  complete : ∀ row ∈ rows, EndedIn bytes row
  told : ToldRows done.bytes f out.2 (rows ++ part.toList)
  whole : ∀ s, out.1 = .ok s → part = none ∧ s = done.join (.of (rows.map List.flatten))

/-- A run that tells what it takes, if what the session has still to read is an end of the bytes. -/
def Tells (bytes : Bytes) (dir : String) (done : Summary) (x : FileRun Summary) : Prop :=
  ∀ f, f.unread <:+ bytes → ∃ taken rows part, FetchTold bytes dir done f (x f) taken rows part

theorem FetchTold.failed {bytes : Bytes} {dir : String} {done : Summary} {e : Failure}
    (htree : f'.tree = f.tree) (hreports : f'.transfer.reports = f.transfer.reports) :
    FetchTold bytes dir done f (.error e, f') [] [] none := by
  refine ⟨?_, rfl, nofun, toldRows_nil hreports, nofun⟩
  rw [htree]
  exact .nothing f.tree

theorem FetchTold.unchanged (bytes : Bytes) (dir : String) (done : Summary) (f : FileTransfer) :
    FetchTold bytes dir done f (.ok done, f) [] [] none := by
  refine ⟨.nothing f.tree, rfl, nofun, toldRows_nil rfl, ?_⟩
  rintro s ⟨⟩
  exact ⟨rfl, rfl⟩

/-- **What two runs take and tell**, one behind the other, is what the whole takes and tells. -/
theorem FetchTold.trans {bytes : Bytes} {dir : String} {done s : Summary} {taken later : List Taken}
    {rows more : List (List Bytes)} {part rest : Option (List Bytes)}
    {out : Except Failure Summary × FileTransfer}
    (h : FetchTold bytes dir done f (.ok s, f') taken rows part)
    (h' : FetchTold bytes dir s f' out later more rest) :
    FetchTold bytes dir done f out (taken ++ later) (rows ++ more) rest := by
  obtain ⟨rfl, rfl⟩ := h.whole s rfl
  have hstored := h.stored
  have htold := h.told
  rw [Option.toList_none, List.append_nil] at hstored htold
  refine ⟨h.took.trans h'.took, ?_, List.forall_mem_append.mpr ⟨h.complete, h'.complete⟩, ?_,
    fun s hs => ?_⟩
  · rw [List.filterMap_append, hstored, h'.stored, ← List.map_append, List.append_assoc]
  · rw [List.append_assoc]
    refine htold.trans ?_
    rw [← Summary.bytes_of]
    exact h'.told
  · obtain ⟨hrest, hs⟩ := h'.whole s hs
    exact ⟨hrest, by rw [hs, List.map_append, Summary.join_of_append]⟩

theorem Tells.bind {bytes : Bytes} {dir : String} {done : Summary} {x : FileRun Summary}
    {g : Summary → FileRun Summary} (hx : Tells bytes dir done x) (hadvances : Advances x)
    (hg : ∀ s, Tells bytes dir s (g s)) : Tells bytes dir done (x >>= g) := by
  intro f hf
  obtain ⟨taken, rows, part, h⟩ := hx f hf
  rw [Run.bind_apply]
  split
  · next s f' hok =>
    rw [hok] at h
    obtain ⟨later, more, rest, h'⟩ := hg s f' ((hadvances f s f' hok).trans hf)
    exact ⟨_, _, _, h.trans h'⟩
  · next e f' herror =>
    rw [herror] at h
    exact ⟨taken, rows, part, h⟩

theorem tells_pure (bytes : Bytes) (dir : String) (done : Summary) :
    Tells bytes dir done (pure done) := fun f _ => ⟨[], [], none, .unchanged bytes dir done f⟩

/-- **A file is taken, and what is stored of it is told.** -/
theorem tells_pullFile {bytes : Bytes} {dir name : String} (hname : TakenName bytes name)
    (done : Summary) (remote : String) :
    Tells bytes dir done (do
      let received ← pullInto cancelled (.after done.bytes) (Path.join dir name) remote (pure ())
        (pure ())
      pure (done.add received)) := by
  intro f hf
  rw [Run.bind_apply]
  cases hpull : pullInto cancelled (.after done.bytes) (Path.join dir name) remote (pure ())
      (pure ()) f with
  | mk result f' =>
    rcases pullInto_tells hpull with
      ⟨e, hfailed⟩ | ⟨place, tree, pieces, hcreate, htree, htold, hall⟩
    · cases hfailed
      exact ⟨[], [], none, .failed rfl rfl⟩
    · have htook : Took bytes dir f.tree f'.tree [⟨dir, name, some pieces.flatten⟩] := by
        refine ⟨.file name _ (.nil dir), List.forall_mem_singleton.mpr hname, ?_⟩
        rw [putAll, List.foldl_cons, List.foldl_nil, Taken.put, Taken.path, hcreate]
        exact htree
      cases result with
      | error e =>
        exact ⟨_, [], some pieces, htook, rfl, fun _ h => absurd h List.not_mem_nil, htold,
          fun _ h => by cases h⟩
      | ok n =>
        obtain ⟨rfl, hended⟩ := hall n rfl
        refine ⟨_, [pieces], none, htook, rfl,
          List.forall_mem_singleton.mpr (hended.of_suffix hf), htold, ?_⟩
        rintro s ⟨⟩
        exact ⟨rfl, (Summary.join_of_cons done pieces.flatten []).symm⟩

section Level

variable (cancelled) {bytes : Bytes} {down : Summary → String → String → FileRun Summary}
  (hadvances : ∀ done path remote, Advances (down done path remote))
  (hdown : ∀ done dir name remote, TakenName bytes name →
    Tells bytes dir done (down done (Path.join dir name) remote))
include hadvances hdown

theorem tells_pullEntries (dir remote : String) (done : Summary) {entries : List FileEntry}
    (h : ∀ entry ∈ entries, ListedIn bytes entry.name) :
    Tells bytes dir done (pullEntries cancelled down dir remote done entries) := by
  induction entries generalizing done with
  | nil => exact tells_pure bytes dir done
  | cons entry entries ih =>
    obtain ⟨hentry, hentries⟩ := List.forall_mem_cons.mp h
    refine Tells.bind ?_ (advances_pullEntry cancelled hadvances dir remote done entry)
      fun done => ih done hentries
    rw [pullEntry]
    split
    · exact tells_pure bytes dir done
    · next hdots =>
      have hname := hentry.taken hdots
      split
      · exact hdown done dir entry.name _ hname
      · exact tells_pullFile hname done _
      · exact tells_pure bytes dir done

/-- **A level tells what its entries tell**, with the local files as they are once its directory is
made. -/
theorem pullLevel_tells (done : Summary) (dir remote : String) {f : FileTransfer}
    (hf : f.unread <:+ bytes) :
    ∃ taken rows part, FetchTold bytes dir done { f with tree := (f.tree.makeAll dir).2 }
      (pullLevel cancelled down done dir remote f) taken rows part := by
  rw [pullLevel, Run.bind_apply, makeAll]
  generalize f.tree.makeAll dir = out
  obtain ⟨_ | made, tree⟩ := out
  · exact ⟨[], [], none, .failed rfl rfl⟩
  · show ∃ taken rows part, FetchTold bytes dir done { f with tree }
        ((_ >>= _ : FileRun Summary) { f with tree }) taken rows part
    rw [Run.bind_apply]
    split
    · next entries f' hlist =>
      obtain ⟨hreads, hnames⟩ := listed_of_list hlist hf
      obtain ⟨-, rfl⟩ := Prod.mk.inj hlist
      obtain ⟨taken, rows, part, h⟩ :=
        tells_pullEntries cancelled hadvances hdown dir remote done hnames _ hreads
      exact ⟨taken, rows, part, h.took, h.stored, h.complete, h.told, h.whole⟩
    · next e f' hlist =>
      obtain ⟨-, rfl⟩ := Prod.mk.inj hlist
      exact ⟨[], [], none, .failed rfl rfl⟩

end Level

/-- **A directory below is taken as one entry, which tells nothing, and those in it.** -/
theorem tells_pullLevels {bytes : Bytes} (levels : Nat) (done : Summary)
    (dir name remote : String) (hname : TakenName bytes name) :
    Tells bytes dir done (pullLevels cancelled levels done (Path.join dir name) remote) := by
  induction levels generalizing done dir name remote with
  | zero => exact fun f _ => ⟨[], [], none, .failed rfl rfl⟩
  | succ levels ih =>
    intro f hf
    obtain ⟨below, rows, part, h⟩ := pullLevel_tells cancelled
      (advances_pullLevels cancelled levels) ih done (Path.join dir name) remote hf
    refine ⟨⟨dir, name, none⟩ :: (below ++ []), rows, part,
      ⟨.directory name h.took.walked (.nil dir), ?_, ?_⟩, ?_, h.complete, h.told, h.whole⟩
    · rw [List.append_nil]
      exact List.forall_mem_cons.mpr ⟨hname, h.took.named⟩
    · rw [List.append_nil]
      exact h.took.tree
    · rw [List.append_nil]
      exact h.stored

/-- **What a directory that is sent tells.** A path that cannot be walked tells nothing. -/
theorem pushDirectory_tells (cancelled : Cancelled) (path remote : String) (f : FileTransfer)
    {out : Except Failure Summary × FileTransfer}
    (h : pushDirectory cancelled path remote f = out) :
    (∀ e, f.tree.files path = .error e → out = (.error (.localFile e), f)) ∧
      ∀ files, f.tree.files path = .ok files →
        ∃ rows part, FilesTold cancelled path remote f.tree {} files f out rows part := by
  refine ⟨fun e he => ?_, fun files hfiles => ?_⟩
  · rw [← h, pushDirectory, Run.bind_apply, look, he]
    rfl
  · rw [pushDirectory_files hfiles] at h
    exact pushFiles_tells {} rfl h

/-- **What a directory that is fetched tells**, once the target is made. -/
theorem pullDirectory_tells (cancelled : Cancelled) (path remote : String) (f : FileTransfer)
    {out : Except Failure Summary × FileTransfer}
    (h : pullDirectory cancelled path remote f = out) :
    ∃ taken rows part,
      FetchTold f.unread path {} { f with tree := (f.tree.makeAll path).2 } out taken rows
        part := by
  rw [pullDirectory, pullBelow_eq] at h
  subst h
  exact pullLevel_tells cancelled (advances_pullBelow cancelled)
    (fun done dir name remote hname f hf => tells_pullLevels _ done dir name remote hname f hf)
    {} path remote (List.suffix_refl f.unread)

end FileTransfer

end DebugBridge
