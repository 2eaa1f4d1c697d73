import DebugBridge.Proofs.Sync.Directory
import DebugBridge.Proofs.Sync.RemoteTree

/-!
# A fetched directory is what the device has

A fetch of a directory goes through its entries one after another, and into a directory as soon as
it comes to one. It keeps one session and one sum on the way. Each step asks for one thing, reads
exactly the answer to it and changes the local files as the step says, so the whole asks for the
items of the remote tree in the order of its walk and makes exactly them.

* `Fetched` — what a run that succeeds has written, read and made; `Fetched.bind`, one run after
  another
* `entriesFetched` — the entries of any remote tree are fetched, by induction on the tree
* `pullDirectory_reproduces` — the local files, the sum, the requests, and what is left unread
-/

namespace DebugBridge

open DebugBridge.Path (joinRemote)
open SyncSession (maxChunk maxPath Onward)

namespace RemoteTree

/-- The names in a list are short, since paths are. -/
theorem length_name_le {remote : String} {tree : RemoteTree}
    (h : ∀ p ∈ tree.paths remote, Utf8.size p ≤ maxPath) :
    ∀ sent ∈ tree.entries, sent.name.length ≤ maxChunk := by
  have hname : ∀ name : String, Utf8.size (joinRemote remote name) ≤ maxPath →
      (Utf8.ofString name).length ≤ maxChunk := by
    intro name hsize
    rw [Path.size_joinRemote] at hsize
    rw [Frame.length_ofString]
    exact Nat.le_trans (Nat.le_trans (Nat.le_add_left _ _) hsize) (by decide)
  have hdots : ∀ above : Bool,
      (Utf8.ofString (if above then ".." else ".")).length ≤ maxChunk := by decide
  induction tree with
  | nil => exact nofun
  | dots above stat rest ih => exact List.forall_mem_cons.mpr ⟨hdots above, ih h⟩
  | file name stat _ data rest ih =>
    obtain ⟨hself, hrest⟩ := List.forall_mem_cons.mp h
    exact List.forall_mem_cons.mpr ⟨hname name hself, ih hrest⟩
  | directory name stat _ below rest _ ih =>
    obtain ⟨hself, hrest⟩ := List.forall_mem_cons.mp h
    exact List.forall_mem_cons.mpr ⟨hname name hself, ih (List.forall_mem_append.mp hrest).2⟩
  | other name stat _ rest ih =>
    obtain ⟨hself, hrest⟩ := List.forall_mem_cons.mp h
    exact List.forall_mem_cons.mpr ⟨hname name hself, ih hrest⟩

end RemoteTree

open RemoteTree (Item)

/-- A name comes to the caller as the device has it. -/
theorem SentEntry.entry_ofString (stat : FileStat) (name : String) :
    entry ⟨stat, Utf8.ofString name⟩ = ⟨name, stat⟩ := by
  rw [entry, Utf8.lenientString, Utf8.lenient_ofString, String.ofList_toList]

namespace FileTransfer

variable {α β : Type} {f : FileTransfer} {answer : SyncRequest → Bytes}

/-! ## Runs that succeed -/

/-- The session is open, and its connection is calm. -/
structure Ready (f : FileTransfer) : Prop where
  isOpen : f.transfer.session.isOpen = true
  calm : f.transfer.session.link.Calm

/-- A run on `f` came to `a`: it has written `request`, `rest` is what it left unread, and the local
files are those of `tree`. -/
structure Fetched (f : FileTransfer) (request rest : Bytes) (tree : FileTree) (a : α)
    (out : Except Failure α × FileTransfer) : Prop where
  result : out.1 = .ok a
  tree : out.2.tree = tree
  onward : Onward f.transfer.session out.2.transfer.session request
  unread : out.2.unread = rest

theorem fetched_pure (hready : Ready f) (a : α) :
    Fetched f [] f.unread f.tree a ((pure a : FileRun α) f) :=
  ⟨rfl, rfl, .refl hready.isOpen, rfl⟩

/-- What comes after a run that succeeds goes on from where it ended. -/
theorem Fetched.goes_on (hready : Ready f) {x : FileRun α} {request rest : Bytes} {tree : FileTree}
    {a : α} (hx : Fetched f request rest tree a (x f)) :
    ∃ f', (∀ {β : Type} (g : α → FileRun β), (x >>= g) f = g a f') ∧ Ready f' ∧
      Onward f.transfer.session f'.transfer.session request ∧ f'.tree = tree ∧
      f'.unread = rest := by
  cases hout : x f with
  | mk result f' =>
    rw [hout] at hx
    obtain rfl := hx.result
    refine ⟨f', fun g => ?_, ⟨hx.onward.isOpen, hx.onward.calm hready.calm⟩, hx.onward, hx.tree,
      hx.unread⟩
    rw [Run.bind_apply, hout]

/-- **One run after another.** -/
theorem Fetched.bind (hready : Ready f) {x : FileRun α} {g : α → FileRun β}
    {request more rest left : Bytes} {tree filled : FileTree} {a : α} {b : β}
    (hx : Fetched f request rest tree a (x f))
    (hg : ∀ f', Ready f' → f'.tree = tree → f'.unread = rest →
      Fetched f' more left filled b (g a f')) :
    Fetched f (request ++ more) left filled b ((x >>= g) f) := by
  obtain ⟨f', happly, hready', honward, htree, hu⟩ := hx.goes_on hready
  have h := hg f' hready' htree hu
  rw [happly]
  exact ⟨h.result, h.tree, honward.trans h.onward, h.unread⟩

theorem Fetched.map {x : FileRun α} {request rest : Bytes} {tree : FileTree} {a : α}
    (hx : Fetched f request rest tree a (x f)) (g : α → β) :
    Fetched f request rest tree (g a) ((x >>= fun a => pure (g a)) f) := by
  cases hout : x f with
  | mk result f' =>
    rw [hout] at hx
    obtain rfl := hx.result
    rw [Run.bind_apply, hout]
    exact ⟨rfl, hx.tree, hx.onward, hx.unread⟩

theorem fetched_makeAll (hready : Ready f) {path : String} {made : FileTree}
    (h : f.tree.makeDirectories path = .ok made) :
    Fetched f [] f.unread made () (makeAll path f) := by
  rw [makeAll, FileTree.makeAll_of_makeDirectories h]
  exact ⟨rfl, rfl, .refl hready.isOpen, rfl⟩

theorem fetched_list (hready : Ready f) {remote : String} (hp : Utf8.size remote ≤ maxPath)
    {tree : RemoteTree} (hnames : ∀ sent ∈ tree.entries, sent.name.length ≤ maxChunk)
    (hlists : tree.Lists answer remote) {rest : Bytes}
    (hu : f.unread = answer ⟨.list, remote⟩ ++ rest) :
    Fetched f (SyncRequest.bytes ⟨.list, remote⟩) rest f.tree (tree.entries.map SentEntry.entry)
      (onSession (SyncSession.list remote) f) := by
  obtain ⟨words, hwords, hanswer⟩ := hlists
  rw [hanswer] at hu
  have h := SyncSession.list_served hready.isOpen hready.calm hp hnames hwords hu
  exact ⟨h.result, rfl, h.onward, h.unread⟩

theorem fetched_pullInto (hready : Ready f) {remote : String} (hp : Utf8.size remote ≤ maxPath)
    {data : Bytes} (hgives : RemoteTree.Gives answer maxChunk remote data) {path : String}
    {place : Place} {made : FileTree} (hmade : f.tree.create path = .ok (place, made))
    {rest : Bytes} (hu : f.unread = answer ⟨.receive, remote⟩ ++ rest) (reporting : Reporting) :
    Fetched f (SyncRequest.bytes ⟨.receive, remote⟩) rest (made.store place data) data.length
      (pullInto (fun _ => false) reporting path remote (pure ()) (pure ()) f) := by
  obtain ⟨pieces, words, hpieces, hwords, rfl, hanswer⟩ := hgives
  rw [hanswer] at hu
  cases hpull : Transfer.pull (fun _ => false) reporting remote {} f.transfer with
  | mk result out =>
    obtain ⟨hstored, h⟩ := Transfer.pull_served reporting hready.isOpen hready.calm hp rfl rfl
      hpieces hwords hu hpull
    rw [pullInto_made hmade hpull]
    exact ⟨h.result, by rw [hstored]; rfl, h.onward, h.unread⟩

/-! ## Remote trees -/

/-- The entries of a remote tree are fetched wherever a device holds them and the local files take
them. -/
def EntriesFetched (answer : SyncRequest → Bytes) (tree : RemoteTree) : Prop :=
  ∀ {path remote : String} (done : Summary) {f : FileTransfer} {filled : FileTree} {rest : Bytes},
    (∀ p ∈ tree.paths remote, Utf8.size p ≤ maxPath) → tree.Holds answer maxChunk remote →
    tree.items.foldlM (Item.make path) f.tree = .ok filled → Ready f →
    f.unread = (tree.items.map (Item.request remote)).flatMap answer ++ rest →
    Fetched f ((tree.items.map (Item.request remote)).flatMap SyncRequest.bytes) rest filled
      (done.join (.of tree.contents))
      (pullEntries (fun _ => false) (pullBelow fun _ => false) path remote done
        (tree.entries.map SentEntry.entry) f)

/-- A directory is fetched, if what is in it is. -/
theorem fetched_pullBelow {tree : RemoteTree} (h : EntriesFetched answer tree)
    {path remote : String} (done : Summary) (hp : Utf8.size remote ≤ maxPath)
    (hpaths : ∀ p ∈ tree.paths remote, Utf8.size p ≤ maxPath)
    (hserves : tree.Serves answer maxChunk remote) {made filled : FileTree}
    (hmade : f.tree.makeDirectories path = .ok made)
    (hfilled : tree.items.foldlM (Item.make path) made = .ok filled) (hready : Ready f)
    {rest : Bytes} (hu : f.unread = (tree.requests remote).flatMap answer ++ rest) :
    Fetched f ((tree.requests remote).flatMap SyncRequest.bytes) rest filled
      (done.join (.of tree.contents)) (pullBelow (fun _ => false) done path remote f) := by
  rw [RemoteTree.requests, List.flatMap_cons, List.append_assoc] at hu
  rw [pullBelow_eq, RemoteTree.requests, List.flatMap_cons]
  refine (fetched_makeAll hready hmade).bind hready fun f₁ hready₁ htree₁ hu₁ => ?_
  rw [← hu₁] at hu
  refine (fetched_list hready₁ hp (RemoteTree.length_name_le hpaths) hserves.1 hu).bind hready₁
    fun f₂ hready₂ htree₂ hu₂ => ?_
  rw [← htree₁, ← htree₂] at hfilled
  exact h done hpaths hserves.2 hfilled hready₂ hu₂

/-- An entry that is skipped. -/
theorem pullEntries_skip {cancelled : Cancelled}
    {down : Summary → String → String → FileRun Summary} {path remote : String} {done : Summary}
    {entry : FileEntry} {entries : List FileEntry}
    (h : pullEntry cancelled down path remote done entry = pure done) :
    pullEntries cancelled down path remote done (entry :: entries) =
      pullEntries cancelled down path remote done entries := by
  rw [pullEntries, h]
  rfl

/-- What becomes of an entry that is neither the directory itself nor the one above it is decided by
its kind. -/
theorem pullEntry_named (cancelled : Cancelled) (down : Summary → String → String → FileRun Summary)
    (path remote : String) (done : Summary) {name : String} (h : FileTree.Spelled name)
    (stat : FileStat) :
    pullEntry cancelled down path remote done ⟨name, stat⟩ =
      match stat.kind with
      | .directory => down done (Path.join path name) (joinRemote remote name)
      | .regular => do
        let received ← pullInto cancelled (.after done.bytes) (Path.join path name)
          (joinRemote remote name) (pure ()) (pure ())
        pure (done.add received)
      | _ => pure done := by
  have hdots : ¬ (name = "." ∨ name = "..") := not_or.mpr ⟨h.2.2.1, h.2.2.2⟩
  cases hkind : stat.kind <;> simp [pullEntry, hdots, hkind]

/-- **The entries of any remote tree are fetched.** -/
theorem entriesFetched (tree : RemoteTree) : EntriesFetched answer tree := by
  induction tree with
  | nil =>
    intro path remote done f filled rest _ _ hfilled hready hu
    cases hfilled
    cases hu
    exact fetched_pure hready done
  | dots above stat later ih =>
    intro path remote done f filled rest hpaths hholds hfilled hready hu
    rw [RemoteTree.entries, List.map_cons, SentEntry.entry_ofString, pullEntries_skip]
    · exact ih done hpaths hholds hfilled hready hu
    · rw [pullEntry, if_pos (by cases above <;> rfl)]
  | file name stat hregular data later ih =>
    intro path remote done f filled rest hpaths hholds hfilled hready hu
    obtain ⟨hp, hpaths⟩ := List.forall_mem_cons.mp hpaths
    -- the item is the file made empty and then given its data, as the fetch does it
    rw [RemoteTree.items, List.foldlM_cons] at hfilled
    obtain ⟨tree, hmade, hfilled⟩ := RemoteTree.ok_of_bind hfilled
    obtain ⟨⟨place, made⟩, hcreate, hstore⟩ := RemoteTree.ok_of_bind hmade
    cases hstore
    rw [RemoteTree.items, List.map_cons, List.flatMap_cons, List.append_assoc] at hu
    rw [RemoteTree.items, List.map_cons, List.flatMap_cons, RemoteTree.contents_file,
      Summary.join_of_cons, RemoteTree.entries, List.map_cons, SentEntry.entry_ofString,
      pullEntries, pullEntry_named _ _ _ _ _ name.2, hregular]
    refine ((fetched_pullInto hready hp hholds.1 hcreate hu _).map done.add).bind hready
      fun f' hready' htree hu' => ?_
    exact ih _ hpaths hholds.2 (htree ▸ hfilled) hready' hu'
  | directory name stat hdirectory below later ihbelow ih =>
    intro path remote done f filled rest hpaths hholds hfilled hready hu
    obtain ⟨hp, hpaths⟩ := List.forall_mem_cons.mp hpaths
    obtain ⟨hpathsBelow, hpaths⟩ := List.forall_mem_append.mp hpaths
    obtain ⟨hlists, hholdsBelow, hholds⟩ := hholds
    rw [RemoteTree.items, List.foldlM_cons] at hfilled
    obtain ⟨made, hmade, hfilled⟩ := RemoteTree.ok_of_bind hfilled
    -- the items below are made below the path of the directory, before those behind it
    rw [List.foldlM_append, RemoteTree.makeItems_under] at hfilled
    obtain ⟨inside, hinside, hfilled⟩ := RemoteTree.ok_of_bind hfilled
    rw [RemoteTree.requests_directory, List.flatMap_append, List.append_assoc] at hu
    rw [RemoteTree.requests_directory, List.flatMap_append, RemoteTree.contents_directory,
      Summary.join_of_append, RemoteTree.entries, List.map_cons, SentEntry.entry_ofString,
      pullEntries, pullEntry_named _ _ _ _ _ name.2, hdirectory]
    refine (fetched_pullBelow ihbelow done hp hpathsBelow ⟨hlists, hholdsBelow⟩ hmade hinside hready
      hu).bind hready fun f' hready' htree hu' => ?_
    exact ih _ hpaths hholds (htree ▸ hfilled) hready' hu'
  | other name stat hother later ih =>
    intro path remote done f filled rest hpaths hholds hfilled hready hu
    rw [RemoteTree.entries, List.map_cons, SentEntry.entry_ofString, pullEntries_skip]
    · exact ih done (List.forall_mem_cons.mp hpaths).2 hholds hfilled hready hu
    · rw [pullEntry_named _ _ _ _ _ name.2]
      split
      · next h => exact absurd h hother.2
      · next h => exact absurd h hother.1
      · rfl

/-- A file whose content breaks ends the fetch with its failure. -/
theorem pullEntries_breaks {down : Summary → String → String → FileRun Summary}
    {path remote name : String} {stat : FileStat} {entries : List FileEntry} {done : Summary}
    {e : Failure} (hready : Ready f) (hname : FileTree.Spelled name)
    (hregular : stat.kind = .regular) (hp : Utf8.size (joinRemote remote name) ≤ maxPath)
    {made : Place × FileTree}
    (hcreate : f.tree.create (Path.join path name) = .ok made)
    (hbreaks : SyncAnswer.content.Breaks f.unread e) :
    (pullEntries (fun _ => false) down path remote done (⟨name, stat⟩ :: entries) f).1 =
      .error e := by
  cases hpull : Transfer.pull (fun _ => false) (.after done.bytes) (joinRemote remote name) {}
      f.transfer with
  | mk result out =>
    have haccepts := SyncSession.accepts_pull (.after done.bytes) hready.isOpen hready.calm hp
      rfl rfl hpull
    obtain ⟨hresult, -, -⟩ := haccepts.broken [] e ⟨nofun, f.unread, rfl, hbreaks⟩
    obtain rfl : result = .error e := hresult
    rw [pullEntries, pullEntry_named _ _ _ _ _ hname, hregular, Run.bind_apply]
    simp only
    rw [Run.bind_apply, pullInto_made hcreate hpull]

/-! ## A directory -/

/--
**A fetched directory is what the device has.**

Of any remote tree, listed in any order together with the directories themselves and those above
them, and sent in pieces of any length that a block can have: if the target is empty once it is
made, and each item can be made where those before it have been made, then the fetch succeeds. The
items stand below the target, and all else is as it was. The sum is that of the files. The session
has written the requests for the directory and for the items, in order and none of them twice, and
it has read exactly the answers.
-/
theorem pullDirectory_reproduces {path remote : String} {tree : RemoteTree} {made filled : FileTree}
    {rest : Bytes} (hdistinct : tree.Distinct) (hp : Utf8.size remote ≤ maxPath)
    (hpaths : ∀ p ∈ tree.paths remote, Utf8.size p ≤ maxPath)
    (hserves : tree.Serves answer maxChunk remote) (hready : Ready f)
    (hu : f.unread = (tree.requests remote).flatMap answer ++ rest)
    (hmade : f.tree.makeDirectories path = .ok made)
    (hempty : ∀ dir, made.Base path dir → ∀ names, names ≠ [] → made.get? (dir ++ names) = none)
    (hfilled : tree.items.foldlM (Item.make path) made = .ok filled) :
    ∃ dir f', made.Base path dir ∧
      pullDirectory (fun _ => false) path remote f = (.ok (.of tree.contents), f') ∧
      f'.tree = RemoteTree.fill made dir tree.items ∧
      (∀ names node, names ≠ [] → (f'.tree.get? (dir ++ names) = some node ↔
        ∃ item ∈ tree.items, item.names = names ∧ item.node = node)) ∧
      f'.transfer.session.written =
        f.transfer.session.written ++ (tree.requests remote).flatMap SyncRequest.bytes ∧
      (tree.requests remote).Nodup ∧ f'.unread = rest ∧ Ready f' := by
  obtain ⟨dir, hbase⟩ := FileTree.makeDirectories_base hmade
  have hfetched :=
    fetched_pullBelow (entriesFetched tree) {} hp hpaths hserves hmade hfilled hready hu
  have hitems := RemoteTree.makeItems_eq hdistinct hbase
    (fun name _ more => hempty dir hbase (name :: more) (List.cons_ne_nil name more)) hfilled
  rw [Summary.empty_join] at hfetched
  refine ⟨dir, _, hbase, Prod.ext hfetched.result rfl, hfetched.tree.trans hitems, ?_,
    hfetched.onward.written, RemoteTree.nodup_requests hdistinct remote, hfetched.unread,
    hfetched.onward.isOpen, hfetched.onward.calm hready.calm⟩
  intro names node hne
  rw [pullDirectory, hfetched.tree, hitems]
  exact RemoteTree.get?_fill (hempty dir hbase) (RemoteTree.nodup_items hdistinct) hne

/-- An empty directory and a file of two pieces, listed with a link and with the directories
themselves. -/
theorem pullDirectory_reproduces_small_tree :
    let directory : FileStat := ⟨0o040755, 0, 0⟩
    let below : RemoteTree := .dots false directory (.dots true directory .nil)
    let tree : RemoteTree :=
      .dots false directory <| .directory ⟨"b", by decide⟩ directory (by decide) below <|
      .other ⟨"l", by decide⟩ ⟨0o120777, 0, 0⟩ (by decide) <| .dots true directory <|
      .file ⟨"f", by decide⟩ ⟨0o100644, 3, 0⟩ (by decide) [1, 2, 3] .nil
    let listing (tree : RemoteTree) : Bytes :=
      tree.entries.flatMap SentEntry.block ++ (SyncCommand.done.id ++ List.replicate 16 0)
    let answer (request : SyncRequest) : Bytes :=
      if request.command = .receive then
        [[1], [2, 3]].flatMap SyncCommand.data.block ++ (SyncCommand.done.id ++ [0, 0, 0, 0])
      else if request.path = "/r" then listing tree
      else listing below
    let session : SyncSession :=
      { link := { inflow := .ofBytes ((tree.requests "/r").flatMap answer) } }
    ∃ f', pullDirectory (fun _ => false) "/tmp/out" "/r" ⟨{ session }, ⟨[(["tmp"], .directory)]⟩⟩ =
        (.ok ⟨1, 3⟩, f') ∧
      f'.tree.get? ["tmp", "out", "b"] = some .directory ∧
      f'.tree.get? ["tmp", "out", "f"] = some (.file [1, 2, 3] 0o644 0) ∧ f'.unread = [] := by
  intro directory below tree listing answer session
  let there : FileTree := ⟨[(["tmp"], .directory)]⟩
  let made : FileTree := ⟨[(["tmp"], .directory), (["tmp", "out"], .directory)]⟩
  have hmade : there.makeDirectories "/tmp/out" = .ok made := rfl
  have hfilled : tree.items.foldlM (Item.make "/tmp/out") made =
      .ok (RemoteTree.fill made ["tmp", "out"] tree.items) := rfl
  have hdir : ∀ dir, made.Base "/tmp/out" dir → dir = ["tmp", "out"] := fun dir h =>
    (Except.ok.inj h.walked).symm
  have hempty : ∀ dir, made.Base "/tmp/out" dir → ∀ names, names ≠ [] →
      made.get? (dir ++ names) = none := by
    intro dir hbase names hne
    obtain ⟨name, more, rfl⟩ := List.exists_cons_of_ne_nil hne
    rw [hdir dir hbase]
    simp [made, FileTree.get?]
  have hdistinct : tree.Distinct := by
    simp [tree, below, RemoteTree.Distinct, RemoteTree.names]
  have hpaths : ∀ p ∈ tree.paths "/r", Utf8.size p ≤ maxPath := by decide
  have hserves : tree.Serves answer maxChunk "/r" :=
    ⟨⟨List.replicate 16 0, rfl, rfl⟩, ⟨List.replicate 16 0, rfl, rfl⟩, trivial,
      ⟨[[1], [2, 3]], [0, 0, 0, 0], by decide, rfl, rfl, rfl⟩, trivial⟩
  obtain ⟨dir, f', hbase, hrun, htree, -, -, -, hrest, -⟩ :=
    @pullDirectory_reproduces ⟨{ session }, there⟩ answer "/tmp/out" "/r" tree made _ [] hdistinct
      (by decide) hpaths hserves ⟨rfl, Link.calm_ofBytes _⟩ rfl hmade hempty hfilled
  obtain rfl := hdir dir hbase
  refine ⟨f', hrun, ?_, ?_, hrest⟩
  · rw [htree]
    rfl
  · rw [htree]
    rfl

/-- A file comes in one piece that is a byte too long for a block, and nothing else is amiss. -/
theorem pullDirectory_long_piece :
    let data : Bytes := List.replicate (maxChunk + 1) 120
    let tree : RemoteTree := .file ⟨"f", by decide⟩ ⟨0o100644, 65537, 0⟩ (by decide) data .nil
    let answer (request : SyncRequest) : Bytes :=
      if request.command = .receive then
        [data].flatMap SyncCommand.data.block ++ (SyncCommand.done.id ++ [0, 0, 0, 0])
      else tree.entries.flatMap SentEntry.block ++ (SyncCommand.done.id ++ List.replicate 16 0)
    let session : SyncSession :=
      { link := { inflow := .ofBytes ((tree.requests "/r").flatMap answer) } }
    let target : FileTree := ⟨[(["tmp"], .directory), (["tmp", "out"], .directory)]⟩
    tree.Distinct ∧ (∀ p ∈ tree.paths "/r", Utf8.size p ≤ maxPath) ∧
      tree.Serves answer (maxChunk + 1) "/r" ∧ Ready ⟨{ session }, target⟩ ∧
      target.makeDirectories "/tmp/out" = .ok target ∧ target.Base "/tmp/out" ["tmp", "out"] ∧
      (∀ names, names ≠ [] → target.get? (["tmp", "out"] ++ names) = none) ∧
      tree.items.foldlM (Item.make "/tmp/out") target =
        .ok (RemoteTree.fill target ["tmp", "out"] tree.items) ∧
      (pullDirectory (fun _ => false) "/tmp/out" "/r" ⟨{ session }, target⟩).1 =
        .error (.bufferOverrun 65537 65536) := by
  intro data tree answer session target
  have hlength : data.length = maxChunk + 1 := List.length_replicate
  have hready : Ready ⟨{ session }, target⟩ := ⟨rfl, Link.calm_ofBytes _⟩
  have hpaths : ∀ p ∈ tree.paths "/r", Utf8.size p ≤ maxPath := by decide
  have hlists : tree.Lists answer "/r" := ⟨List.replicate 16 0, rfl, rfl⟩
  have hgives : RemoteTree.Gives answer (maxChunk + 1) "/r/f" data :=
    ⟨[data], [0, 0, 0, 0], List.forall_mem_singleton.mpr (Nat.le_of_eq hlength), rfl,
      List.append_nil data, rfl⟩
  have hmade : target.makeDirectories "/tmp/out" = .ok target := rfl
  have hbase : target.Base "/tmp/out" ["tmp", "out"] := ⟨rfl, rfl, by decide⟩
  have hempty : ∀ names, names ≠ [] → target.get? (["tmp", "out"] ++ names) = none := by
    intro names hne
    obtain ⟨name, more, rfl⟩ := List.exists_cons_of_ne_nil hne
    simp [target, FileTree.get?]
  have hmake : Item.make "/tmp/out" target ⟨["f"], some data⟩ =
      .ok (RemoteTree.fill target ["tmp", "out"] tree.items) := by
    rw [RemoteTree.make_free hbase (by decide) rfl]
    rfl
  have hfilled : tree.items.foldlM (Item.make "/tmp/out") target =
      .ok (RemoteTree.fill target ["tmp", "out"] tree.items) := by
    show [⟨["f"], some data⟩].foldlM (Item.make "/tmp/out") target = _
    rw [List.foldlM_cons, hmake]
    rfl
  refine ⟨⟨List.not_mem_nil, trivial⟩, hpaths, ⟨hlists, hgives, trivial⟩, hready, hmade, hbase,
    hempty, hfilled, ?_⟩
  obtain ⟨place, hcreate, -⟩ := RemoteTree.ok_of_bind hmake
  have hu : FileTransfer.unread ⟨{ session }, target⟩ =
      answer ⟨.list, "/r"⟩ ++ answer ⟨.receive, "/r/f"⟩ := by
    show (answer ⟨.list, "/r"⟩ ++ (answer ⟨.receive, "/r/f"⟩ ++ [])) ++ [] = _
    rw [List.append_nil, List.append_nil]
  have hentries : tree.entries.map SentEntry.entry = [⟨"f", ⟨0o100644, 65537, 0⟩⟩] :=
    congrArg ([·]) (SentEntry.entry_ofString _ "f")
  have hbreaks :
      SyncAnswer.content.Breaks (answer ⟨.receive, "/r/f"⟩) (.bufferOverrun 65537 65536) := by
    have h := @SyncAnswer.content_overlong data (by rw [hlength]; decide)
      (by rw [hlength]; decide) (SyncCommand.done.id ++ [0, 0, 0, 0])
    rw [hlength] at h
    show SyncAnswer.content.Breaks ((SyncCommand.data.block data ++ []) ++ _) _
    rwa [List.append_nil]
  rw [pullDirectory, pullBelow_eq, pullLevel]
  -- the directory is made and listed, and then the one entry breaks
  obtain ⟨f₁, h₁, hready₁, -, htree₁, hu₁⟩ := (fetched_makeAll hready hmade).goes_on hready
  obtain ⟨f₂, h₂, hready₂, -, htree₂, hu₂⟩ := (fetched_list hready₁ (by decide)
    (RemoteTree.length_name_le hpaths) hlists (hu₁.trans hu)).goes_on hready₁
  rw [h₁, h₂, hentries]
  rw [← htree₁, ← htree₂] at hcreate
  rw [← hu₂] at hbreaks
  exact pullEntries_breaks hready₂ (by decide) (by decide) (by decide) hcreate hbreaks

end FileTransfer

end DebugBridge
