import DebugBridge.Proofs.Files.Listing
import DebugBridge.Proofs.Sync.Levels
import DebugBridge.Proofs.Sync.Served

/-!
# What a directory is sent as

A directory is sent as its regular files, one push after another, in the order of the walk. Each
file has a path on the device of its own. The first push that fails ends the row: what was sent
before it was sent completely, and nothing behind it is begun.

* `Delivery` — a file that was sent, with its request and its receipt
* `pushFiles_cases` — a row of files is sent to its end, or up to the first one that fails
* `pushFiles_served` — a row whose files can be sent and are received is sent to its end
* `pushDirectory_sends` — the files, their paths, the bytes that are written, and how it ends
-/

namespace DebugBridge

open DebugBridge.Path (joinRemote)
open Transfer (WholeRequest)
open SyncSession (Onward)

/-- The bytes of a receipt: a block `OKAY`. -/
def IsReceipt (bytes : Bytes) : Prop :=
  ∃ words : Bytes, words.length = 4 ∧ bytes = SyncCommand.okay.id ++ words

/-- **A push that succeeds** has written its whole request and read a receipt, and goes on. -/
theorem Transfer.push_ok {cancelled : Cancelled} {reporting : Reporting} {source source' : Inflow}
    {path : String} {mode mtime : UInt32} {t t' : Transfer} {moved : Nat}
    (h : push cancelled reporting source path mode mtime t = (.ok moved, source', t')) :
    moved = source.bytes.length ∧ ∃ sent receipt, WholeRequest source path mode mtime sent ∧
      IsReceipt receipt ∧ Onward t.session t'.session sent ∧
      t.session.unread = receipt ++ t'.session.unread := by
  by_cases hs : t.session.isOpen = true
  · have hpushed := push_cases cancelled reporting source path mode mtime hs h
    generalize hs' : t'.session = s' at hpushed
    cases hpushed with
    | @ended sent _ _ hwhole hfits =>
      cases hr : SyncAnswer.receipt.front t.session.unread with
      | whole verdict rest =>
        rw [hr] at hfits
        obtain ⟨hverdict, -, hrest⟩ := hfits.of_whole
        cases verdict with
        | error e => cases hverdict
        | ok u =>
          obtain ⟨receipt, hclosing, hu⟩ := (SyncAnswer.front_closing (by decide)).mp hr
          have hreceipt : IsReceipt receipt := by
            cases hclosing with
            | value hl => exact ⟨_, hl, rfl⟩
          cases hfits with
          | whole ho => exact ⟨Except.ok.inj hverdict, sent, receipt, hwhole, hreceipt, ho, hu⟩
      | senseless e =>
        rw [hr] at hfits
        cases hfits
      | cut =>
        rw [hr] at hfits
        cases hfits
  · obtain ⟨e, he⟩ :=
      SyncSession.refusal?_closed (Bool.eq_false_iff.mpr hs) path (cancelled t.moment)
    obtain ⟨moment, hr⟩ := push_refused he reporting source mode mtime
    rw [hr] at h
    cases h

namespace FileTransfer

variable {cancelled : Cancelled} {path remote : String} {f f' f'' : FileTransfer}

/-- The bytes that the session has written. -/
def written (f : FileTransfer) : Bytes := f.transfer.session.written

/-- The path on the device of a file by its names below the directory that is sent. -/
def remotePath (remote : String) (names : List String) : String :=
  joinRemote remote ("/".intercalate names)

/-- **Files with different names have different paths on the device.** -/
theorem remotePath_inj {names names' : List String} (h : ∀ name ∈ names, Path.IsName name)
    (h' : ∀ name ∈ names', Path.IsName name)
    (heq : remotePath remote names = remotePath remote names') : names = names' := by
  rw [← Path.parts_intercalate h, ← Path.parts_intercalate h', Path.joinRemote_inj.mp heq]

/-! ## One file -/

/-- A file below a directory is opened if neither its path is too long nor its owner may not. -/
theorem openFile_below {tree : FileTree} {dir : Place} {names : List String}
    (hdir : tree.LeadsTo path dir) (hnames : ∀ name ∈ names, FileTree.Named name)
    (hregular : tree.RegularAt dir names) {data : Bytes} {mode : Nat} {modified : Int}
    (hfile : tree.get? (dir ++ names) = some (.file data mode modified)) :
    openFile (names.foldl Path.join path) tree =
      if Utf8.size (names.foldl Path.join path) > FileTree.maxPath then .error FileTree.nameTooLong
      else if FileTree.ownerReads mode then .ok (data, sentMode mode, sentTime modified)
      else .error FileTree.denied := by
  have hmode : FileTree.isRegular mode = true := by
    obtain ⟨data', mode', modified', hfile', hmode⟩ := hregular.file
    rw [hfile] at hfile'
    cases hfile'
    exact hmode
  have hend : ∀ target, tree.get? (dir ++ names) ≠ some (.link target) := by
    intro target h
    rw [hfile] at h
    cases h
  rw [openFile, FileTree.find,
    FileTree.locate_below hdir.base hregular.below hnames hregular.leads hend]
  split
  · rfl
  · simp only [bind, Except.bind, hfile, hmode, Bool.not_true, Bool.false_eq_true, if_false]

/-- A file that cannot be opened is not sent. -/
theorem pushFile_unopened {reporting : Reporting} {e : IoFailure}
    (h : openFile path f.tree = .error e) :
    pushFile cancelled reporting path remote f = (.error (.localFile e), f) := by
  rw [pushFile, Run.bind_apply, look, h]
  rfl

/-- A file of a row is pushed as it was opened. -/
theorem pushFile_opened {base : Nat} {data : Bytes} {mode time : UInt32}
    (h : openFile path f.tree = .ok (data, mode, time))
    {out : Except Failure Nat × Inflow × Transfer}
    (hout : Transfer.push cancelled (.after base) (.ofBytes data) remote mode time f.transfer =
      out) :
    pushFile cancelled (.after base) path remote f = (out.1, { f with transfer := out.2.2 }) := by
  obtain ⟨result, source, t⟩ := out
  rw [pushFile, Run.bind_apply, look, h]
  simp only [Except.mapError, onTransfer]
  rw [Run.bind_apply]
  simp only [Transfer.tell]
  rw [Run.bind_apply]
  simp only [hout]
  cases result <;> rfl

/-! ## Deliveries -/

/-- A file that was sent: its names below the directory, what stood there, the bytes that were
written for it, and those of the receipt. -/
structure Delivery where
  names : List String
  data : Bytes
  mode : Nat
  modified : Int
  request : Bytes
  receipt : Bytes

/-- The file of the delivery stands below the directory; its whole request was written, for its path
on the device, and a receipt was read. -/
structure Delivery.Of (tree : FileTree) (path remote : String) (d : Delivery) : Prop where
  file : ∃ dir, tree.LeadsTo path dir ∧
    tree.get? (dir ++ d.names) = some (.file d.data d.mode d.modified)
  request : WholeRequest (.ofBytes d.data) (remotePath remote d.names) (sentMode d.mode)
    (sentTime d.modified) d.request
  receipt : IsReceipt d.receipt

/-- How many files and bytes were delivered. -/
def total (sent : List Delivery) : Summary := .of (sent.map (·.data))

theorem join_total_cons (done : Summary) (d : Delivery) (sent : List Delivery) :
    done.join (total (d :: sent)) = (done.add d.data.length).join (total sent) :=
  Summary.join_of_cons done d.data _

/-- From `f` to `f'` the files of the deliveries were sent, one after another, and nothing else: the
session has written their requests and read their receipts, and it is as it was in all else. -/
structure Delivered (path remote : String) (f f' : FileTransfer) (sent : List Delivery) : Prop where
  each : ∀ d ∈ sent, d.Of f.tree path remote
  tree : f'.tree = f.tree
  written : f'.written = f.written ++ sent.flatMap (·.request)
  unread : f.unread = sent.flatMap (·.receipt) ++ f'.unread
  isOpen : f.transfer.session.isOpen = true → f'.transfer.session.isOpen = true
  calm : f.transfer.session.link.Calm → f'.transfer.session.link.Calm

theorem Delivered.refl (f : FileTransfer) : Delivered path remote f f [] where
  each := nofun
  tree := rfl
  written := (List.append_nil _).symm
  unread := rfl
  isOpen := id
  calm := id

theorem Delivered.trans {sent more : List Delivery} (h : Delivered path remote f f' sent)
    (h' : Delivered path remote f' f'' more) : Delivered path remote f f'' (sent ++ more) where
  each := List.forall_mem_append.mpr ⟨h.each, h.tree ▸ h'.each⟩
  tree := h'.tree.trans h.tree
  written := by rw [h'.written, h.written, List.flatMap_append, List.append_assoc]
  unread := by rw [h.unread, h'.unread, List.flatMap_append, List.append_assoc]
  isOpen hs := h'.isOpen (h.isOpen hs)
  calm hc := h'.calm (h.calm hc)

/-- The names lead from the directory at the path to a regular file, and files can have them. -/
def Found (tree : FileTree) (path : String) (names : List String) : Prop :=
  (∀ name ∈ names, FileTree.Named name) ∧
    ∃ dir, tree.LeadsTo path dir ∧ tree.RegularAt dir names

/-- **A push of a file that was found delivers it**, if it succeeds. -/
theorem pushFile_delivered {names : List String} (h : Found f.tree path names)
    {base sentBytes : Nat}
    (hpush : pushFile cancelled (.after base) (names.foldl Path.join path)
      (remotePath remote names) f = (.ok sentBytes, f')) :
    ∃ d : Delivery, d.names = names ∧ d.data.length = sentBytes ∧
      Delivered path remote f f' [d] := by
  obtain ⟨hnames, dir, hdir, hregular⟩ := h
  obtain ⟨data, mode, modified, hfile, -⟩ := hregular.file
  have hopen := openFile_below hdir hnames hregular hfile
  cases ho : openFile (names.foldl Path.join path) f.tree with
  | error e =>
    rw [pushFile_unopened ho] at hpush
    cases hpush
  | ok content =>
    have hcontent : content = (data, sentMode mode, sentTime modified) := by
      rw [hopen] at ho
      split at ho
      · cases ho
      · split at ho
        · exact (Except.ok.inj ho).symm
        · cases ho
    subst hcontent
    cases hr : Transfer.push cancelled (.after base) (.ofBytes data) (remotePath remote names)
        (sentMode mode) (sentTime modified) f.transfer with
    | mk result rest =>
      obtain ⟨source, t⟩ := rest
      rw [pushFile_opened ho hr] at hpush
      cases hpush
      obtain ⟨hlength, request, receipt, hwhole, hreceipt, honward, hu⟩ := Transfer.push_ok hr
      have hbytes : (Inflow.ofBytes data).bytes = data := List.append_nil data
      -- what was opened is what stands there, so the request is the one for the file
      refine ⟨⟨names, data, mode, modified, request, receipt⟩, rfl, ?_, ?_⟩
      · rw [hlength, hbytes]
      · refine ⟨List.forall_mem_singleton.mpr ⟨⟨dir, hdir, hfile⟩, hwhole, hreceipt⟩, rfl, ?_, ?_,
          fun _ => honward.isOpen, honward.calm⟩
        · rw [List.flatMap_singleton]
          exact honward.written
        · rw [List.flatMap_singleton]
          exact hu

/-! ## Rows of files -/

/-- The push of a file by its names below the directory, when `done` sums up those before it. -/
def pushNamed (cancelled : Cancelled) (path remote : String) (done : Summary)
    (names : List String) : FileRun Nat :=
  pushFile cancelled (.after done.bytes) (names.foldl Path.join path) (remotePath remote names)

theorem pushFiles_cons (done : Summary) (names : List String) (later : List (List String)) :
    pushFiles cancelled path remote done (names :: later) =
      pushNamed cancelled path remote done names >>= fun sentBytes =>
        pushFiles cancelled path remote (done.add sentBytes) later := rfl

/-- **A row of files is sent to its end, or up to the first one that fails**; the push of that one
is the last thing that is done. -/
theorem pushFiles_cases (done : Summary) {files : List (List String)}
    (h : ∀ names ∈ files, Found f.tree path names) :
    ∃ sent f', Delivered path remote f f' sent ∧
      ((files = sent.map (·.names) ∧
        pushFiles cancelled path remote done files f = (.ok (done.join (total sent)), f')) ∨
      ∃ names later e f'', files = sent.map (·.names) ++ names :: later ∧
        pushNamed cancelled path remote (done.join (total sent)) names f' = (.error e, f'') ∧
        pushFiles cancelled path remote done files f = (.error e, f'')) := by
  -- the files are found in the tree of each later state, since a delivery leaves it as it is
  induction files generalizing done f with
  | nil => exact ⟨[], f, .refl f, .inl ⟨rfl, rfl⟩⟩
  | cons names later ih =>
    obtain ⟨hfound, hlater⟩ := List.forall_mem_cons.mp h
    rw [pushFiles_cons, Run.bind_apply]
    cases hpush : pushNamed cancelled path remote done names f with
    | mk result f₁ =>
      cases result with
      | error e => exact ⟨[], f, .refl f, .inr ⟨names, later, e, f₁, rfl, hpush, rfl⟩⟩
      | ok sentBytes =>
        obtain ⟨d, rfl, rfl, hd⟩ := pushFile_delivered hfound hpush
        obtain ⟨sent, f', hsent, hend⟩ := ih (done.add d.data.length) (hd.tree ▸ hlater)
        refine ⟨d :: sent, f', hd.trans hsent, ?_⟩
        rw [join_total_cons, List.map_cons]
        rcases hend with ⟨rfl, hrun⟩ | ⟨names', later', e, f'', rfl, hfail, hrun⟩
        · exact .inl ⟨rfl, hrun⟩
        · exact .inr ⟨names', later', e, f'', rfl, hfail, hrun⟩

/-- A file by its names below the directory can be sent: its owner may read it, and neither of its
paths is too long. -/
structure Sendable (tree : FileTree) (path remote : String) (names : List String) : Prop where
  readable : ∀ dir data mode modified, tree.LeadsTo path dir →
    tree.get? (dir ++ names) = some (.file data mode modified) → FileTree.ownerReads mode = true
  localSize : Utf8.size (names.foldl Path.join path) ≤ FileTree.maxPath
  remoteSize : Utf8.size (remotePath remote names) ≤ SyncSession.maxPath

/-- **A file that can be sent and is received** is pushed. -/
theorem pushNamed_served (done : Summary) {names : List String} (hfound : Found f.tree path names)
    (hsend : Sendable f.tree path remote names) (hs : f.transfer.session.isOpen = true)
    (hc : f.transfer.session.link.Calm) {receipt rest : Bytes} (hreceipt : IsReceipt receipt)
    (hu : f.unread = receipt ++ rest) :
    ∃ sentBytes f', pushNamed (fun _ => false) path remote done names f = (.ok sentBytes, f') ∧
      f'.unread = rest := by
  obtain ⟨hnames, dir, hdir, hregular⟩ := hfound
  obtain ⟨data, mode, modified, hfile, -⟩ := hregular.file
  have hopen := openFile_below hdir hnames hregular hfile
  rw [if_neg (Nat.not_lt.mpr hsend.localSize),
    if_pos (hsend.readable dir data mode modified hdir hfile)] at hopen
  obtain ⟨words, hwords, rfl⟩ := hreceipt
  cases hout : Transfer.push (fun _ => false) (.after done.bytes) (.ofBytes data)
      (remotePath remote names) (sentMode mode) (sentTime modified) f.transfer with
  | mk result out =>
    obtain ⟨sent, -, hserved⟩ := Transfer.push_served (.after done.bytes)
      (Link.calm_ofBytes data).steady hsend.remoteSize (sentMode mode) (sentTime modified) hs hc
      hwords hu hout
    refine ⟨(Inflow.ofBytes data).bytes.length, { f with transfer := out.2 }, ?_, hserved.unread⟩
    rw [pushNamed, pushFile_opened hopen hout]
    exact congrArg (·, _) hserved.result

/-- **A row of files that can be sent, with a receipt for each**, is sent to its end. -/
theorem pushFiles_served (done : Summary) {files : List (List String)}
    (hfound : ∀ names ∈ files, Found f.tree path names)
    (hsend : ∀ names ∈ files, Sendable f.tree path remote names)
    (hs : f.transfer.session.isOpen = true) (hc : f.transfer.session.link.Calm)
    {receipts : List Bytes} (hlength : receipts.length = files.length)
    (hreceipts : ∀ receipt ∈ receipts, IsReceipt receipt) {rest : Bytes}
    (hu : f.unread = receipts.flatten ++ rest) :
    ∃ summary f', pushFiles (fun _ => false) path remote done files f = (.ok summary, f') ∧
      f'.transfer.session.isOpen = true ∧ f'.unread = rest := by
  induction files generalizing done f receipts with
  | nil =>
    rw [List.length_eq_zero_iff.mp hlength] at hu
    exact ⟨done, f, rfl, hs, hu⟩
  | cons names later ih =>
    obtain ⟨receipt, receipts, rfl⟩ := List.exists_cons_of_length_eq_add_one hlength
    obtain ⟨hfirst, hlater⟩ := List.forall_mem_cons.mp hfound
    obtain ⟨hsendFirst, hsendLater⟩ := List.forall_mem_cons.mp hsend
    obtain ⟨hreceipt, hmore⟩ := List.forall_mem_cons.mp hreceipts
    rw [List.flatten_cons, List.append_assoc] at hu
    obtain ⟨sentBytes, f', hpush, hrest⟩ :=
      pushNamed_served done hfirst hsendFirst hs hc hreceipt hu
    obtain ⟨d, -, -, hd⟩ := pushFile_delivered hfirst hpush
    rw [pushFiles_cons, Run.bind_apply, hpush]
    exact ih (done.add sentBytes) (hd.tree ▸ hlater) (hd.tree ▸ hsendLater) (hd.isOpen hs)
      (hd.calm hc) (Nat.succ.inj hlength) hmore hrest

/-! ## A directory -/

theorem pushDirectory_files {files : List (List String)} (h : f.tree.files path = .ok files) :
    pushDirectory cancelled path remote f = pushFiles cancelled path remote {} files f := by
  rw [pushDirectory, Run.bind_apply, look, h]
  rfl

/--
**A directory is sent as its regular files, each of them once.**

The files are those to which directories lead from the path, in ascending order, and no two of them
have the same path on the device. Whatever the connection does, whatever the device answers and
whenever the caller cancels: some files from the first one on are delivered, each with its whole
request, and nothing else is written for them; and these are all files, or the push of the next one
fails, is the last thing that is done, and its failure is that of the whole. If nobody cancels, all
files can be sent, and the device has a receipt for each of them, then all are delivered.
-/
theorem pushDirectory_sends (cancelled : Cancelled) (path remote : String) {f : FileTransfer}
    (hproper : f.tree.Proper) :
    (∀ e, f.tree.files path = .error e →
      pushDirectory cancelled path remote f = (.error (.localFile e), f)) ∧
    (f.tree.isDirectory path = true → ∃ files, f.tree.files path = .ok files) ∧
    ∀ files, f.tree.files path = .ok files →
      (∀ names, names ∈ files ↔ ∃ dir, f.tree.LeadsTo path dir ∧ f.tree.RegularAt dir names) ∧
      files.Pairwise (· < ·) ∧ (files.map (remotePath remote)).Nodup ∧
      (∃ sent f', Delivered path remote f f' sent ∧
        ((files = sent.map (·.names) ∧
          pushDirectory cancelled path remote f = (.ok (total sent), f')) ∨
        ∃ names later e f'', files = sent.map (·.names) ++ names :: later ∧
          pushNamed cancelled path remote (total sent) names f' = (.error e, f'') ∧
          pushDirectory cancelled path remote f = (.error e, f''))) ∧
      (cancelled = (fun _ => false) → f.transfer.session.isOpen = true →
        f.transfer.session.link.Calm → (∀ names ∈ files, Sendable f.tree path remote names) →
        ∀ (receipts : List Bytes) (rest : Bytes), receipts.length = files.length →
        (∀ receipt ∈ receipts, IsReceipt receipt) → f.unread = receipts.flatten ++ rest →
        ∃ sent f', Delivered path remote f f' sent ∧ files = sent.map (·.names) ∧
          pushDirectory cancelled path remote f = (.ok (total sent), f') ∧
          f'.transfer.session.isOpen = true ∧ f'.unread = rest) := by
  refine ⟨fun e he => ?_, fun h => ?_, fun files hfiles => ?_⟩
  · rw [pushDirectory, Run.bind_apply, look, he]
    rfl
  · obtain ⟨dir, hdir⟩ := FileTree.leadsTo_of_isDirectory h
    rcases f.tree.files_cases path with ⟨_, -, hfiles⟩ | ⟨hnone, -⟩
    · exact ⟨_, hfiles⟩
    · exact absurd hdir (hnone dir)
  · have hmem := FileTree.mem_files hfiles
    have hascending := FileTree.ascending_files hproper hfiles
    have hfound : ∀ names ∈ files, Found f.tree path names := by
      intro names hnames
      obtain ⟨dir, hdir, hregular⟩ := (hmem names).mp hnames
      obtain ⟨data, mode, modified, hfile, -⟩ := hregular.file
      refine ⟨fun name hname => ?_, dir, hdir, hregular⟩
      exact hproper.names hfile name (List.mem_append_right _ hname)
    obtain ⟨sent, f', hsent, hend⟩ := @pushFiles_cases cancelled path remote f {} files hfound
    rw [Summary.empty_join, ← pushDirectory_files hfiles] at hend
    refine ⟨hmem, hascending, ?_, ⟨sent, f', hsent, hend⟩, ?_⟩
    · refine List.pairwise_map.mpr (hascending.imp_of_mem fun hnames hnames' hlt heq => ?_)
      have hisName : ∀ names ∈ files, ∀ name ∈ names, Path.IsName name :=
        fun names hnames name hname => ((hfound names hnames).1 name hname).isName
      rw [remotePath_inj (hisName _ hnames) (hisName _ hnames') heq] at hlt
      exact List.lt_irrefl _ hlt
    · -- the row comes to its end, so the first of the two endings is the one
      rintro rfl hs hc hsend receipts rest hlength hreceipts hu
      obtain ⟨summary, f₁, hrun, hopen, hrest⟩ :=
        pushFiles_served {} hfound hsend hs hc hlength hreceipts hu
      rw [← pushDirectory_files hfiles] at hrun
      rcases hend with ⟨hall, hok⟩ | ⟨_, _, e, _, -, -, herror⟩
      · rw [hrun] at hok
        cases hok
        exact ⟨sent, f', hsent, hall, hrun, hopen, hrest⟩
      · rw [hrun] at herror
        cases herror

/-- Two files are sent; the directories, a link and a pipe beside them are not. -/
theorem pushDirectory_sends_two_files :
    let tree : FileTree :=
      ⟨[(["d"], .directory), (["d", "b"], .directory), (["d", "b", "x"], .file [1, 2] 0o644 0),
        (["d", "a"], .file [] 0o600 5), (["d", "l"], .link "a"), (["d", "p"], .file [] 0o010644 0)]⟩
    let receipt := SyncCommand.okay.word 0
    let f : FileTransfer :=
      ⟨{ session := { link := { inflow := .ofBytes (receipt ++ receipt) } } }, tree⟩
    ∃ sent f', Delivered "/d" "/r" f f' sent ∧ sent.map (·.names) = [["a"], ["b", "x"]] ∧
      pushDirectory (fun _ => false) "/d" "/r" f = (.ok (total sent), f') ∧ f'.unread = [] := by
  intro tree receipt f
  have hnamed : ∀ entry ∈ tree.nodes, ∀ name ∈ entry.1, FileTree.Named name := by decide
  have hbelow : tree.filesBelow ["d"] 3 = [["a"], ["b", "x"]] := by
    simp [FileTree.filesBelow, FileTree.namesIn, FileTree.get?, tree, List.mergeSort,
      List.MergeSort.Internal.splitInTwo]
    decide
  have hfiles : tree.files "/d" = .ok [["a"], ["b", "x"]] := by
    rw [← hbelow]
    rfl
  have hdir : ∀ dir, tree.LeadsTo "/d" dir → dir = ["d"] := fun dir h =>
    (Except.ok.inj h.located).symm
  have hsend : ∀ names ∈ [["a"], ["b", "x"]], Sendable tree "/d" "/r" names := by
    refine List.forall_mem_cons.mpr ⟨⟨?_, by decide, by decide⟩,
      List.forall_mem_singleton.mpr ⟨?_, by decide, by decide⟩⟩
    all_goals
      intro dir data mode modified hd hfile
      rw [hdir dir hd] at hfile
      cases hfile
      rfl
  have hreceipt : IsReceipt receipt := ⟨[0, 0, 0, 0], rfl, rfl⟩
  obtain ⟨-, -, h⟩ := @pushDirectory_sends (fun _ => false) "/d" "/r" f ⟨by decide, hnamed⟩
  obtain ⟨-, -, -, -, hall⟩ := h _ hfiles
  obtain ⟨sent, f', hsent, hnames, hrun, -, hrest⟩ := hall rfl rfl (Link.calm_ofBytes _) hsend
    [receipt, receipt] [] rfl (by simp [hreceipt]) rfl
  exact ⟨sent, f', hsent, hnames.symm, hrun, hrest⟩

end FileTransfer

end DebugBridge
