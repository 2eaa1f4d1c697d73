import DebugBridge.Files.Tree
import DebugBridge.Sync.Query
import DebugBridge.Sync.Transfer

/-!
# Transfers of local files and directories

Files and whole directories travel between a local `FileTree` and a device. A directory is sent
file by file, in the order of the walk, with links and empty directories left out; it is fetched
by asking the device for the entries of each directory in turn.

## How deep a fetched directory goes

Each level of a fetched directory starts with a list that is read from the session, so there are
no more levels than there are bytes left to read. `pullLevels` recurses on that number.
-/

namespace DebugBridge

/-- A session that moves files to or from a local file tree. -/
structure FileTransfer where
  transfer : Transfer
  tree : FileTree
  deriving Inhabited

/-- A run that moves local files. -/
abbrev FileRun := Run FileTransfer

/-- How many files and bytes were moved, without a bound as in a single transfer. -/
structure Summary where
  files : Nat := 0
  bytes : Nat := 0
  deriving DecidableEq, Repr, Inhabited

namespace Summary

/-- One more file. -/
def add (s : Summary) (bytes : Nat) : Summary := ⟨s.files + 1, s.bytes + bytes⟩

/-- The sums of two summaries. -/
def join (s t : Summary) : Summary := ⟨s.files + t.files, s.bytes + t.bytes⟩

end Summary

namespace FileTransfer

/-- A step of the transfer. -/
def onTransfer {α : Type} (x : TransferRun α) : FileRun α := fun f =>
  let (result, transfer) := x f.transfer
  (result, { f with transfer })

/-- A step of the session. -/
def onSession {α : Type} (x : SessionRun α) : FileRun α := onTransfer (Transfer.onSession x)

/-- Asks the local files. -/
def look {α : Type} (ask : FileTree → Except IoFailure α) : FileRun α := fun f =>
  ((ask f.tree).mapError .localFile, f)

/-- Changes the local files. -/
def change {α : Type} (act : FileTree → Except IoFailure (α × FileTree)) : FileRun α :=
  fun f =>
    match act f.tree with
    | .ok (a, tree) => (.ok a, { f with tree })
    | .error e => (.error (.localFile e), f)

/-! ## Sending -/

/-- The permissions that a file is sent with; a file without any gets the usual ones. -/
def sentMode (mode : Nat) : UInt32 :=
  let permissions := mode &&& 0o777
  UInt32.ofNat (if permissions = 0 then 0o644 else permissions)

/-- The second of the last change as a word; times before 1970 count as its start. -/
def sentTime (modified : Int) : UInt32 := UInt32.ofNat modified.toNat

/-- What is no regular file is not sent. -/
def notRegular (path : String) : IoFailure := ⟨.invalidInput, path ++ " is not a regular file"⟩

/-- The contents of a file, ready to be sent. -/
def openFile (path : String) (tree : FileTree) : Except IoFailure (Bytes × UInt32 × UInt32) := do
  match ← tree.find path with
  | .file data mode modified =>
    if !FileTree.isRegular mode then .error (notRegular path)
    else if FileTree.ownerReads mode then .ok (data, sentMode mode, sentTime modified)
    else .error FileTree.denied
  | _ => .error (notRegular path)

/-- Sends a file: how many bytes it had. -/
def pushFile (cancelled : Cancelled) (reporting : Reporting) (path remote : String) :
    FileRun Nat := do
  let (data, mode, time) ← look (openFile path)
  onTransfer do
    Transfer.tell reporting (.start data.length)
    let sent ← fun t =>
      let (result, _, t) :=
        Transfer.push cancelled reporting (.ofBytes data) remote mode time t
      (result, t)
    Transfer.tell reporting .finish
    pure sent

/-- Sends files that stand below a directory, after what `done` sums up. -/
def pushFiles (cancelled : Cancelled) (path remote : String) (done : Summary) :
    List (List String) → FileRun Summary
  | [] => pure done
  | names :: rest => do
    let from_ := names.foldl Path.join path
    let to_ := Path.joinRemote remote ("/".intercalate names)
    let sent ← pushFile cancelled (.after done.bytes) from_ to_
    pushFiles cancelled path remote (done.add sent) rest

/-- Sends the files below a directory. -/
def pushDirectory (cancelled : Cancelled) (path remote : String) : FileRun Summary := do
  let files ← look (·.files path)
  pushFiles cancelled path remote {} files

/-! ## Fetching -/

/-- Fetches a file into the one at a path, which is made or emptied first. `before` comes between
that and the fetching, `after` comes last. -/
def pullInto (cancelled : Cancelled) (reporting : Reporting) (path remote : String)
    (before after : TransferRun Unit) : FileRun Nat := do
  let place ← change (·.create path)
  onTransfer before
  let received ← fun f =>
    let (result, sink, transfer) := Transfer.pull cancelled reporting remote {} f.transfer
    (result, { transfer, tree := f.tree.store place sink.stored.toList })
  onTransfer after
  pure received

/-- Fetches a file: how many bytes it had. -/
def pullFile (cancelled : Cancelled) (reporting : Reporting) (path remote : String) :
    FileRun Nat := do
  let stat ← onSession (SyncSession.stat remote)
  if !stat.isPresent then throw (.fileNotFound remote)
  else if stat.isDirectory then
    throw (.localFile ⟨.invalidInput, remote ++ " is a directory"⟩)
  else
    pullInto cancelled reporting path remote
      (Transfer.tell reporting (.start stat.size.toNat)) (Transfer.tell reporting .finish)

/-- Fetches an entry of a directory, after what `done` sums up; `down` fetches a directory below it.
The directory itself, the one above it, and what is neither a file nor a directory are left out. -/
def pullEntry (cancelled : Cancelled) (down : Summary → String → String → FileRun Summary)
    (path remote : String) (done : Summary) (entry : FileEntry) : FileRun Summary :=
  let local_ := Path.join path entry.name
  let remote_ := Path.joinRemote remote entry.name
  if entry.name = "." || entry.name = ".." then pure done
  else
    match entry.stat.kind with
    | .directory => down done local_ remote_
    | .regular => do
      let received ← pullInto cancelled (.after done.bytes) local_ remote_ (pure ()) (pure ())
      pure (done.add received)
    | _ => pure done

/-- Fetches the entries of a directory, one after another. -/
def pullEntries (cancelled : Cancelled) (down : Summary → String → String → FileRun Summary)
    (path remote : String) (done : Summary) : List FileEntry → FileRun Summary
  | [] => pure done
  | entry :: rest => do
    let done ← pullEntry cancelled down path remote done entry
    pullEntries cancelled down path remote done rest

/-- Makes a directory and those above it. -/
def makeAll (path : String) : FileRun Unit := fun f =>
  let (result, tree) := f.tree.makeAll path
  (result.mapError .localFile, { f with tree })

/-- Fetches a directory, after what `done` sums up: makes it, asks for its entries and fetches them;
`down` fetches a directory below it. -/
def pullLevel (cancelled : Cancelled) (down : Summary → String → String → FileRun Summary)
    (done : Summary) (path remote : String) : FileRun Summary := do
  makeAll path
  let entries ← onSession (SyncSession.list remote)
  pullEntries cancelled down path remote done entries

/-- Fetches a directory with at most `levels` levels. -/
def pullLevels (cancelled : Cancelled) :
    (levels : Nat) → Summary → String → String → FileRun Summary
  | 0, _, _, _ => throw (.connectionClosed "reading frame")
  | levels + 1, done, path, remote =>
    pullLevel cancelled (pullLevels cancelled levels) done path remote

/-- Fetches a directory with all its levels. -/
def pullBelow (cancelled : Cancelled) (done : Summary) (path remote : String) :
    FileRun Summary := fun f =>
  pullLevels cancelled (f.transfer.session.remaining + 1) done path remote f

/-- Fetches a directory. -/
def pullDirectory (cancelled : Cancelled) (path remote : String) : FileRun Summary :=
  pullBelow cancelled {} path remote

/-- Where a fetched file goes: into `target` if that is a directory, else to `target` itself. -/
def destination (tree : FileTree) (remote target : String) : String :=
  if tree.isDirectory target then Path.join target (Path.remoteName remote) else target

end FileTransfer

end DebugBridge
