import DebugBridge.Sync.Session

/-!
# Questions about files

`stat` asks for the status of one file, `list` for the entries of a directory. A list is a run of
entry blocks and ends with a block `DONE` of the same size, whose words mean nothing.
-/

namespace DebugBridge.SyncSession

/-- The status of a file; a missing file has one of zeros. -/
def stat (path : String) : SessionRun FileStat := do
  checkPath path
  request .stat path
  let id ← readExact 4
  match SyncCommand.ofId? id with
  | some .stat =>
    let body ← readExact 12
    pure (.ofBytes body)
  | some .fail => refusal
  | _ => unexpected id "STAT"

/-- Reads a block of a list after its command: an entry. -/
def entryBody : SessionRun FileEntry := do
  let body ← readExact 16
  let size := (Bytes.frontWord (body.drop 12)).toNat
  if size > maxChunk then
    abandon (.malformed s!"Directory entry name of {size} bytes exceeds limit of {maxChunk}")
  else
    let name ← readExact size
    pure ⟨Utf8.lenientString name, .ofBytes body⟩

/-- Reads one block of a list: an entry, or none at its end. -/
def listPart : SessionRun (Option FileEntry) := do
  let id ← readExact 4
  match SyncCommand.ofId? id with
  | some .entry =>
    let entry ← entryBody
    pure (some entry)
  | some .done =>
    let _ ← readExact 16
    pure none
  | some .fail => refusal
  | _ => unexpected id "DENT or DONE"

open Run

theorem shrinks_entryBody : Shrinks remaining entryBody :=
  (shrinks_readExact 16).bind fun body => by
    dsimp only
    split
    · exact shrinks_abandon _
    · exact (shrinks_readExact _).bind fun _ => shrinks_pure _ _

theorem consumes_listPart : Consumes remaining listPart :=
  (consumes_readExact (by decide)).bind fun id => by
    split
    · exact shrinks_entryBody.bind fun _ => shrinks_pure _ _
    · exact (shrinks_readExact _).bind fun _ => shrinks_pure _ _
    · exact shrinks_refusal
    · exact shrinks_unexpected _ _

/-- Reads the blocks of a list to its end; `entries` were read before, the last one first. -/
def listParts (entries : List FileEntry) : SessionRun (List FileEntry) := fun s =>
  match h : listPart s with
  | (.error e, s') => (.error e, s')
  | (.ok none, s') => (.ok entries.reverse, s')
  | (.ok (some entry), s') =>
    have := consumes_listPart s (some entry) s' h
    listParts (entry :: entries) s'
termination_by s => s.remaining

/-- The entries of a directory, in the order in which the device gives them. -/
def list (path : String) : SessionRun (List FileEntry) := do
  checkPath path
  request .list path
  listParts []

end DebugBridge.SyncSession
