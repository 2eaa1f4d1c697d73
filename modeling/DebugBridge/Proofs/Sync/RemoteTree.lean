import DebugBridge.Proofs.Files.Base
import DebugBridge.Proofs.Frame
import DebugBridge.Proofs.Sync.Served

/-!
# What a device has below a directory

A device lists the entries of a directory in an order of its own, among them the directory itself
and the one above it. A `RemoteTree` is such a listing with all that is below it. Its *items* are
the directories and the files in it, each with the names that lead to it, in the order of a walk
that goes into a directory where it is listed.

A fetch asks for the items and makes them in this order: what it requests is known from them, and
what is made of them below an empty directory is exactly these items.

* `Serves` — a device answers as one that has the tree
* `makeItems_eq` — what is made of the items of a tree
* `get?_fill` — what stands where afterwards
* `nodup_requests` — nothing is requested twice
-/

namespace DebugBridge

open DebugBridge.Path (joinRemote)

/-- A name of an entry other than the directory itself and the one above it. -/
abbrev EntryName := { name : String // FileTree.Spelled name }

/-- What a device has in a directory and below, in the order in which it lists it. -/
inductive RemoteTree where
  | nil
  /-- The directory itself, or the one above it. -/
  | dots (above : Bool) (stat : FileStat) (rest : RemoteTree)
  | file (name : EntryName) (stat : FileStat) (isRegular : stat.kind = .regular) (data : Bytes)
      (rest : RemoteTree)
  | directory (name : EntryName) (stat : FileStat) (isDirectory : stat.kind = .directory)
      (below rest : RemoteTree)
  /-- What is neither a file nor a directory. -/
  | other (name : EntryName) (stat : FileStat)
      (isOther : stat.kind ≠ .regular ∧ stat.kind ≠ .directory) (rest : RemoteTree)

/-- What a session asks a device for. -/
structure SyncRequest where
  command : SyncCommand
  path : String
  deriving DecidableEq, Repr

/-- The bytes of a request. -/
def SyncRequest.bytes (request : SyncRequest) : Bytes :=
  request.command.block (Utf8.ofString request.path)

namespace RemoteTree

/-! ## Listings -/

/-- The entries that the device lists for the directory. -/
def entries : RemoteTree → List SentEntry
  | nil => []
  | dots above stat rest => ⟨stat, Utf8.ofString (if above then ".." else ".")⟩ :: rest.entries
  | file name stat _ _ rest => ⟨stat, Utf8.ofString name⟩ :: rest.entries
  | directory name stat _ _ rest => ⟨stat, Utf8.ofString name⟩ :: rest.entries
  | other name stat _ rest => ⟨stat, Utf8.ofString name⟩ :: rest.entries

/-- The names in the directory. -/
def names : RemoteTree → List String
  | nil => []
  | dots _ _ rest => rest.names
  | file name _ _ _ rest => name :: rest.names
  | directory name _ _ _ rest => name :: rest.names
  | other name _ _ rest => name :: rest.names

/-- No directory has a name twice. -/
def Distinct : RemoteTree → Prop
  | nil => True
  | dots _ _ rest => rest.Distinct
  | file name _ _ _ rest => ↑name ∉ rest.names ∧ rest.Distinct
  | directory name _ _ below rest => ↑name ∉ rest.names ∧ below.Distinct ∧ rest.Distinct
  | other name _ _ rest => ↑name ∉ rest.names ∧ rest.Distinct

/-- The paths on the device of all that is below the directory at `remote`. -/
def paths (remote : String) : RemoteTree → List String
  | nil => []
  | dots _ _ rest => rest.paths remote
  | file name _ _ _ rest => joinRemote remote name :: rest.paths remote
  | directory name _ _ below rest =>
    joinRemote remote name :: (below.paths (joinRemote remote name) ++ rest.paths remote)
  | other name _ _ rest => joinRemote remote name :: rest.paths remote

/-! ## Items -/

/-- A file or a directory below the directory that is fetched. -/
structure Item where
  /-- The names that lead to it from there. -/
  names : List String
  /-- The data of a file; none for a directory. -/
  data : Option Bytes
  deriving DecidableEq, Repr

namespace Item

/-- The item as one below a directory with a name. -/
def under (name : String) (item : Item) : Item := { item with names := name :: item.names }

/-- What a device is asked for to get the item. -/
def request (remote : String) (item : Item) : SyncRequest :=
  ⟨if item.data.isSome then .receive else .list, item.names.foldl joinRemote remote⟩

/-- What stands for the item in the local files. -/
def node (item : Item) : Node :=
  match item.data with
  | none => .directory
  | some data => .file data FileTree.newMode 0

/-- The local files with the item below a path, if it can be made. -/
def make (path : String) (tree : FileTree) (item : Item) : Except IoFailure FileTree :=
  match item.data with
  | none => tree.makeDirectories (item.names.foldl Path.join path)
  | some data => do
    let (place, made) ← tree.create (item.names.foldl Path.join path)
    pure (made.store place data)

end Item

/-- The directories and the files of a tree. -/
def items : RemoteTree → List Item
  | nil => []
  | dots _ _ rest => rest.items
  | file name _ _ data rest => ⟨[name], some data⟩ :: rest.items
  | directory name _ _ below rest =>
    ⟨[name], none⟩ :: (below.items.map (Item.under name) ++ rest.items)
  | other _ _ _ rest => rest.items

/-- What a device is asked for when the directory at `remote` is fetched. -/
def requests (remote : String) (tree : RemoteTree) : List SyncRequest :=
  ⟨.list, remote⟩ :: tree.items.map (Item.request remote)

/-- The contents of the files. -/
def contents (tree : RemoteTree) : List Bytes := tree.items.filterMap (·.data)

theorem contents_file (name : EntryName) (stat : FileStat) (h : stat.kind = .regular) (data : Bytes)
    (rest : RemoteTree) : (file name stat h data rest).contents = data :: rest.contents := rfl

theorem contents_directory (name : EntryName) (stat : FileStat) (h : stat.kind = .directory)
    (below rest : RemoteTree) :
    (directory name stat h below rest).contents = below.contents ++ rest.contents := by
  simp only [contents, items, List.filterMap_cons, List.filterMap_append, List.filterMap_map]
  rfl

/-- A directory below is requested as one that is fetched on its own. -/
theorem requests_directory (name : EntryName) (stat : FileStat) (h : stat.kind = .directory)
    (below rest : RemoteTree) (remote : String) :
    (directory name stat h below rest).items.map (Item.request remote) =
      below.requests (joinRemote remote name) ++ rest.items.map (Item.request remote) := by
  simp only [items, requests, List.map_cons, List.map_append, List.map_map]
  rfl

/-! ## Devices -/

section Devices

variable (answer : SyncRequest → Bytes)

/-- The device lists the tree for a path. -/
def Lists (remote : String) (tree : RemoteTree) : Prop :=
  ∃ words : Bytes, words.length = 16 ∧ answer ⟨.list, remote⟩ =
    tree.entries.flatMap SentEntry.block ++ (SyncCommand.done.id ++ words)

/-- The device gives the data for a path, in pieces of at most `most` bytes. -/
def Gives (most : Nat) (remote : String) (data : Bytes) : Prop :=
  ∃ (pieces : List Bytes) (words : Bytes), (∀ piece ∈ pieces, piece.length ≤ most) ∧
    words.length = 4 ∧ pieces.flatten = data ∧ answer ⟨.receive, remote⟩ =
      pieces.flatMap SyncCommand.data.block ++ (SyncCommand.done.id ++ words)

/-- The device has the files of the tree and what is in its directories. -/
def Holds (most : Nat) (remote : String) : RemoteTree → Prop
  | nil => True
  | dots _ _ rest => rest.Holds most remote
  | file name _ _ data rest =>
    Gives answer most (joinRemote remote name) data ∧ rest.Holds most remote
  | directory name _ _ below rest =>
    Lists answer (joinRemote remote name) below ∧ below.Holds most (joinRemote remote name) ∧
      rest.Holds most remote
  | other _ _ _ rest => rest.Holds most remote

/-- **The device answers as one that has the tree at a path**, and sends files in pieces of at most
`most` bytes. -/
def Serves (most : Nat) (remote : String) (tree : RemoteTree) : Prop :=
  tree.Lists answer remote ∧ tree.Holds answer most remote

end Devices

/-! ## The names of items -/

/-- An item is found under a name of the directory. -/
theorem names_of_mem_items {tree : RemoteTree} {item : Item} (h : item ∈ tree.items) :
    ∃ name ∈ tree.names, ∃ more, item.names = name :: more := by
  induction tree with
  | nil => cases h
  | dots _ _ _ ih => exact ih h
  | file name _ _ data rest ih =>
    rcases List.mem_cons.mp h with rfl | h
    · exact ⟨name, List.mem_cons_self, [], rfl⟩
    · obtain ⟨other, hmem, hother⟩ := ih h
      exact ⟨other, List.mem_cons_of_mem _ hmem, hother⟩
  | directory name _ _ below rest _ ih =>
    rcases List.mem_cons.mp h with rfl | h
    · exact ⟨name, List.mem_cons_self, [], rfl⟩
    rcases List.mem_append.mp h with h | h
    · obtain ⟨item, -, rfl⟩ := List.mem_map.mp h
      exact ⟨name, List.mem_cons_self, item.names, rfl⟩
    · obtain ⟨other, hmem, hother⟩ := ih h
      exact ⟨other, List.mem_cons_of_mem _ hmem, hother⟩
  | other name _ _ rest ih =>
    obtain ⟨other, hmem, hother⟩ := ih h
    exact ⟨other, List.mem_cons_of_mem _ hmem, hother⟩

theorem spelled_of_mem_items {tree : RemoteTree} {item : Item} (h : item ∈ tree.items) :
    ∀ name ∈ item.names, FileTree.Spelled name := by
  induction tree generalizing item with
  | nil => cases h
  | dots _ _ _ ih => exact ih h
  | file name _ _ data rest ih =>
    rcases List.mem_cons.mp h with rfl | h
    · exact List.forall_mem_singleton.mpr name.2
    · exact ih h
  | directory name _ _ below rest ihbelow ih =>
    rcases List.mem_cons.mp h with rfl | h
    · exact List.forall_mem_singleton.mpr name.2
    rcases List.mem_append.mp h with h | h
    · obtain ⟨item, hitem, rfl⟩ := List.mem_map.mp h
      exact List.forall_mem_cons.mpr ⟨name.2, ihbelow hitem⟩
    · exact ih h
  | other _ _ _ _ ih => exact ih h

/-- Items behind a name that no entry has later on are found elsewhere. -/
theorem names_ne_of_mem_items {tree : RemoteTree} {name : String} (hname : name ∉ tree.names)
    {item : Item} (h : item ∈ tree.items) (more : List String) : item.names ≠ name :: more := by
  intro heq
  obtain ⟨other, hmem, below, hother⟩ := names_of_mem_items h
  rw [heq] at hother
  exact hname ((List.cons.inj hother).1 ▸ hmem)

/-- **No two items have the same names.** -/
theorem nodup_items {tree : RemoteTree} (h : tree.Distinct) : (tree.items.map (·.names)).Nodup := by
  induction tree with
  | nil => exact .nil
  | dots _ _ _ ih => exact ih h
  | file name _ _ data rest ih =>
    obtain ⟨hname, hrest⟩ := h
    refine List.nodup_cons.mpr ⟨fun hmem => ?_, ih hrest⟩
    obtain ⟨item, hitem, heq⟩ := List.mem_map.mp hmem
    exact names_ne_of_mem_items hname hitem [] heq
  | directory name _ _ below rest ihbelow ih =>
    obtain ⟨hname, hbelow, hrest⟩ := h
    have hunder : (below.items.map (Item.under name)).map (·.names) =
        (below.items.map (·.names)).map (name.1 :: ·) := by
      rw [List.map_map, List.map_map]
      rfl
    rw [items, List.map_cons, List.map_append, hunder, List.nodup_cons, List.nodup_append]
    -- the directory itself, what is below it, and what is listed behind it
    refine ⟨fun hmem => ?_, ?_, ih hrest, fun names hnames names' hnames' heq => ?_⟩
    · rcases List.mem_append.mp hmem with hmem | hmem
      · obtain ⟨names, hnames, heq⟩ := List.mem_map.mp hmem
        obtain ⟨item, hitem, rfl⟩ := List.mem_map.mp hnames
        obtain ⟨other, -, more, hother⟩ := names_of_mem_items hitem
        rw [hother] at heq
        cases heq
      · obtain ⟨item, hitem, heq⟩ := List.mem_map.mp hmem
        exact names_ne_of_mem_items hname hitem [] heq
    · refine List.pairwise_map.mpr ((ihbelow hbelow).imp fun hne heq => ?_)
      exact hne (List.cons.inj heq).2
    · obtain ⟨more, -, rfl⟩ := List.mem_map.mp hnames
      obtain ⟨item, hitem, rfl⟩ := List.mem_map.mp hnames'
      exact names_ne_of_mem_items hname hitem more heq.symm
  | other _ _ _ _ ih => exact ih h.2

/-- **Nothing is requested twice.** -/
theorem nodup_requests {tree : RemoteTree} (h : tree.Distinct) (remote : String) :
    (tree.requests remote).Nodup := by
  -- items with different names differ in the parts of their paths
  have hparts : ∀ item ∈ tree.items,
      Path.parts (item.request remote).path = Path.parts remote ++ item.names :=
    fun item hitem => Path.parts_foldl_joinRemote
      (fun name hname => (spelled_of_mem_items hitem name hname).1) remote
  refine List.nodup_cons.mpr ⟨fun hmem => ?_, ?_⟩
  · obtain ⟨item, hitem, heq⟩ := List.mem_map.mp hmem
    obtain ⟨name, -, more, hnames⟩ := names_of_mem_items hitem
    have hself := hparts item hitem
    rw [heq, hnames] at hself
    exact List.cons_ne_nil _ _ (List.self_eq_append_right.mp hself)
  · refine List.pairwise_map.mpr ((List.pairwise_map.mp (nodup_items h)).imp_of_mem ?_)
    intro item item' hitem hitem' hne heq
    have hsame := congrArg (fun request => Path.parts request.path) heq
    simp only [hparts item hitem, hparts item' hitem'] at hsame
    exact hne (List.append_cancel_left hsame)

/-! ## Items in the local files -/

section Local

variable {tree filled : FileTree} {path : String} {dir : Place} {items more : List Item}

/-- The local files with items below a place, where nothing stands in their way. -/
def fill (tree : FileTree) (dir : Place) (items : List Item) : FileTree :=
  ⟨tree.nodes ++ items.map fun item => (dir ++ item.names, item.node)⟩

theorem fill_append : fill (fill tree dir items) dir more = fill tree dir (items ++ more) := by
  simp only [fill, List.map_append, List.append_assoc]

theorem fill_under (name : String) :
    fill tree dir (items.map (Item.under name)) = fill tree (dir ++ [name]) items := by
  simp only [fill, List.map_map, Function.comp_def, Item.under, List.append_assoc,
    List.singleton_append]
  rfl

theorem get?_fill_of_some {place : Place} {node : Node} (h : tree.get? place = some node) :
    (fill tree dir items).get? place = some node := by
  rw [FileTree.get?] at h ⊢
  split
  · next hroot => rwa [if_pos hroot] at h
  · next hroot =>
    rw [if_neg hroot] at h
    obtain ⟨entry, hfound, rfl⟩ := Option.map_eq_some_iff.mp h
    rw [fill, List.find?_append, hfound]
    rfl

theorem extends_fill : FileTree.Extends tree (fill tree dir items) :=
  fun _ _ hnode _ => get?_fill_of_some hnode

theorem get?_fill_of_free {place : Place} (hfree : tree.get? place = none)
    (h : ∀ item ∈ items, dir ++ item.names ≠ place) : (fill tree dir items).get? place = none := by
  rw [FileTree.get?] at hfree ⊢
  split
  · next hroot =>
    rw [if_pos hroot] at hfree
    cases hfree
  · next hroot =>
    rw [if_neg hroot, Option.map_eq_none_iff] at hfree
    have hitems : (items.map fun item => (dir ++ item.names, item.node)).find?
        (fun entry => decide (entry.1 = place)) = none := by
      rw [List.find?_eq_none, List.forall_mem_map]
      exact fun item hitem => by simpa using h item hitem
    rw [fill, List.find?_append, hfree, hitems]
    rfl

theorem find?_names (hdistinct : (items.map (·.names)).Nodup) {names : List String} {item : Item} :
    items.find? (·.names = names) = some item ↔ item ∈ items ∧ item.names = names := by
  induction items with
  | nil => simp
  | cons first items ih =>
    obtain ⟨hfirst, hitems⟩ := List.nodup_cons.mp hdistinct
    by_cases hsame : first.names = names
    · rw [List.find?_cons_of_pos (by simpa using hsame), Option.some.injEq, List.mem_cons]
      constructor
      · rintro rfl
        exact ⟨.inl rfl, hsame⟩
      · rintro ⟨rfl | hmem, hnames⟩
        · rfl
        · exact absurd (List.mem_map.mpr ⟨item, hmem, hnames.trans hsame.symm⟩) hfirst
    · rw [List.find?_cons_of_neg (by simpa using hsame), ih hitems, List.mem_cons]
      refine and_congr_left fun hnames => (or_iff_right ?_).symm
      rintro rfl
      exact hsame hnames

/-- **What stands where**: below the place the items, and nothing else. -/
theorem get?_fill (hempty : ∀ names, names ≠ [] → tree.get? (dir ++ names) = none)
    (hdistinct : (items.map (·.names)).Nodup) {names : List String} (hne : names ≠ [])
    {node : Node} :
    (fill tree dir items).get? (dir ++ names) = some node ↔
      ∃ item ∈ items, item.names = names ∧ item.node = node := by
  have hroot : ¬ (dir ++ names).isEmpty = true := by simp [hne]
  have hfree := hempty names hne
  rw [FileTree.get?, if_neg hroot, Option.map_eq_none_iff] at hfree
  have hfind : (items.map fun item => (dir ++ item.names, item.node)).find?
      (fun entry => decide (entry.1 = dir ++ names)) =
        (items.find? (·.names = names)).map fun item => (dir ++ item.names, item.node) := by
    rw [List.find?_map]
    simp only [Function.comp_def, List.append_cancel_left_eq]
  rw [FileTree.get?, if_neg hroot, fill, List.find?_append, hfree, Option.none_or, hfind,
    Option.map_map, Option.map_eq_some_iff]
  simp only [find?_names hdistinct, Function.comp_def, and_assoc]

theorem get?_fill_one {name : String} (hfree : tree.get? (dir ++ [name]) = none)
    (data : Option Bytes) :
    (fill tree dir [⟨[name], data⟩]).get? (dir ++ [name]) = some (Item.node ⟨[name], data⟩) := by
  have hne : dir ++ [name] ≠ [] := List.concat_ne_nil name dir
  have hput :
      fill tree dir [⟨[name], data⟩] = tree.put (dir ++ [name]) (Item.node ⟨[name], data⟩) :=
    (FileTree.put_free hne hfree _).symm
  rw [hput, FileTree.get?_put hne, if_pos rfl]

/-- **An item at a free name** is made below the directory of the path, if there can be one. -/
theorem make_free {name : String} (hbase : tree.Base path dir) (hname : FileTree.Spelled name)
    (hfree : tree.get? (dir ++ [name]) = none) (data : Option Bytes) :
    Item.make path tree ⟨[name], data⟩ =
      (FileTree.newPlace path dir name).map fun _ => fill tree dir [⟨[name], data⟩] := by
  have hput : ∀ node, tree.put (dir ++ [name]) node = ⟨tree.nodes ++ [(dir ++ [name], node)]⟩ :=
    FileTree.put_free (List.concat_ne_nil name dir) hfree
  cases data with
  | none =>
    rw [Item.make]
    simp only [FileTree.makeDirectories, List.foldl_cons, List.foldl_nil,
      FileTree.makeAll_free hbase hname hfree]
    cases hplace : FileTree.newPlace path dir name with
    | error e => rfl
    | ok place =>
      obtain ⟨-, rfl⟩ := FileTree.newPlace_ok hname hplace
      exact congrArg Except.ok (hput _)
  | some data =>
    rw [Item.make]
    simp only [List.foldl_cons, List.foldl_nil, FileTree.create_free hbase hname hfree]
    cases hplace : FileTree.newPlace path dir name with
    | error e => rfl
    | ok place =>
      obtain ⟨-, rfl⟩ := FileTree.newPlace_ok hname hplace
      refine congrArg Except.ok ?_
      rw [FileTree.store_put (List.concat_ne_nil name dir), hput]
      rfl

theorem make_free_ok {name : String} {data : Option Bytes} {made : FileTree}
    (hbase : tree.Base path dir) (hname : FileTree.Spelled name)
    (hfree : tree.get? (dir ++ [name]) = none)
    (h : Item.make path tree ⟨[name], data⟩ = .ok made) :
    FileTree.Named name ∧ made = fill tree dir [⟨[name], data⟩] := by
  rw [make_free hbase hname hfree] at h
  cases hplace : FileTree.newPlace path dir name with
  | error e =>
    rw [hplace] at h
    cases h
  | ok place =>
    rw [hplace] at h
    exact ⟨(FileTree.newPlace_ok hname hplace).1, (Except.ok.inj h).symm⟩

theorem ok_of_bind {ε α β : Type} {x : Except ε α} {f : α → Except ε β} {b : β}
    (h : (x >>= f) = .ok b) : ∃ a, x = .ok a ∧ f a = .ok b := by
  cases x with
  | error e => cases h
  | ok a => exact ⟨a, rfl, h⟩

/-- Items below a directory are made below its path. -/
theorem makeItems_under (name : String) :
    (items.map (Item.under name)).foldlM (Item.make path) tree =
      items.foldlM (Item.make (Path.join path name)) tree := by
  rw [List.foldlM_map]
  rfl

/-- Names that are free stay free when items behind another name are made. -/
theorem free_beside {rest : RemoteTree} {name : String} (hname : name ∉ rest.names)
    (hfree : ∀ other ∈ rest.names, ∀ more, tree.get? (dir ++ other :: more) = none)
    (items : List Item) (hitems : ∀ item ∈ items, ∃ more, item.names = name :: more) :
    ∀ other ∈ rest.names, ∀ more, (fill tree dir items).get? (dir ++ other :: more) = none := by
  intro other hother more
  refine get?_fill_of_free (hfree other hother more) fun item hitem heq => ?_
  obtain ⟨behind, hbehind⟩ := hitems item hitem
  rw [hbehind] at heq
  exact hname ((List.cons.inj (List.append_cancel_left heq)).1 ▸ hother)

/-- **What is made of a tree below a directory that has none of its names** is its items. -/
theorem makeItems_eq {remote : RemoteTree} (hdistinct : remote.Distinct)
    (hbase : tree.Base path dir)
    (hfree : ∀ name ∈ remote.names, ∀ more, tree.get? (dir ++ name :: more) = none)
    (h : remote.items.foldlM (Item.make path) tree = .ok filled) :
    filled = fill tree dir remote.items := by
  -- what is made before leaves the names of later entries free, which carries the induction
  induction remote generalizing tree path dir filled with
  | nil =>
    cases h
    rw [items, fill, List.map_nil, List.append_nil]
  | dots _ _ _ ih => exact ih hdistinct hbase hfree h
  | file name _ _ data rest ih =>
    obtain ⟨hname, hrest⟩ := hdistinct
    obtain ⟨hself, hlater⟩ := List.forall_mem_cons.mp hfree
    rw [items, List.foldlM_cons] at h
    obtain ⟨made, hmade, h⟩ := ok_of_bind h
    obtain ⟨-, rfl⟩ := make_free_ok hbase name.2 (hself []) hmade
    have hbeside := free_beside hname hlater [⟨[name], some data⟩]
      (List.forall_mem_singleton.mpr ⟨[], rfl⟩)
    rw [ih hrest (hbase.mono extends_fill) hbeside h, fill_append]
    rfl
  | directory name _ _ below rest ihbelow ih =>
    obtain ⟨hname, hbelow, hrest⟩ := hdistinct
    obtain ⟨hself, hlater⟩ := List.forall_mem_cons.mp hfree
    rw [items, List.foldlM_cons] at h
    obtain ⟨made, hmade, h⟩ := ok_of_bind h
    obtain ⟨hnamed, rfl⟩ := make_free_ok hbase name.2 (hself []) hmade
    rw [List.foldlM_append, makeItems_under] at h
    obtain ⟨inside, hinside, h⟩ := ok_of_bind h
    -- the directory has been made, and nothing is in it yet
    have hmadeBase := (hbase.mono extends_fill).join hnamed (get?_fill_one (hself []) none)
    have hempty : ∀ other ∈ below.names, ∀ more,
        (fill tree dir [⟨[name], none⟩]).get? (dir ++ [name.1] ++ other :: more) = none := by
      intro other _ more
      rw [List.append_assoc]
      refine get?_fill_of_free (hself (other :: more)) (List.forall_mem_singleton.mpr fun heq => ?_)
      cases List.append_cancel_left heq
    obtain rfl := ihbelow hbelow hmadeBase hempty hinside
    rw [← fill_under, fill_append] at h
    have hbeside := free_beside hname hlater (⟨[name], none⟩ :: below.items.map (Item.under name))
      (List.forall_mem_cons.mpr ⟨⟨[], rfl⟩, List.forall_mem_map.mpr fun item _ => ⟨_, rfl⟩⟩)
    rw [ih hrest (hbase.mono extends_fill) hbeside h, fill_append]
    rfl
  | other _ _ _ _ ih => exact ih hdistinct.2 hbase (List.forall_mem_cons.mp hfree).2 h

end Local

end RemoteTree

end DebugBridge
