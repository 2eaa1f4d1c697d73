import DebugBridge.Proofs.Files.Base

/-!
# The files below a directory

A directory is sent file by file, in the order of a walk. The walk finds each regular file below the
directory once: those to which directories lead, and neither links nor what is behind them. They
come in ascending order, name by name, so a directory's files stand where its name does.

* `mem_filesBelow` — what the walk finds
* `ascending_filesBelow` — in which order, and that nothing is found twice
* `files_cases` — what the walk makes of a path
-/

namespace DebugBridge.FileTree

variable {tree : FileTree}

/-! ## Well-formed trees -/

/-- Each place is listed once, and the names in it are those of files. -/
structure Proper (tree : FileTree) : Prop where
  distinct : (tree.nodes.map (·.1)).Nodup
  named : ∀ entry ∈ tree.nodes, ∀ name ∈ entry.1, Named name

/-- What stands somewhere below the root is listed. -/
theorem get?_isSome {place : Place} (hne : place ≠ []) :
    (∃ node, tree.get? place = some node) ↔ ∃ node, (place, node) ∈ tree.nodes := by
  have hnot : ¬ place.isEmpty = true := by simpa using hne
  rw [get?, if_neg hnot]
  constructor
  · rintro ⟨node, h⟩
    obtain ⟨entry, hfound, rfl⟩ := Option.map_eq_some_iff.mp h
    have hplace : entry.1 = place := of_decide_eq_true (List.find?_some hfound :)
    exact ⟨entry.2, hplace ▸ List.mem_of_find?_eq_some hfound⟩
  · rintro ⟨node, h⟩
    have hsome : (tree.nodes.find? fun entry => entry.1 = place).isSome = true :=
      List.find?_isSome.mpr ⟨_, h, decide_eq_true rfl⟩
    obtain ⟨entry, hfound⟩ := Option.isSome_iff_exists.mp hsome
    exact ⟨entry.2, by rw [hfound]; rfl⟩

theorem Proper.names (h : tree.Proper) {place : Place} {node : Node}
    (hnode : tree.get? place = some node) : ∀ name ∈ place, Named name := by
  intro name hname
  obtain ⟨node', hmem⟩ := (get?_isSome (List.ne_nil_of_mem hname)).mp ⟨node, hnode⟩
  exact h.named _ hmem name hname

/-! ## The names in a directory -/

/-- When an entry gives a name to the list of a directory. -/
theorem nameIn_eq_some {dir place : Place} {name : String} :
    (if place.dropLast = dir && !place.isEmpty then place.getLast? else none) = some name ↔
      place = dir ++ [name] := by
  constructor
  · intro h
    split at h
    · next hbelow =>
      obtain ⟨front, rfl⟩ := List.getLast?_eq_some_iff.mp h
      simp only [List.dropLast_concat, Bool.and_eq_true, decide_eq_true_eq] at hbelow
      rw [hbelow.1]
    · cases h
  · rintro rfl
    simp

theorem mem_namesIn {dir : Place} {name : String} :
    name ∈ tree.namesIn dir ↔ ∃ node, tree.get? (dir ++ [name]) = some node := by
  rw [get?_isSome (List.concat_ne_nil name dir), namesIn, (List.mergeSort_perm _ _).mem_iff,
    List.mem_filterMap]
  constructor
  · rintro ⟨⟨place, node⟩, hmem, h⟩
    exact ⟨node, nameIn_eq_some.mp h ▸ hmem⟩
  · rintro ⟨node, hmem⟩
    exact ⟨_, hmem, nameIn_eq_some.mpr rfl⟩

theorem ascending_namesIn (h : tree.Proper) (dir : Place) :
    (tree.namesIn dir).Pairwise (· < ·) := by
  have hsorted : (tree.namesIn dir).Pairwise fun a b => decide (a ≤ b) = true := by
    refine List.pairwise_mergeSort (fun a b c hab hbc => ?_) (fun a b => ?_) _
    · exact decide_eq_true (String.le_trans (of_decide_eq_true hab) (of_decide_eq_true hbc))
    · simpa using String.le_total a b
  have hdistinct : (tree.namesIn dir).Pairwise (· ≠ ·) := by
    rw [namesIn, ← List.Nodup, (List.mergeSort_perm _ _).nodup_iff]
    refine List.Pairwise.filterMap _ ?_ (List.pairwise_map.mp h.distinct)
    rintro entry entry' hne name hname _ hname' rfl
    exact hne ((nameIn_eq_some.mp hname).trans (nameIn_eq_some.mp hname').symm)
  refine (hsorted.and hdistinct).imp fun ⟨hle, hne⟩ => String.not_le.mp fun hge => hne ?_
  exact String.le_antisymm (of_decide_eq_true hle) hge

/-! ## The walk -/

/-- Directories lead from `dir` along the names to a regular file. -/
structure RegularAt (tree : FileTree) (dir : Place) (names : List String) : Prop where
  leads : tree.Leads dir names
  below : names ≠ []
  file : ∃ data mode modified, tree.get? (dir ++ names) = some (.file data mode modified) ∧
    isRegular mode = true

theorem regularAt_cons {dir : Place} {name : String} {names : List String}
    (hdir : tree.get? dir = some .directory) :
    tree.RegularAt dir (name :: names) ↔
      (names = [] ∧ ∃ data mode modified,
        tree.get? (dir ++ [name]) = some (.file data mode modified) ∧ isRegular mode = true) ∨
      (tree.get? (dir ++ [name]) = some .directory ∧ tree.RegularAt (dir ++ [name]) names) := by
  constructor
  · rintro ⟨hleads, -, hfile⟩
    obtain ⟨-, hbelow⟩ := leads_cons.mp hleads
    cases names with
    | nil => exact .inl ⟨rfl, hfile⟩
    | cons next names =>
      rw [List.append_cons] at hfile
      exact .inr ⟨(leads_cons.mp hbelow).1, hbelow, List.cons_ne_nil _ _, hfile⟩
  · rintro (⟨rfl, hfile⟩ | ⟨-, hbelow, -, hfile⟩)
    · exact ⟨leads_cons.mpr ⟨hdir, fun front hfront hne =>
        absurd (List.prefix_nil.mp hfront) hne⟩, List.cons_ne_nil _ _, hfile⟩
    · rw [List.append_assoc, List.singleton_append] at hfile
      exact ⟨leads_cons.mpr ⟨hdir, hbelow⟩, List.cons_ne_nil _ _, hfile⟩

/-- **The walk finds the regular files below a directory**, down to its depth. -/
theorem mem_filesBelow {dir : Place} (hdir : tree.get? dir = some .directory) {depth : Nat}
    {names : List String} :
    names ∈ tree.filesBelow dir depth ↔ tree.RegularAt dir names ∧ names.length ≤ depth := by
  -- a regular file stands in the directory itself, or in one below it with one level less
  induction depth generalizing dir names with
  | zero =>
    refine ⟨fun h => absurd h List.not_mem_nil, fun ⟨h, hlength⟩ => ?_⟩
    exact absurd (List.length_eq_zero_iff.mp (Nat.le_zero.mp hlength)) h.below
  | succ depth ih =>
    rw [filesBelow, List.mem_flatMap]
    constructor
    · rintro ⟨name, -, hmem⟩
      split at hmem
      · next data mode modified hfile =>
        split at hmem
        · next hregular =>
          rw [List.mem_singleton.mp hmem, regularAt_cons hdir]
          exact ⟨.inl ⟨rfl, _, _, _, hfile, hregular⟩, Nat.succ_le_succ (Nat.zero_le _)⟩
        · cases hmem
      · next hdirectory =>
        obtain ⟨below, hbelow, rfl⟩ := List.mem_map.mp hmem
        obtain ⟨hregular, hlength⟩ := (ih hdirectory).mp hbelow
        exact ⟨(regularAt_cons hdir).mpr (.inr ⟨hdirectory, hregular⟩), Nat.succ_le_succ hlength⟩
      · cases hmem
    · rintro ⟨hregular, hlength⟩
      cases names with
      | nil => exact absurd rfl hregular.below
      | cons name names =>
        rcases (regularAt_cons hdir).mp hregular with
          ⟨rfl, data, mode, modified, hfile, hmode⟩ | ⟨hdirectory, hbelow⟩
        · refine ⟨name, mem_namesIn.mpr ⟨_, hfile⟩, ?_⟩
          rw [hfile]
          simp only [hmode, if_true, List.mem_singleton]
        · refine ⟨name, mem_namesIn.mpr ⟨_, hdirectory⟩, ?_⟩
          rw [hdirectory]
          exact List.mem_map_of_mem ((ih hdirectory).mpr ⟨hbelow, Nat.le_of_succ_le_succ hlength⟩)

/-- What the walk finds under a name starts with it. -/
theorem head_of_mem_filesUnder {dir : Place} {name : String} {depth : Nat} {names : List String}
    (h : names ∈ (match tree.get? (dir ++ [name]) with
      | some (.file _ mode _) => if isRegular mode then [[name]] else []
      | some .directory => (tree.filesBelow (dir ++ [name]) depth).map (name :: ·)
      | _ => [])) :
    ∃ below, names = name :: below := by
  split at h
  · split at h
    · exact ⟨[], List.mem_singleton.mp h⟩
    · cases h
  · obtain ⟨below, -, rfl⟩ := List.mem_map.mp h
    exact ⟨below, rfl⟩
  · cases h

/-- **The walk goes upwards**, so it finds no file twice. -/
theorem ascending_filesBelow (h : tree.Proper) (dir : Place) (depth : Nat) :
    (tree.filesBelow dir depth).Pairwise (· < ·) := by
  induction depth generalizing dir with
  | zero => exact .nil
  | succ depth ih =>
    -- under one name the order is that of the level below, under two names that of the names
    rw [filesBelow, List.pairwise_flatMap]
    refine ⟨fun name _ => ?_, (ascending_namesIn h dir).imp ?_⟩
    · split
      · split
        · exact List.pairwise_singleton _ _
        · exact .nil
      · refine List.pairwise_map.mpr ((ih _).imp fun hlt => ?_)
        exact List.cons_lt_cons_iff.mpr (.inr ⟨rfl, hlt⟩)
      · exact .nil
    · intro name name' hlt names hnames names' hnames'
      obtain ⟨below, rfl⟩ := head_of_mem_filesUnder hnames
      obtain ⟨below', rfl⟩ := head_of_mem_filesUnder hnames'
      exact List.cons_lt_cons_iff.mpr (.inl hlt)

/-! ## The levels of a tree -/

theorem le_foldl_max (lengths : List Nat) (least : Nat) :
    ∀ n ∈ least :: lengths, n ≤ lengths.foldl max least := by
  induction lengths generalizing least with
  | nil => simp
  | cons m lengths ih =>
    obtain ⟨hfirst, hrest⟩ := List.forall_mem_cons.mp (ih (max least m))
    refine List.forall_mem_cons.mpr ⟨?_, List.forall_mem_cons.mpr ⟨?_, hrest⟩⟩
    · exact Nat.le_trans (Nat.le_max_left _ _) hfirst
    · exact Nat.le_trans (Nat.le_max_right _ _) hfirst

/-- No place is deeper than the tree. -/
theorem length_le_levels {place : Place} {node : Node} (h : tree.get? place = some node) :
    place.length ≤ tree.levels := by
  by_cases hne : place = []
  · rw [hne]
    exact Nat.zero_le _
  · obtain ⟨node', hmem⟩ := (get?_isSome hne).mp ⟨node, h⟩
    have hlength : place.length ∈ tree.nodes.map (·.1.length) := List.mem_map.mpr ⟨_, hmem, rfl⟩
    exact le_foldl_max _ 0 _ (List.mem_cons_of_mem _ hlength)

theorem RegularAt.length_le {dir : Place} {names : List String} (h : tree.RegularAt dir names) :
    names.length ≤ tree.levels := by
  obtain ⟨data, mode, modified, hfile, -⟩ := h.file
  have hle := length_le_levels hfile
  rw [List.length_append] at hle
  exact Nat.le_trans (Nat.le_add_left _ _) hle

/-! ## The files below a path -/

/-- The path leads to a directory at a place, links followed. -/
structure LeadsTo (tree : FileTree) (path : String) (dir : Place) : Prop where
  located : tree.locate .target path = .ok dir
  directory : tree.get? dir = some .directory

theorem LeadsTo.checked {path : String} {dir : Place} (h : tree.LeadsTo path dir) :
    FileTree.checked path = .ok path := by
  have hlocated := h.located
  rw [locate] at hlocated
  cases hc : FileTree.checked path with
  | error e =>
    rw [hc] at hlocated
    cases hlocated
  | ok p => rw [checked_ok hc]

theorem LeadsTo.entersSegments {path : String} {dir : Place} (h : tree.LeadsTo path dir) :
    Enters tree maxLinks [] (Path.segments path) dir := by
  have hlocated := h.located
  rw [locate, h.checked] at hlocated
  exact enters_of_walk (.refl tree) (.inr h.directory) h.directory hlocated

theorem LeadsTo.enters {path : String} {dir : Place} (h : tree.LeadsTo path dir) :
    Enters tree maxLinks [] (Path.parts path) dir :=
  h.entersSegments.same_steps (by rw [filter_leads_segments, filter_leads_parts])

theorem LeadsTo.base {path : String} {dir : Place} (h : tree.LeadsTo path dir) :
    Base tree path dir :=
  base_of_enters h.enters (noZero_of_checked h.checked)

theorem LeadsTo.find {path : String} {dir : Place} (h : tree.LeadsTo path dir) :
    tree.find path = .ok .directory := by
  rw [FileTree.find, h.located]
  simp only [bind, Except.bind, h.directory]

/-- A path that leads to a directory names a directory or a link. -/
theorem LeadsTo.findName {path : String} {dir : Place} (h : tree.LeadsTo path dir) :
    ∃ node, tree.findName path = .ok node ∧ ¬ IsFile node := by
  obtain ⟨place, node, hwalk, hnode, hkind⟩ := h.entersSegments.walk_name
  have hlocated : tree.locate .name path = .ok place := by
    rw [locate, h.checked]
    exact hwalk
  refine ⟨node, ?_, hkind⟩
  rw [FileTree.findName, hlocated]
  simp only [bind, Except.bind, hnode]

/-- What is found to be a directory is led to. -/
theorem leadsTo_of_find {path : String} (h : tree.find path = .ok .directory) :
    ∃ dir, tree.LeadsTo path dir := by
  rw [FileTree.find] at h
  cases hl : tree.locate .target path with
  | error e =>
    rw [hl] at h
    cases h
  | ok dir =>
    rw [hl] at h
    simp only [bind, Except.bind] at h
    split at h
    · next hnode =>
      cases h
      exact ⟨dir, hl, hnode⟩
    · cases h

theorem leadsTo_of_isDirectory {path : String} (h : tree.isDirectory path = true) :
    ∃ dir, tree.LeadsTo path dir := by
  rw [isDirectory] at h
  split at h
  · next hfind => exact leadsTo_of_find hfind
  · cases h

/-- **What the walk makes of a path**: it leads to a directory, and the files below that are found;
or it leads to no directory, and then there are none. -/
theorem files_cases (tree : FileTree) (path : String) :
    (∃ dir, tree.LeadsTo path dir ∧ tree.files path = .ok (tree.filesBelow dir tree.levels)) ∨
    ((∀ dir, ¬ tree.LeadsTo path dir) ∧
      ((∃ e, tree.files path = .error e) ∨ tree.files path = .ok [])) := by
  by_cases h : ∃ dir, tree.LeadsTo path dir
  · obtain ⟨dir, h⟩ := h
    -- the walk first looks at the path itself, where a link to the directory may stand
    obtain ⟨node, hname, hkind⟩ := h.findName
    refine .inl ⟨dir, h, ?_⟩
    rw [files, hname]
    cases node with
    | file data mode modified => exact absurd ⟨data, mode, modified, rfl⟩ hkind
    | directory => simp only [bind, Except.bind, h.find, h.located]
    | link target => simp only [bind, Except.bind, h.find, h.located]
  · refine .inr ⟨fun dir hdir => h ⟨dir, hdir⟩, ?_⟩
    have hfind : tree.find path ≠ .ok .directory := fun hfind => h (leadsTo_of_find hfind)
    rw [files]
    cases tree.findName path with
    | error e => exact .inl ⟨_, rfl⟩
    | ok node =>
      cases node with
      | file data mode modified => exact .inr rfl
      | _ =>
        cases hf : tree.find path with
        | error e => exact .inl ⟨_, rfl⟩
        | ok found =>
          cases found with
          | directory => exact absurd hf hfind
          | _ => exact .inr rfl

/-- The walk of a path finds exactly the regular files below it. -/
theorem mem_files {path : String} {files : List (List String)} (h : tree.files path = .ok files)
    (names : List String) :
    names ∈ files ↔ ∃ dir, tree.LeadsTo path dir ∧ tree.RegularAt dir names := by
  rcases files_cases tree path with ⟨dir, hdir, hfiles⟩ | ⟨hnone, hfiles⟩
  · rw [h] at hfiles
    cases hfiles
    rw [mem_filesBelow hdir.directory]
    constructor
    · exact fun hmem => ⟨dir, hdir, hmem.1⟩
    · rintro ⟨dir', hdir', hregular⟩
      obtain rfl := Except.ok.inj (hdir.located.symm.trans hdir'.located)
      exact ⟨hregular, hregular.length_le⟩
  · rcases hfiles with ⟨e, he⟩ | hempty
    · rw [h] at he
      cases he
    · rw [h] at hempty
      cases hempty
      refine ⟨fun hmem => absurd hmem List.not_mem_nil, ?_⟩
      rintro ⟨dir, hdir, -⟩
      exact absurd hdir (hnone dir)

theorem ascending_files (hproper : tree.Proper) {path : String} {files : List (List String)}
    (h : tree.files path = .ok files) : files.Pairwise (· < ·) := by
  rcases files_cases tree path with ⟨dir, -, hfiles⟩ | ⟨-, ⟨e, he⟩ | hempty⟩
  · rw [h] at hfiles
    cases hfiles
    exact ascending_filesBelow hproper dir _
  · rw [h] at he
    cases he
  · rw [h] at hempty
    cases hempty
    exact .nil

end DebugBridge.FileTree
