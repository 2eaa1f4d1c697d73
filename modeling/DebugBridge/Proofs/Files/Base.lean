import DebugBridge.Proofs.Files.Tree

/-!
# Below a directory that is there

Names are joined to a path that leads to a directory, one after another. Where such a path leads is
decided by the names and by what stands below the directory, however the path itself leads to it.
What is made at a name that is free there fails for two reasons only: a name or a path is too long,
or the directory is the root.

* `Base` — what is joined to a path goes on from a directory
* `locate_below` — what stands below the directory is what its path leads to
* `create_free`, `makeAll_free` — what is made at a free name, or why nothing is
-/

namespace DebugBridge.FileTree

variable {tree tree' : FileTree} {path name : String} {dir : Place} {names : List String}

/-! ## Names -/

/-- A text that can be a name, but for its length. -/
def Spelled (name : String) : Prop :=
  Path.IsName name ∧ '\x00' ∉ name.toList ∧ name ≠ "." ∧ name ≠ ".."

instance (name : String) : Decidable (Spelled name) :=
  inferInstanceAs (Decidable (Path.IsName name ∧ '\x00' ∉ name.toList ∧ name ≠ "." ∧ name ≠ ".."))

/-- A name that a file can have. -/
def Named (name : String) : Prop := Spelled name ∧ Utf8.size name ≤ maxName

instance (name : String) : Decidable (Named name) :=
  inferInstanceAs (Decidable (Spelled name ∧ Utf8.size name ≤ maxName))

theorem Named.isName (h : Named name) : Path.IsName name := h.1.1

theorem Named.plain (h : Named name) : Plain name :=
  ⟨h.1.2.2.1, h.1.1.1, h.1.2.2.2, h.2⟩

theorem not_empty_of_spelled (h : ∀ name ∈ names, Spelled name) : names ≠ [""] := by
  rintro rfl
  exact (h "" List.mem_cons_self).1.1 rfl

/-! ## Paths that go on from a directory -/

/-- What is joined to the path goes on from the directory at a place. -/
structure Base (tree : FileTree) (path : String) (dir : Place) : Prop where
  walked : tree.walk .target maxLinks [] (Path.parts path) = .ok dir
  directory : tree.get? dir = some .directory
  noZero : '\x00' ∉ path.toList

namespace Enters

variable {links : Nat} {dir place : Place} (h : Enters tree links dir names place)
include h

theorem directory : tree.get? place = some .directory := by
  induction h with
  | here hdir => exact hdir
  | skip _ _ ih => exact ih
  | up _ ih => exact ih
  | down _ _ _ ih => exact ih
  | link _ _ _ ih => exact ih

theorem walk_target : tree.walk .target links dir names = .ok place := by
  have hpurpose : ∀ rest, Purpose.target = .creation → rest ≠ [""] := nofun
  induction h with
  | here _ => exact walk_nil
  | skip hskip _ ih =>
    rw [walk_skip hskip]
    exact ih
  | up _ ih =>
    rw [walk_up]
    exact ih
  | down hplain hnode _ ih =>
    rw [walk_plain hplain (hpurpose _), hnode]
    exact ih
  | link hplain hnode _ ih =>
    rw [walk_plain hplain (hpurpose _), hnode]
    simp only
    rw [if_neg (by simp)]
    exact ih

/-- One more directory is entered. -/
theorem concat (hname : Plain name) (hnode : tree.get? (place ++ [name]) = some .directory) :
    Enters tree links dir (names ++ [name]) (place ++ [name]) := by
  induction h with
  | here _ => exact .down hname hnode (.here hnode)
  | skip hskip _ ih => exact .skip hskip (ih hnode)
  | up _ ih => exact .up (ih hnode)
  | down hplain hdown _ ih => exact .down hplain hdown (ih hnode)
  | link hplain hlink _ ih =>
    refine .link hplain hlink ?_
    have hmore := ih hnode
    rw [List.append_assoc] at hmore
    exact hmore

end Enters

theorem Base.enters (h : Base tree path dir) : Enters tree maxLinks [] (Path.parts path) dir :=
  enters_of_walk (.refl tree) (.inr h.directory) h.directory h.walked

theorem base_of_enters (h : Enters tree maxLinks [] (Path.parts path) dir)
    (hzero : '\x00' ∉ path.toList) : Base tree path dir :=
  ⟨h.walk_target, h.directory, hzero⟩

/-- **A base lasts**, whatever is added to the tree. -/
theorem Base.mono (h : Base tree path dir) (hext : Extends tree tree') : Base tree' path dir :=
  base_of_enters (h.enters.mono hext) h.noZero

/-- A path that can be looked up has no character with the number zero. -/
theorem noZero_of_checked {p : String} (h : checked path = .ok p) : '\x00' ∉ path.toList := by
  intro hmem
  rw [checked, if_pos (List.contains_iff_mem.mpr hmem)] at h
  cases h

section Below

variable (hbase : Base tree path dir)
include hbase

/-- A directory below is a base as well. -/
theorem Base.join (hname : Named name) (hnode : tree.get? (dir ++ [name]) = some .directory) :
    Base tree (Path.join path name) (dir ++ [name]) := by
  obtain ⟨hisName, hzero, -⟩ := hname.1
  refine base_of_enters ?_ fun hmem => ?_
  · rw [Path.parts_join hisName.isAbsolute, Path.parts_of_notMem hisName.1 hisName.2]
    exact hbase.enters.concat hname.plain hnode
  · rcases Path.mem_toList_join hmem with hpath | hslash | hmem
    · exact hbase.noZero hpath
    · cases hslash
    · exact hzero hmem

variable (hne : names ≠ []) (hnames : ∀ name ∈ names, Spelled name)
include hne hnames

/-- A path that goes on along names can be looked up, if it is not too long. -/
theorem checked_below :
    checked (names.foldl Path.join path) =
      if Utf8.size (names.foldl Path.join path) > maxPath then .error nameTooLong
      else .ok (names.foldl Path.join path) := by
  have hzero : ¬ (names.foldl Path.join path).toList.contains '\x00' = true := by
    intro hmem
    rcases Path.mem_toList_foldl_join (List.contains_iff_mem.mp hmem) with
      hpath | h | ⟨name, hname, h⟩
    · exact hbase.noZero hpath
    · cases h
    · exact (hnames name hname).2.1 h
  have hempty : ¬ (names.foldl Path.join path).isEmpty = true := by
    intro h
    have hparts := Path.parts_foldl_join (fun name hname => (hnames name hname).1) path
    rw [String.isEmpty_iff.mp h, Path.parts_empty] at hparts
    exact List.append_ne_nil_of_right_ne_nil _ hne hparts.symm
  rw [checked, if_neg hzero, if_neg hempty]

/-- Where a path that goes on along names leads is decided by a walk from the directory. -/
theorem locate_onward (purpose : Purpose) :
    ∃ fewer, tree.locate purpose (names.foldl Path.join path) =
      if Utf8.size (names.foldl Path.join path) > maxPath then .error nameTooLong
      else tree.walk purpose fewer dir names := by
  have hsegments := Path.segments_foldl_join (fun name hname => (hnames name hname).1) hne path
  obtain ⟨fewer, hwalk⟩ :=
    hbase.enters.walk_append purpose hne fun _ => not_empty_of_spelled hnames
  refine ⟨fewer, ?_⟩
  -- the walk spends some of its links on the way to the directory, the rest are left for the names
  rw [locate, checked_below hbase hne hnames]
  split
  · rfl
  · show tree.walk purpose maxLinks [] (Path.segments _) = _
    rw [hsegments, hwalk]

end Below

/-- **Directories below one that is there are walked along.** -/
theorem locate_below (hbase : Base tree path dir) (hne : names ≠ [])
    (hnames : ∀ name ∈ names, Named name) {purpose : Purpose} (hleads : tree.Leads dir names)
    (hend : ∀ target, tree.get? (dir ++ names) ≠ some (.link target)) :
    tree.locate purpose (names.foldl Path.join path) =
      if Utf8.size (names.foldl Path.join path) > maxPath then .error nameTooLong
      else .ok (dir ++ names) := by
  obtain ⟨fewer, hlocate⟩ :=
    locate_onward hbase hne (fun name hname => (hnames name hname).1) purpose
  rw [hlocate, walk_leads (fun name hname => (hnames name hname).plain) hleads hend]

/-! ## Free names -/

theorem put_free {place : Place} (hne : place ≠ []) (hfree : tree.get? place = none) (node : Node) :
    tree.put place node = ⟨tree.nodes ++ [(place, node)]⟩ := by
  have hnot : ¬ place.isEmpty = true := by simpa using hne
  rw [get?, if_neg hnot, Option.map_eq_none_iff, List.find?_eq_none] at hfree
  have hkept : tree.nodes.filter (fun entry => entry.1 ≠ place) = tree.nodes :=
    List.filter_eq_self.mpr fun entry hentry => by simpa using hfree entry hentry
  rw [put, hkept]

/-- What was put last counts. -/
theorem put_put (place : Place) (node node' : Node) :
    (tree.put place node).put place node' = tree.put place node' := by
  simp [put, List.filter_append, List.filter_filter]

/-- The data of a new file. -/
theorem store_put {place : Place} (hne : place ≠ []) (mode : Nat) (modified : Int) (data : Bytes) :
    (tree.put place (.file [] mode modified)).store place data =
      tree.put place (.file data mode modified) := by
  rw [store, get?_put hne, if_pos rfl]
  exact put_put place _ _

/-- The place of a new name in a directory to which the path leads, or why nothing can be made
there. -/
def newPlace (path : String) (dir : Place) (name : String) : Except IoFailure Place :=
  if Utf8.size (Path.join path name) > maxPath ∨ Utf8.size name > maxName then .error nameTooLong
  else if dir = [] then .error denied
  else .ok (dir ++ [name])

theorem newPlace_ok {place : Place} (hname : Spelled name)
    (h : newPlace path dir name = .ok place) : Named name ∧ place = dir ++ [name] := by
  rw [newPlace] at h
  split at h
  · cases h
  · next hshort =>
    split at h
    · cases h
    · exact ⟨⟨hname, Nat.not_lt.mp (not_or.mp hshort).2⟩, (Except.ok.inj h).symm⟩

/-- Nothing is missing above the place of a new name. -/
theorem newPlace_error {e : IoFailure} (h : newPlace path dir name = .error e) :
    e.kind ≠ .notFound := by
  rw [newPlace] at h
  split at h
  · cases h
    decide
  · split at h
    · cases h
      decide
    · cases h

theorem walk_free {purpose : Purpose} {links : Nat} (hname : Spelled name)
    (hfree : tree.get? (dir ++ [name]) = none) :
    tree.walk purpose links dir [name] =
      if Utf8.size name > maxName then .error nameTooLong else .ok (dir ++ [name]) := by
  split
  · next hlong =>
    obtain ⟨⟨hempty, -⟩, -, hdot, hup⟩ := hname
    rw [walk_eq, walkNames, if_neg (by simp [hdot, hempty]), if_neg hup,
      if_neg (by simp), if_pos hlong]
  · next hshort =>
    have hnamed : Named name := ⟨hname, Nat.not_lt.mp hshort⟩
    rw [walk_plain hnamed.plain (fun _ => by simp), hfree]
    rfl

/-- Where nothing is missing above a path, only the directory itself is made. -/
theorem makeAll_of_lacksAbove (hne : path ≠ "") (h : tree.lacksAbove path = false) :
    tree.makeAll path = tree.makePresent path := by
  rw [makeAll, if_neg (mt String.isEmpty_iff.mp hne)]
  simp only
  cases ((Path.parts path).filter (· ≠ ".")).dropLast.reverse with
  | nil => rfl
  | cons above names => rw [makeBelow, h, if_neg Bool.false_ne_true]

section Free

variable (hbase : Base tree path dir) (hname : Spelled name)
  (hfree : tree.get? (dir ++ [name]) = none)
include hbase hname hfree

theorem locate_free (purpose : Purpose) :
    tree.locate purpose (Path.join path name) =
      if Utf8.size (Path.join path name) > maxPath ∨ Utf8.size name > maxName then
        .error nameTooLong
      else .ok (dir ++ [name]) := by
  obtain ⟨fewer, hlocate⟩ := locate_onward hbase (List.cons_ne_nil name [])
    (List.forall_mem_singleton.mpr hname) purpose
  rw [List.foldl_cons, List.foldl_nil, walk_free hname hfree] at hlocate
  rw [hlocate]
  split <;> simp [*]

/-- **A file is made at a free name**, if there can be one. -/
theorem create_free :
    tree.create (Path.join path name) =
      (newPlace path dir name).map fun place => (place, tree.put place (.file [] newMode 0)) := by
  rw [create, locate_free hbase hname hfree, newPlace]
  split
  · rfl
  · simp only [bind, Except.bind, hfree, List.dropLast_concat, List.isEmpty_iff]
    split <;> rfl

theorem makeDirectory_free :
    tree.makeDirectory (Path.join path name) =
      (newPlace path dir name).map fun place => tree.put place .directory := by
  have hchecked := checked_below hbase (List.cons_ne_nil name [])
    (List.forall_mem_singleton.mpr hname)
  rw [List.foldl_cons, List.foldl_nil] at hchecked
  obtain ⟨fewer, hwalk⟩ := hbase.enters.walk_append .name (List.cons_ne_nil name [])
    nofun
  rw [makeDirectory_eq, Path.parts_join hname.1.isAbsolute,
    Path.parts_of_notMem hname.1.1 hname.1.2, hwalk, walk_free hname hfree, hchecked, newPlace]
  by_cases hpath : Utf8.size (Path.join path name) > maxPath
  · simp only [hpath, if_true, true_or]
    rfl
  · by_cases hlong : Utf8.size name > maxName
    · simp only [hpath, hlong, if_true, if_false, or_true]
      rfl
    · simp only [hpath, hlong, if_false, or_self, hfree, List.dropLast_concat, List.isEmpty_iff]
      split <;> rfl

theorem isDirectory_free : tree.isDirectory (Path.join path name) = false := by
  rw [isDirectory, find, locate_free hbase hname hfree]
  split
  · next hfind =>
    split at hfind
    · cases hfind
    · simp only [bind, Except.bind, hfree] at hfind
      cases hfind
  · rfl

/-- **A directory is made at a free name**, if there can be one, and nothing above it. -/
theorem makeAll_free :
    tree.makeAll (Path.join path name) = match newPlace path dir name with
      | .ok place => (.ok (), tree.put place .directory)
      | .error e => (.error e, tree) := by
  have hmade := makeDirectory_free hbase hname hfree
  -- a failure for a missing directory is the only one after which more would be made
  have hpresent : tree.makePresent (Path.join path name) = match newPlace path dir name with
      | .ok place => (.ok (), tree.put place .directory)
      | .error e => (.error e, tree) := by
    rw [makePresent, hmade, isDirectory_free hbase hname hfree]
    cases newPlace path dir name <;> rfl
  have hlacks : tree.lacksAbove (Path.join path name) = false := by
    rw [lacksAbove, hmade]
    cases hnew : newPlace path dir name with
    | ok place => rfl
    | error e => exact decide_eq_false (newPlace_error hnew)
  have hne : Path.join path name ≠ "" := by
    intro hempty
    have hparts := Path.parts_join hname.1.isAbsolute path
    rw [hempty, Path.parts_of_notMem hname.1.1 hname.1.2] at hparts
    exact List.append_ne_nil_of_right_ne_nil _ (List.cons_ne_nil _ _) hparts.symm
  rw [makeAll_of_lacksAbove hne hlacks, hpresent]

end Free

/-! ## Directories that were made -/

/-- Only a path without the character with the number zero can be made. -/
theorem noZero_of_makeAll (h : (tree.makeAll path).1 = .ok ()) : '\x00' ∉ path.toList := by
  intro hmem
  have hchecked : checked path = .error zeroInName := by
    rw [checked, if_pos (List.contains_iff_mem.mpr hmem)]
  have hmade : tree.makeDirectory path = .error zeroInName := by
    rw [makeDirectory_eq, hchecked]
  have hfind : tree.isDirectory path = false := by
    rw [isDirectory, find, locate, hchecked]
    rfl
  have hlacks : tree.lacksAbove path = false := by
    rw [lacksAbove, hmade]
    rfl
  have hne : path ≠ "" := by
    rintro rfl
    cases hmem
  rw [makeAll_of_lacksAbove hne hlacks, makePresent, hmade, hfind] at h
  cases h

theorem makeAll_of_makeDirectories {made : FileTree} (h : tree.makeDirectories path = .ok made) :
    tree.makeAll path = (.ok (), made) := by
  rw [makeDirectories] at h
  generalize tree.makeAll path = out at h
  obtain ⟨_ | _, tree⟩ := out
  · cases h
  · cases h
    rfl

/-- **A path with which all directories were made is a base.** -/
theorem makeDirectories_base {made : FileTree} (h : tree.makeDirectories path = .ok made) :
    ∃ dir, Base made path dir := by
  have hall := makeAll_of_makeDirectories h
  have hok : (tree.makeAll path).1 = .ok () := by rw [hall]
  obtain ⟨dir, henters⟩ := makeAll_entered hok
  rw [hall] at henters
  have hparts : Enters made maxLinks [] (Path.parts path) dir :=
    henters.same_steps (by rw [filter_leads_steps, filter_leads_parts])
  exact ⟨dir, base_of_enters hparts (noZero_of_makeAll hok)⟩

end DebugBridge.FileTree
