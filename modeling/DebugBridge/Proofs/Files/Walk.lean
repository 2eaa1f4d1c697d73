import DebugBridge.Files.Tree
import DebugBridge.Proofs.Files.Path

/-!
# Walks into directories

`Enters` says which directory a row of names leads to, links followed. It does not depend on the
names that lead nowhere, and it lasts: whatever is made in a tree, and whatever is put into its
files, what led to a directory still leads to it.

* `Enters.mono` — a walk into a directory lasts
* `Enters.same_steps` — names that lead nowhere do not matter
* `Enters.walk_append` — a walk goes on from the directory that names lead to
* `enters_of_walk` — a walk that came to a directory, or to a place where one is made, enters it
-/

namespace DebugBridge.FileTree

variable {tree tree' tree'' : FileTree}

/-! ## Trees that grow -/

/-- **A node that is put into a tree** stands at its place, and all others where they stood. -/
theorem get?_put {place : Place} (hne : place ≠ []) (tree : FileTree) (node : Node) (p : Place) :
    (tree.put place node).get? p = if p = place then some node else tree.get? p := by
  rw [get?, put, List.find?_append, List.find?_filter]
  by_cases hp : p = place
  · subst hp
    have hnone : (tree.nodes.find? fun entry =>
        decide (decide (entry.1 ≠ p) = true ∧ decide (entry.1 = p) = true)) = none := by
      simp
    rw [hnone, if_pos rfl, if_neg (by simpa using hne)]
    simp
  · have hsame : (fun entry : Place × Node =>
        decide (decide (entry.1 ≠ place) = true ∧ decide (entry.1 = p) = true)) =
        fun entry => decide (entry.1 = p) := by
      funext entry
      by_cases hentry : entry.1 = p
      · simp [hentry, hp]
      · simp [hentry]
    rw [hsame, if_neg hp, get?]
    simp [Ne.symm hp]

/-- The node is a file. -/
def IsFile (node : Node) : Prop := ∃ data mode modified, node = .file data mode modified

theorem not_isFile_directory : ¬ IsFile .directory := by
  rintro ⟨data, mode, modified, h⟩
  cases h

theorem not_isFile_link (target : String) : ¬ IsFile (.link target) := by
  rintro ⟨data, mode, modified, h⟩
  cases h

/-- The second tree has the directories and the links of the first one. -/
def Extends (tree tree' : FileTree) : Prop :=
  ∀ place node, tree.get? place = some node → ¬ IsFile node → tree'.get? place = some node

theorem Extends.refl (tree : FileTree) : Extends tree tree := fun _ _ h _ => h

theorem Extends.trans (h : Extends tree tree') (h' : Extends tree' tree'') :
    Extends tree tree'' :=
  fun place node hnode hkind => h' place node (h place node hnode hkind) hkind

/-- What is put at a free place, or in place of a file. -/
theorem extends_put {place : Place} (node : Node)
    (h : ∀ old, tree.get? place = some old → IsFile old) : Extends tree (tree.put place node) := by
  have hne : place ≠ [] := by
    rintro rfl
    obtain ⟨data, mode, modified, hfile⟩ := h .directory rfl
    cases hfile
  intro p old hold hkind
  rw [get?_put hne, if_neg, hold]
  rintro rfl
  exact hkind (h old hold)

/-- A path that can be looked up is what is looked up. -/
theorem checked_ok {path p : String} (h : checked path = .ok p) : p = path := by
  unfold checked at h
  split at h
  · cases h
  · split at h
    · cases h
    · split at h
      · cases h
      · exact (Except.ok.inj h).symm

/-- Only the empty path is refused as one at which nothing stands. -/
theorem checked_error {path : String} (hne : path ≠ "") {e : IoFailure}
    (h : checked path = .error e) : e.kind ≠ .notFound := by
  unfold checked at h
  split at h
  · cases h
    decide
  · split at h
    · next hempty => exact absurd (String.isEmpty_iff.mp hempty) hne
    · split at h
      · cases h
        decide
      · cases h

/-- A directory is made at a free place. -/
theorem makeDirectory_eq (tree : FileTree) (path : String) :
    tree.makeDirectory path = match checked path with
      | .error e => .error e
      | .ok _ => match tree.walk .name maxLinks [] (Path.parts path) with
        | .error e => .error e
        | .ok place => match tree.get? place with
          | some _ => .error alreadyThere
          | none =>
            if place.dropLast.isEmpty then .error denied else .ok (tree.put place .directory) := by
  rw [makeDirectory]
  cases hc : checked path with
  | error e => rfl
  | ok p =>
    obtain rfl := checked_ok hc
    show (tree.walk .name maxLinks [] (Path.parts p) >>= _) = _
    cases tree.walk .name maxLinks [] (Path.parts p) with
    | error e => rfl
    | ok place => rfl

theorem makeDirectory_ok {path : String} {made : FileTree} (h : tree.makeDirectory path = .ok made) :
    ∃ place, tree.walk .name maxLinks [] (Path.parts path) = .ok place ∧
      tree.get? place = none ∧ made = tree.put place .directory := by
  rw [makeDirectory_eq] at h
  split at h
  · cases h
  · split at h
    · cases h
    · next place hwalk =>
      split at h
      · cases h
      · next hfree =>
        split at h
        · cases h
        · exact ⟨place, hwalk, hfree, (Except.ok.inj h).symm⟩

/-- A path that leads to a directory is walked to it. -/
theorem isDirectory_ok {path : String} (h : tree.isDirectory path = true) :
    ∃ place, tree.walk .target maxLinks [] (Path.segments path) = .ok place ∧
      tree.get? place = some .directory := by
  rw [isDirectory] at h
  split at h
  · next hfind =>
    rw [find, locate] at hfind
    cases hc : checked path with
    | error e =>
      rw [hc] at hfind
      cases hfind
    | ok p =>
      obtain rfl := checked_ok hc
      rw [hc] at hfind
      simp only [bind, Except.bind] at hfind
      split at hfind
      · cases hfind
      · next place hwalk =>
        split at hfind
        · next hnode => exact ⟨place, hwalk, hnode.trans (congrArg some (Except.ok.inj hfind))⟩
        · cases hfind
  · cases h

theorem extends_makeDirectory {path : String} {made : FileTree}
    (h : tree.makeDirectory path = .ok made) : Extends tree made := by
  obtain ⟨place, -, hfree, rfl⟩ := makeDirectory_ok h
  exact extends_put .directory fun old hold => by rw [hfree] at hold; cases hold

theorem extends_create {path : String} {place : Place} {made : FileTree}
    (h : tree.create path = .ok (place, made)) : Extends tree made := by
  rw [create] at h
  simp only [bind, Except.bind] at h
  split at h
  · cases h
  · split at h
    · next hfile =>
      split at h
      · cases h
      · split at h
        · cases h
        · cases h
          refine extends_put _ fun old hold => ?_
          rw [hfile] at hold
          cases hold
          exact ⟨_, _, _, rfl⟩
    · cases h
    · next hfree =>
      split at h
      · cases h
      · cases h
        exact extends_put _ fun old hold => by rw [hfree] at hold; cases hold

theorem extends_store (place : Place) (data : Bytes) : Extends tree (tree.store place data) := by
  rw [store]
  split
  · next old mode modified hfile =>
    refine extends_put _ fun node hnode => ?_
    rw [hfile] at hnode
    cases hnode
    exact ⟨_, _, _, rfl⟩
  · exact .refl tree

/-! ## Walks by name -/

/-- A name that leads somewhere. -/
def Plain (name : String) : Prop :=
  name ≠ "." ∧ name ≠ "" ∧ name ≠ ".." ∧ Utf8.size name ≤ maxName

/-- How a walk goes on where a link leads. -/
def follow (tree : FileTree) (purpose : Purpose) : (links : Nat) → Place → List String →
    Except IoFailure Place
  | 0, _, _ => .error tooManyLinks
  | links + 1, dir, names => tree.walk purpose links dir names

theorem walk_eq (tree : FileTree) (purpose : Purpose) (links : Nat) :
    tree.walk purpose links = tree.walkNames purpose (tree.follow purpose links) := by
  cases links with
  | zero => rfl
  | succ links => rfl

section Walk

variable {purpose : Purpose} {links : Nat} {dir : Place} {name : String} {rest : List String}

theorem walk_skip (h : name = "." ∨ name = "") :
    tree.walk purpose links dir (name :: rest) = tree.walk purpose links dir rest := by
  rw [walk_eq, walkNames, if_pos]
  simpa using h

theorem walk_up :
    tree.walk purpose links dir (".." :: rest) = tree.walk purpose links dir.dropLast rest := by
  rw [walk_eq, walkNames, if_neg (by decide), if_pos rfl]

theorem walk_plain (h : Plain name) (hlast : purpose = .creation → rest ≠ [""]) :
    tree.walk purpose links dir (name :: rest) = match tree.get? (dir ++ [name]) with
      | none => if rest.isEmpty then .ok (dir ++ [name]) else .error notFound
      | some (.file ..) => if rest.isEmpty then .ok (dir ++ [name]) else .error notDirectory
      | some .directory => tree.walk purpose links (dir ++ [name]) rest
      | some (.link target) =>
        if rest.isEmpty && purpose = .name then .ok (dir ++ [name])
        else tree.follow purpose links (if Path.isAbsolute target then [] else dir)
          (Path.segments target ++ rest) := by
  obtain ⟨hdot, hempty, hup, hsize⟩ := h
  have hmade : ¬ (decide (purpose = .creation) && decide (rest = [""])) = true := by
    simpa using hlast
  rewrite [walk_eq, walkNames, if_neg (by simp [hdot, hempty]), if_neg hup, if_neg hmade,
    if_neg (Nat.not_lt.mpr hsize)]
  rfl

theorem walk_nil : tree.walk purpose links dir [] = .ok dir := by
  rw [walk_eq, walkNames]

end Walk

/-- All names before the last lead along directories. -/
def Leads (tree : FileTree) (dir : Place) (names : List String) : Prop :=
  ∀ front, front <+: names → front ≠ names → tree.get? (dir ++ front) = some .directory

theorem leads_cons {dir : Place} {name : String} {names : List String} :
    tree.Leads dir (name :: names) ↔
      tree.get? dir = some .directory ∧ tree.Leads (dir ++ [name]) names := by
  constructor
  · intro h
    refine ⟨?_, fun front hfront hne => ?_⟩
    · rw [← List.append_nil dir]
      exact h [] List.nil_prefix (List.cons_ne_nil _ _).symm
    · rw [List.append_assoc, List.singleton_append]
      exact h _ (List.cons_prefix_cons.mpr ⟨rfl, hfront⟩) (by simpa using hne)
  · rintro ⟨hdir, h⟩ front hfront hne
    cases front with
    | nil => rwa [List.append_nil]
    | cons name' front =>
      obtain ⟨rfl, hbelow⟩ := List.cons_prefix_cons.mp hfront
      rw [List.append_cons]
      exact h front hbelow (by simpa using hne)

/-- **A walk along directories comes to the place of the last name**, whatever stands there, if that
is no link. -/
theorem walk_leads {purpose : Purpose} {links : Nat} {dir : Place} {names : List String}
    (hnames : ∀ name ∈ names, Plain name) (h : tree.Leads dir names)
    (hend : ∀ target, tree.get? (dir ++ names) ≠ some (.link target)) :
    tree.walk purpose links dir names = .ok (dir ++ names) := by
  induction names generalizing dir with
  | nil => rw [walk_nil, List.append_nil]
  | cons name names ih =>
    obtain ⟨hname, hrest⟩ := List.forall_mem_cons.mp hnames
    obtain ⟨-, hbelow⟩ := leads_cons.mp h
    have hplain : purpose = .creation → names ≠ [""] := by
      rintro - rfl
      exact (hrest "" List.mem_cons_self).2.1 rfl
    rw [walk_plain hname hplain]
    cases names with
    | nil =>
      cases hnode : tree.get? (dir ++ [name]) with
      | none => rfl
      | some node =>
        cases node with
        | file data mode modified => rfl
        | directory => exact walk_nil
        | link target => exact absurd hnode (hend target)
    | cons next names =>
      have hnode : tree.get? (dir ++ [name]) = some .directory := (leads_cons.mp hbelow).1
      rw [hnode]
      rw [List.append_cons dir name (next :: names)] at hend ⊢
      exact ih hrest hbelow hend

/-- A row of names leads from a directory to a directory, and at most `links` links are followed. -/
inductive Enters (tree : FileTree) : (links : Nat) → Place → List String → Place → Prop
  | here {links : Nat} {dir : Place} : tree.get? dir = some .directory → Enters tree links dir [] dir
  | skip {links : Nat} {dir place : Place} {name : String} {rest : List String} :
      name = "." ∨ name = "" → Enters tree links dir rest place →
      Enters tree links dir (name :: rest) place
  | up {links : Nat} {dir place : Place} {rest : List String} :
      Enters tree links dir.dropLast rest place → Enters tree links dir (".." :: rest) place
  | down {links : Nat} {dir place : Place} {name : String} {rest : List String} :
      Plain name → tree.get? (dir ++ [name]) = some .directory →
      Enters tree links (dir ++ [name]) rest place → Enters tree links dir (name :: rest) place
  | link {links : Nat} {dir place : Place} {name target : String} {rest : List String} :
      Plain name → tree.get? (dir ++ [name]) = some (.link target) →
      Enters tree links (if Path.isAbsolute target then [] else dir) (Path.segments target ++ rest)
        place →
      Enters tree (links + 1) dir (name :: rest) place

namespace Enters

variable {links : Nat} {dir place : Place} {names : List String}

/-- **A walk into a directory lasts.** -/
theorem mono (h : Enters tree links dir names place) (hext : Extends tree tree') :
    Enters tree' links dir names place := by
  induction h with
  | here hdir => exact .here (hext _ _ hdir not_isFile_directory)
  | skip hname _ ih => exact .skip hname ih
  | up _ ih => exact .up ih
  | down hname hnode _ ih => exact .down hname (hext _ _ hnode not_isFile_directory) ih
  | link hname hnode _ ih => exact .link hname (hext _ _ hnode (not_isFile_link _)) ih

/-- Whether a name leads somewhere or upwards. -/
def leads (name : String) : Bool := name ≠ "." && name ≠ ""

theorem skips {front : List String} (hfront : ∀ name ∈ front, ¬ leads name = true)
    (h : Enters tree links dir names place) : Enters tree links dir (front ++ names) place := by
  induction front with
  | nil => exact h
  | cons name front ih =>
    obtain ⟨hname, hfront⟩ := List.forall_mem_cons.mp hfront
    refine .skip ?_ (ih hfront)
    simpa [leads, or_iff_not_imp_left] using hname

/-- **Names that lead nowhere do not matter.** -/
theorem same_steps (h : Enters tree links dir names place) {names' : List String}
    (hsame : names.filter leads = names'.filter leads) : Enters tree links dir names' place := by
  have hplain : ∀ name, Plain name → leads name = true := fun name h => by simp [leads, h.1, h.2.1]
  induction h generalizing names' with
  | here hdir =>
    have hnone := List.filter_eq_nil_iff.mp hsame.symm
    rw [← List.append_nil names']
    exact skips hnone (.here hdir)
  | @skip links dir place name rest hname _ ih =>
    refine ih (Eq.trans ?_ hsame)
    rw [List.filter_cons_of_neg]
    rcases hname with rfl | rfl <;> decide
  | up _ ih =>
    rw [List.filter_cons_of_pos (by decide)] at hsame
    obtain ⟨front, rest', rfl, hfront, -, hrest⟩ := List.filter_eq_cons_iff.mp hsame.symm
    exact skips hfront (.up (ih hrest.symm))
  | down hname hnode _ ih =>
    rw [List.filter_cons_of_pos (hplain _ hname)] at hsame
    obtain ⟨front, rest', rfl, hfront, -, hrest⟩ := List.filter_eq_cons_iff.mp hsame.symm
    exact skips hfront (.down hname hnode (ih hrest.symm))
  | link hname hnode _ ih =>
    rw [List.filter_cons_of_pos (hplain _ hname)] at hsame
    obtain ⟨front, rest', rfl, hfront, -, hrest⟩ := List.filter_eq_cons_iff.mp hsame.symm
    refine skips hfront (.link hname hnode (ih ?_))
    rw [List.filter_append, List.filter_append, hrest]

/-- **What names lead to is there.** A walk for what they name ends at it, or at a link to it. -/
theorem walk_name (h : Enters tree links dir names place) :
    ∃ place' node, tree.walk .name links dir names = .ok place' ∧
      tree.get? place' = some node ∧ ¬ IsFile node := by
  have hpurpose : ∀ rest, Purpose.name = .creation → rest ≠ [""] := nofun
  induction h with
  | @here links dir hdir =>
    refine ⟨dir, .directory, ?_, hdir, not_isFile_directory⟩
    cases links with
    | zero => rfl
    | succ links => rfl
  | skip hname _ ih =>
    rw [walk_skip hname]
    exact ih
  | up _ ih =>
    rw [walk_up]
    exact ih
  | down hname hnode _ ih =>
    rw [walk_plain hname (hpurpose _), hnode]
    exact ih
  | @link links dir place name target rest hname hnode _ ih =>
    rw [walk_plain hname (hpurpose _), hnode]
    simp only
    split
    · exact ⟨_, _, rfl, hnode, not_isFile_link target⟩
    · exact ih

/-- **A walk goes on from the directory that names lead to**, with the links that are left. -/
theorem walk_append (h : Enters tree links dir names place) (purpose : Purpose) {rest : List String}
    (hne : rest ≠ []) (hlast : purpose = .creation → rest ≠ [""]) :
    ∃ fewer, tree.walk purpose links dir (names ++ rest) = tree.walk purpose fewer place rest := by
  have hcreation : ∀ names : List String, purpose = .creation → names ++ rest ≠ [""] := by
    intro names hpurpose heq
    cases names with
    | nil => exact hlast hpurpose heq
    | cons name names => exact hne (List.append_eq_nil_iff.mp (List.cons.inj heq).2).2
  induction h with
  | @here links dir _ => exact ⟨links, rfl⟩
  | skip hname _ ih =>
    rw [List.cons_append, walk_skip hname]
    exact ih
  | up _ ih =>
    rw [List.cons_append, walk_up]
    exact ih
  | down hname hnode _ ih =>
    rw [List.cons_append, walk_plain hname (hcreation _), hnode]
    exact ih
  | @link links dir place name target names hname hnode _ ih =>
    have hnotLast : ¬ ((names ++ rest).isEmpty && decide (purpose = .name)) = true := by
      simp [hne]
    rw [List.cons_append, walk_plain hname (hcreation _), hnode]
    simp only
    rw [if_neg hnotLast, ← List.append_assoc]
    exact ih

end Enters

/-! ## Walks that come to a directory -/

section Arrival

variable {purpose : Purpose} {links : Nat} {place : Place} (hext : Extends tree tree')
  (hfree : tree.get? place = none ∨ tree.get? place = some .directory)
  (hdir : tree'.get? place = some .directory)
include hext hfree hdir

theorem enters_of_walkNames {follow : Place → List String → Except IoFailure Place}
    (hfollow : ∀ dir names, follow dir names = .ok place →
      ∃ fewer, links = fewer + 1 ∧ Enters tree' fewer dir names place)
    {dir : Place} {names : List String}
    (h : tree.walkNames purpose follow dir names = .ok place) :
    Enters tree' links dir names place := by
  have hkind : ∀ node, tree.get? place = some node → node = .directory := by
    intro node hnode
    rcases hfree with hfree | hfree
    · cases hfree.symm.trans hnode
    · exact Option.some.inj (hnode.symm.trans hfree)
  induction names generalizing dir with
  | nil =>
    cases h
    exact .here hdir
  | cons name rest ih =>
    rw [walkNames] at h
    split at h
    · next hskip => exact .skip (by simpa using hskip) (ih h)
    next hplain =>
    split at h
    · next hup =>
      subst hup
      exact .up (ih h)
    next hup =>
    split at h
    · cases h
    split at h
    · cases h
    next hsize =>
    have hname : Plain name := by
      simp only [Bool.or_eq_true, decide_eq_true_eq, String.isEmpty_iff, not_or] at hplain
      exact ⟨hplain.1, hplain.2, hup, Nat.le_of_not_lt hsize⟩
    simp only at h
    split at h
    · split at h
      · next hrest =>
        -- the walk came to a free place, at which the larger tree has the directory
        obtain rfl := List.isEmpty_iff.mp hrest
        cases h
        exact .down hname hdir (.here hdir)
      · cases h
    · next hnode =>
      split at h
      · cases h
        cases hkind _ hnode
      · cases h
    · next hnode => exact .down hname (hext _ _ hnode not_isFile_directory) (ih h)
    · next target hnode =>
      split at h
      · cases h
        cases hkind _ hnode
      · obtain ⟨fewer, rfl, henters⟩ := hfollow _ _ h
        exact .link hname (hext _ _ hnode (not_isFile_link target)) henters

/-- **A walk that came to a directory enters it**, also one that came to a free place at which there
is a directory in a larger tree. -/
theorem enters_of_walk {dir : Place} {names : List String}
    (h : tree.walk purpose links dir names = .ok place) : Enters tree' links dir names place := by
  induction links generalizing dir names with
  | zero =>
    rw [walk_eq] at h
    refine enters_of_walkNames hext hfree hdir (fun dir names h => ?_) h
    cases h
  | succ links ih =>
    rw [walk_eq] at h
    exact enters_of_walkNames hext hfree hdir (fun dir names h => ⟨links, rfl, ih h⟩) h

end Arrival

end DebugBridge.FileTree
