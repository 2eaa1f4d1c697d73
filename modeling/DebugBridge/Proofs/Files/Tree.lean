import DebugBridge.Proofs.Files.Walk

/-!
# What is made in a file tree

`Made` follows the directories and files that come up in a tree one by one, each with the path by
which it was made. A directory that is made with all that is missing above it makes nothing but
itself and directories that its path leads through, and of these none that was there.

* `Made.trans`, `Made.mono` — rows of changes
* `makeAll_made` — making a directory and those above it
* `makeAll_entered` — then the path leads to a directory, and so it stays
* `makeAll_below` — below a directory that is there nothing above it is made
-/

namespace DebugBridge.FileTree

open DebugBridge.Path (Above Below steps)

/-- The second tree comes from the first by making directories at some paths, and by making or
emptying files at others and putting data into them. -/
inductive Made (directories files : String → Prop) : FileTree → FileTree → Prop
  | refl (tree : FileTree) : Made directories files tree tree
  | directory {tree tree' made : FileTree} {path : String} : Made directories files tree tree' →
      directories path → tree'.makeDirectory path = .ok made → Made directories files tree made
  | file {tree tree' made : FileTree} {path : String} {place : Place} (data : Bytes) :
      Made directories files tree tree' → files path → tree'.create path = .ok (place, made) →
      Made directories files tree (made.store place data)

section Made

variable {directories directories' files files' : String → Prop} {tree tree' tree'' : FileTree}

theorem Made.trans (h : Made directories files tree tree')
    (h' : Made directories files tree' tree'') : Made directories files tree tree'' := by
  induction h' with
  | refl => exact h
  | directory _ hp hmade ih => exact ih.directory hp hmade
  | file data _ hp hmade ih => exact ih.file data hp hmade

theorem Made.mono (h : Made directories files tree tree')
    (hdirectories : ∀ p, directories p → directories' p) (hfiles : ∀ p, files p → files' p) :
    Made directories' files' tree tree' := by
  induction h with
  | refl => exact .refl _
  | directory _ hp hmade ih => exact ih.directory (hdirectories _ hp) hmade
  | file data _ hp hmade ih => exact ih.file data (hfiles _ hp) hmade

/-! ## Directories with all above them -/

theorem makePresent_made {path : String} (h : directories path) (tree : FileTree) :
    Made directories files tree (tree.makePresent path).2 := by
  unfold makePresent
  split
  · next made hmade => exact (Made.refl tree).directory h hmade
  · exact .refl tree

/-- If something is missing above a path, what is made for that comes first. -/
theorem makeBelow_cons {p above : String} (hp : directories p) {absolute : Bool}
    {names : List String}
    (h : tree.lacksAbove p = true → Made directories files tree
      (tree.makeBelow absolute (pathOf absolute (above :: names)) names).2) :
    Made directories files tree (tree.makeBelow absolute p (above :: names)).2 := by
  rw [makeBelow]
  split
  · next hlacks =>
    have hmade := h hlacks
    split
    · next made hmore =>
      rw [hmore] at hmade
      exact hmade.trans (makePresent_made hp made)
    · next made hmore =>
      rw [hmore] at hmade
      exact hmade
  · exact makePresent_made hp tree

end Made

section PathOf

variable {path : String} {names : List String} (h : ∀ name ∈ names, name ∈ steps path)
include h

theorem names_of_steps : ∀ name ∈ names.reverse, name ≠ "" ∧ '/' ∉ name.toList := fun name hname =>
  Path.mem_parts (List.mem_of_mem_filter (h name (List.mem_reverse.mp hname)))

theorem steps_pathOf (absolute : Bool) : steps (pathOf absolute names) = names.reverse := by
  have hdots : names.reverse.filter (· ≠ ".") = names.reverse :=
    List.filter_eq_self.mpr fun name hname =>
      (List.mem_filter.mp (h name (List.mem_reverse.mp hname))).2
  have hparts := Path.parts_intercalate (names_of_steps h)
  cases absolute with
  | true =>
    have hroot : pathOf true names =
        .ofList ([] ++ '/' :: ("/".intercalate names.reverse).toList) := by
      apply String.toList_injective
      simp [pathOf]
    rw [hroot, steps, Path.parts_slash, String.ofList_toList, hparts]
    exact hdots
  | false =>
    have hroot : pathOf false names = "/".intercalate names.reverse := by simp [pathOf]
    rw [hroot, steps, hparts, hdots]

theorem isAbsolute_pathOf (absolute : Bool) :
    Path.isAbsolute (pathOf absolute names) = absolute := by
  cases absolute with
  | true => simp [pathOf, Path.isAbsolute]
  | false =>
    have hroot : pathOf false names = "/".intercalate names.reverse := by simp [pathOf]
    rw [hroot, Path.isAbsolute_intercalate (names_of_steps h)]

end PathOf

/-- The directories along the names above a path, and the path itself. -/
theorem makeBelow_made {path p : String} (hp : Above path p) {names : List String}
    (h : names.reverse <+: steps path) (tree : FileTree) :
    Made (Above path) (fun _ => False) tree
      (tree.makeBelow (Path.isAbsolute path) p names).2 := by
  induction names generalizing p with
  | nil => exact makePresent_made hp tree
  | cons above names ih =>
    have hless : names.reverse <+: steps path :=
      (List.prefix_append _ _).trans (List.reverse_cons ▸ h)
    have hsteps : ∀ name ∈ above :: names, name ∈ steps path := fun name hname =>
      h.subset (List.mem_reverse.mpr hname)
    have habove : Above path (pathOf (Path.isAbsolute path) (above :: names)) :=
      ⟨isAbsolute_pathOf hsteps _, (steps_pathOf hsteps _) ▸ h⟩
    exact makeBelow_cons hp fun _ => ih habove hless

/-- **Making a directory and those above it** makes nothing else. -/
theorem makeAll_made (tree : FileTree) (path : String) :
    Made (Above path) (fun _ => False) tree (tree.makeAll path).2 := by
  rw [makeAll]
  split
  · exact .refl tree
  · refine makeBelow_made (Path.above_self path) ?_ tree
    rw [List.reverse_reverse]
    exact List.dropLast_prefix _

/-! ## Paths that lead to a directory -/

/-- The path leads to a directory. -/
def Entered (tree : FileTree) (path : String) : Prop :=
  ∃ place, Enters tree maxLinks [] (steps path) place

theorem filter_leads_parts (path : String) : (Path.parts path).filter Enters.leads = steps path := by
  refine List.filter_congr fun name hname => ?_
  simp [Enters.leads, (Path.mem_parts hname).1]

theorem filter_leads_segments (path : String) :
    (Path.segments path).filter Enters.leads = steps path := by
  rw [Path.segments]
  split
  · rw [List.filter_append, filter_leads_parts]
    exact List.append_nil _
  · exact filter_leads_parts path

theorem filter_leads_steps (path : String) : (steps path).filter Enters.leads = steps path := by
  rw [← filter_leads_parts, List.filter_filter]
  simp

theorem Entered.mono {tree tree' : FileTree} {path : String} (h : Entered tree path)
    (hext : Extends tree tree') : Entered tree' path := by
  obtain ⟨place, henters⟩ := h
  exact ⟨place, henters.mono hext⟩

/-- **What is made is added to the tree.** -/
theorem Made.grows {directories files : String → Prop} {tree tree' : FileTree}
    (h : Made directories files tree tree') : Extends tree tree' := by
  induction h with
  | refl => exact .refl _
  | directory _ _ hmade ih => exact ih.trans (extends_makeDirectory hmade)
  | file data _ _ hmade ih => exact ih.trans ((extends_create hmade).trans (extends_store _ data))

/-- **A directory that was made or found** is what its path leads to. -/
theorem makePresent_entered {tree : FileTree} {path : String}
    (h : (tree.makePresent path).1 = .ok ()) : Entered (tree.makePresent path).2 path := by
  unfold makePresent at h ⊢
  split at h
  · next made hmade =>
    obtain ⟨place, hwalk, hfree, rfl⟩ := makeDirectory_ok hmade
    have hne : place ≠ [] := by
      rintro rfl
      cases hfree
    have hdir : (tree.put place .directory).get? place = some .directory := by
      rw [get?_put hne, if_pos rfl]
    have henters := enters_of_walk (extends_makeDirectory hmade) (.inl hfree) hdir hwalk
    exact ⟨place, henters.same_steps (by rw [filter_leads_parts, filter_leads_steps])⟩
  · split at h
    · next hfound =>
      obtain ⟨place, hwalk, hdir⟩ := isDirectory_ok hfound
      have henters := enters_of_walk (.refl tree) (.inr hdir) hdir hwalk
      exact ⟨place, henters.same_steps (by rw [filter_leads_segments, filter_leads_steps])⟩
    · cases h

theorem makeBelow_entered {tree : FileTree} {absolute : Bool} {path : String} {names : List String}
    (h : (tree.makeBelow absolute path names).1 = .ok ()) :
    Entered (tree.makeBelow absolute path names).2 path := by
  cases names with
  | nil => exact makePresent_entered h
  | cons above names =>
    rw [makeBelow] at h ⊢
    split
    · next hlacks =>
      rw [if_pos hlacks] at h
      split at h
      · next made hmore => exact makePresent_entered h
      · cases h
    · next hlacks =>
      rw [if_neg hlacks] at h
      exact makePresent_entered h

/-- **A path with which all directories were made leads to a directory.** -/
theorem makeAll_entered {tree : FileTree} {path : String} (h : (tree.makeAll path).1 = .ok ()) :
    Entered (tree.makeAll path).2 path := by
  rw [makeAll] at h ⊢
  split at h
  · next hempty =>
    rw [if_pos hempty, String.isEmpty_iff.mp hempty]
    exact ⟨[], .here rfl⟩
  · next hempty =>
    rw [if_neg hempty]
    exact makeBelow_entered h

/-! ## Directories below one that is there -/

/-- Above a path that leads to a directory nothing is missing. -/
theorem lacksAbove_of_entered {tree : FileTree} {path p : String} (h : Entered tree path)
    (hp : steps p = steps path) (hne : p ≠ "") : tree.lacksAbove p = false := by
  obtain ⟨place, henters⟩ := h
  have hparts : Enters tree maxLinks [] (Path.parts p) place :=
    henters.same_steps (by rw [filter_leads_steps, filter_leads_parts, hp])
  obtain ⟨place', node, hwalk, hnode, -⟩ := hparts.walk_name
  rw [lacksAbove, makeDirectory_eq, hwalk]
  simp only [hnode]
  cases hc : checked p with
  | ok p => rfl
  | error e => exact decide_eq_false (checked_error hne hc)

theorem makeBelow_below {tree : FileTree} {path p : String} (hthere : Entered tree path)
    (hp : Below path p) (hne : p ≠ "") {names : List String}
    (h : names.reverse = (steps p).dropLast) :
    Made (Below path) (fun _ => False) tree
      (tree.makeBelow (Path.isAbsolute path) p names).2 := by
  induction names generalizing p with
  | nil => exact makePresent_made hp tree
  | cons above names ih =>
    have hsteps : ∀ name ∈ above :: names, name ∈ steps p := fun name hname =>
      (List.dropLast_prefix _).subset (h ▸ List.mem_reverse.mpr hname)
    have hless : steps (pathOf (Path.isAbsolute path) (above :: names)) = (steps p).dropLast :=
      (steps_pathOf hsteps _).trans h
    refine makeBelow_cons hp fun hlacks => ih ?_ ?_ ?_
    · -- something is missing above `p`, so `p` is not the directory itself
      obtain ⟨-, more, hno, hmore⟩ := hp
      have hsome : more ≠ [] := by
        rintro rfl
        rw [List.append_nil] at hmore
        rw [lacksAbove_of_entered hthere hmore hne] at hlacks
        cases hlacks
      refine ⟨isAbsolute_pathOf hsteps _, more.dropLast, fun hup => ?_, ?_⟩
      · exact hno ((List.dropLast_prefix _).subset hup)
      · rw [hless, hmore, List.dropLast_append_of_ne_nil hsome]
    · intro hempty
      rw [hempty, ← h, List.reverse_cons] at hless
      exact List.append_ne_nil_of_right_ne_nil _ (List.cons_ne_nil _ _) hless.symm
    · rw [hless, ← h, List.reverse_cons, List.dropLast_concat]

/-- **Below a directory that is there**, nothing above it is made. -/
theorem makeAll_below {tree : FileTree} {path p : String} (hthere : Entered tree path)
    (hp : Below path p) : Made (Below path) (fun _ => False) tree (tree.makeAll p).2 := by
  rw [makeAll]
  split
  · exact .refl tree
  · next hne =>
    rw [hp.1]
    refine makeBelow_below hthere hp (fun hempty => hne (String.isEmpty_iff.mpr hempty)) ?_
    rw [List.reverse_reverse]
    rfl

end DebugBridge.FileTree
