import DebugBridge.Files.Path
import DebugBridge.Proofs.Lines
import DebugBridge.Text.Utf8

/-!
# Paths below a directory

A path is below a directory if it goes on from there along plain names only. A name that is joined
to such a path stays below the directory, unless it leads out: it leads upwards somewhere, or it
starts at the root and so replaces what stands before it.

* `parts_join` — the names of a joined path
* `below_join` — what is joined stays below exactly if it does not lead out
* `joinRemote_grows` — when a path on a device is longer than that of its directory
-/

namespace DebugBridge.Path

/-! ## Names and steps -/

/-- The names that a path leads along. A name `.` leads nowhere. -/
def steps (path : String) : List String := (parts path).filter (· ≠ ".")

theorem parts_slash (front behind : List Char) :
    parts (.ofList (front ++ '/' :: behind)) =
      parts (.ofList front) ++ parts (.ofList behind) := by
  simp only [parts, String.toList_ofList, Text.fields_append, List.filter_append, List.map_append]

theorem parts_empty : parts "" = [] := rfl

/-- A text without slashes is one name, if it is not empty. -/
theorem parts_of_notMem {name : String} (hne : name ≠ "") (h : '/' ∉ name.toList) :
    parts name = [name] := by
  have hlist : name.toList ≠ [] := fun heq => hne (String.toList_eq_nil_iff.mp heq)
  rw [parts, Text.fields_of_notMem h, List.filter_cons_of_pos (by simpa using hlist)]
  simp

theorem mem_parts {path name : String} (h : name ∈ parts path) :
    name ≠ "" ∧ '/' ∉ name.toList := by
  obtain ⟨field, hfield, rfl⟩ := List.mem_map.mp h
  obtain ⟨hmem, hne⟩ := List.mem_filter.mp hfield
  refine ⟨?_, ?_⟩
  · rintro heq
    rw [String.ofList_eq_empty_iff.mp heq] at hne
    cases hne
  · rw [String.toList_ofList]
    exact Text.notMem_of_mem_fields hmem

/-- Names with slashes between them are taken apart again. -/
theorem parts_intercalate {names : List String} (h : ∀ name ∈ names, name ≠ "" ∧ '/' ∉ name.toList) :
    parts ("/".intercalate names) = names := by
  cases names with
  | nil => rfl
  | cons name rest =>
    have hslash : ∀ field ∈ (name :: rest).map String.toList, '/' ∉ field :=
      List.forall_mem_map.mpr fun name hname => (h name hname).2
    have hkept : ∀ field ∈ (name :: rest).map String.toList, (!field.isEmpty) = true :=
      List.forall_mem_map.mpr fun name hname => by simpa using (h name hname).1
    have hback : String.ofList ∘ String.toList = id := funext fun _ => String.ofList_toList
    have hfields := Text.fields_intercalate (by simp) hslash
    rw [parts, String.toList_intercalate]
    change (List.filter _ (Text.fields '/' (['/'].intercalate _))).map _ = _
    rw [hfields, List.filter_eq_self.mpr hkept, List.map_map, hback, List.map_id]

/-- Names with slashes between them do not start at the root. -/
theorem isAbsolute_intercalate {names : List String}
    (h : ∀ name ∈ names, name ≠ "" ∧ '/' ∉ name.toList) :
    isAbsolute ("/".intercalate names) = false := by
  cases names with
  | nil => rfl
  | cons name names =>
    obtain ⟨hne, hslash⟩ := h name List.mem_cons_self
    obtain ⟨c, cs, hcs⟩ := List.exists_cons_of_ne_nil (mt String.toList_eq_nil_iff.mp hne)
    have hc : c ≠ '/' := by
      rintro rfl
      exact hslash (hcs ▸ List.mem_cons_self)
    cases names <;> simp [isAbsolute, String.toList_intercalate, hcs, hc]

/-! ## Joining -/

/-- The names of a path on a device that was joined. -/
theorem parts_joinRemote (dir name : String) :
    parts (joinRemote dir name) = parts dir ++ parts name := by
  have hcut : ∀ front : List Char, parts (.ofList (front ++ '/' :: name.toList)) =
      parts (.ofList front) ++ parts name := by
    intro front
    rw [parts_slash, String.ofList_toList]
  rw [joinRemote]
  split
  · next hslash =>
    obtain ⟨front, hfront⟩ := List.getLast?_eq_some_iff.mp (of_decide_eq_true hslash)
    have hparts : parts dir = parts (.ofList front) := by
      rw [← String.ofList_toList (s := dir), hfront, parts_slash]
      exact List.append_nil _
    have hjoined : dir ++ name = .ofList (front ++ '/' :: name.toList) := by
      apply String.toList_injective
      rw [String.toList_append, hfront, String.toList_ofList, List.append_assoc,
        List.singleton_append]
    rw [hjoined, hcut, hparts]
  · have hjoined : dir ++ "/" ++ name = .ofList (dir.toList ++ '/' :: name.toList) := by
      apply String.toList_injective
      simp
    rw [hjoined, hcut, String.ofList_toList]

section Join

variable {name : String} (h : isAbsolute name = false)
include h

/-- A name is joined to a directory as on a device, but for the empty path. -/
theorem join_eq (dir : String) : join dir name = if dir = "" then name else joinRemote dir name := by
  by_cases hempty : dir = ""
  · rw [if_pos hempty, hempty, join, h, if_neg Bool.false_ne_true]
    exact String.empty_append
  · have hnot : dir.isEmpty = false := Bool.eq_false_iff.mpr (mt String.isEmpty_iff.mp hempty)
    rw [if_neg hempty, join, h, if_neg Bool.false_ne_true, hnot, Bool.false_or, joinRemote]

/-- **The names of a joined path.** -/
theorem parts_join (dir : String) : parts (join dir name) = parts dir ++ parts name := by
  rw [join_eq h]
  split
  · next hempty => rw [hempty, parts_empty, List.nil_append]
  · exact parts_joinRemote dir name

theorem isAbsolute_join (dir : String) : isAbsolute (join dir name) = isAbsolute dir := by
  by_cases hdir : dir = ""
  · subst hdir
    rw [join, h, if_neg Bool.false_ne_true]
    exact h
  · have hlist : dir.toList ≠ [] := fun heq => hdir (String.toList_eq_nil_iff.mp heq)
    obtain ⟨c, cs, hcs⟩ := List.exists_cons_of_ne_nil hlist
    rw [join, h, if_neg Bool.false_ne_true]
    split <;> simp [isAbsolute, hcs]

end Join

/-! ## Names below one another -/

/-- A text is one name: it is not empty, and it has no slash. -/
def IsName (name : String) : Prop := name ≠ "" ∧ '/' ∉ name.toList

instance (name : String) : Decidable (IsName name) :=
  inferInstanceAs (Decidable (name ≠ "" ∧ '/' ∉ name.toList))

theorem IsName.isAbsolute {name : String} (h : IsName name) : isAbsolute name = false := by
  have := isAbsolute_intercalate (List.forall_mem_singleton.mpr h)
  rwa [String.intercalate_singleton] at this

theorem IsName.not_endsInSlash {name : String} (h : IsName name) : endsInSlash name = false :=
  decide_eq_false fun hslash => h.2 (List.mem_of_getLast? hslash)

theorem endsInSlash_append (front : String) {name : String} (h : name ≠ "") :
    endsInSlash (front ++ name) = endsInSlash name := by
  have hne : name.toList ≠ [] := fun heq => h (String.toList_eq_nil_iff.mp heq)
  simp only [endsInSlash, String.toList_append, List.getLast?_append,
    List.getLast?_eq_some_getLast hne, Option.some_or]

theorem endsInSlash_join (dir : String) {name : String} (h : IsName name) :
    endsInSlash (join dir name) = false := by
  rw [join, h.isAbsolute, if_neg Bool.false_ne_true, ← h.not_endsInSlash]
  split
  · exact endsInSlash_append dir h.1
  · exact endsInSlash_append (dir ++ "/") h.1

section Names

variable {names : List String} (h : ∀ name ∈ names, IsName name)
include h

theorem parts_foldl_join (path : String) : parts (names.foldl join path) = parts path ++ names := by
  induction names generalizing path with
  | nil => exact (List.append_nil _).symm
  | cons name names ih =>
    obtain ⟨hname, hnames⟩ := List.forall_mem_cons.mp h
    rw [List.foldl_cons, ih hnames, parts_join hname.isAbsolute, parts_of_notMem hname.1 hname.2,
      List.append_assoc, List.singleton_append]

/-- **The names of a path that goes on along names**, none of which is its last slash. -/
theorem segments_foldl_join (hne : names ≠ []) (path : String) :
    segments (names.foldl join path) = parts path ++ names := by
  have hslash : endsInSlash (names.foldl join path) = false := by
    rw [← List.dropLast_append_getLast hne, List.foldl_append]
    exact endsInSlash_join _ (h _ (List.getLast_mem hne))
  rw [segments, hslash, if_neg Bool.false_ne_true, parts_foldl_join h]

end Names

theorem mem_toList_join {c : Char} {dir name : String} (h : c ∈ (join dir name).toList) :
    c ∈ dir.toList ∨ c = '/' ∨ c ∈ name.toList := by
  unfold join at h
  split at h
  · exact .inr (.inr h)
  · split at h
    · rw [String.toList_append, List.mem_append] at h
      exact h.imp_right .inr
    · simpa [or_assoc] using h

/-- The characters of a path that goes on along names are those of its parts, and slashes. -/
theorem mem_toList_foldl_join {c : Char} {path : String} {names : List String}
    (h : c ∈ (names.foldl join path).toList) :
    c ∈ path.toList ∨ c = '/' ∨ ∃ name ∈ names, c ∈ name.toList := by
  induction names generalizing path with
  | nil => exact .inl h
  | cons name names ih =>
    rcases ih h with hpath | hslash | ⟨other, hmem, hother⟩
    · rcases mem_toList_join hpath with hdir | hslash | hname
      · exact .inl hdir
      · exact .inr (.inl hslash)
      · exact .inr (.inr ⟨name, List.mem_cons_self, hname⟩)
    · exact .inr (.inl hslash)
    · exact .inr (.inr ⟨other, List.mem_cons_of_mem _ hmem, hother⟩)

/-! ## Below a directory -/

/-- `p` is the path itself or goes on from it along names of which none leads upwards. -/
def Below (path p : String) : Prop :=
  isAbsolute p = isAbsolute path ∧ ∃ names, ".." ∉ names ∧ steps p = steps path ++ names

/-- `p` is the path itself or a directory that it leads through. -/
def Above (path p : String) : Prop := isAbsolute p = isAbsolute path ∧ steps p <+: steps path

/-- A name that leads out of a path when it is joined to something below: it leads upwards
somewhere, or it starts at the root, elsewhere than below the path. -/
def LeadsOut (path name : String) : Prop :=
  if isAbsolute name then ¬ Below path name else ".." ∈ parts name

theorem below_self (path : String) : Below path path :=
  ⟨rfl, [], List.not_mem_nil, (List.append_nil _).symm⟩

theorem above_self (path : String) : Above path path := ⟨rfl, List.prefix_refl _⟩

/-- **What is joined stays below exactly if it does not lead out.** -/
theorem below_join {path dir : String} (h : Below path dir) (name : String) :
    Below path (join dir name) ↔ ¬ LeadsOut path name := by
  by_cases habs : isAbsolute name = true
  · rw [LeadsOut, if_pos habs, not_not, join, if_pos habs]
  · have hrel : isAbsolute name = false := Bool.eq_false_iff.mpr habs
    obtain ⟨hroot, names, hno, hsteps⟩ := h
    have hjoined : steps (join dir name) = steps path ++ (names ++ steps name) := by
      rw [steps, parts_join hrel, List.filter_append, ← steps, ← steps, hsteps, List.append_assoc]
    have hup : ".." ∈ steps name ↔ ".." ∈ parts name := by
      rw [steps, List.mem_filter]
      exact and_iff_left (by decide)
    rw [LeadsOut, if_neg habs, Below, isAbsolute_join hrel, hjoined, ← hup]
    constructor
    · rintro ⟨-, more, hmore, heq⟩ hmem
      rw [← List.append_cancel_left heq] at hmore
      exact hmore (List.mem_append_right _ hmem)
    · intro hname
      exact ⟨hroot, _, List.not_mem_append hno hname, rfl⟩

/-! ## Paths on a device -/

/-- What stands between a directory of a device and a name in it. -/
def slashBehind (dir : String) : String := if endsInSlash dir then "" else "/"

theorem joinRemote_eq (dir name : String) : joinRemote dir name = dir ++ slashBehind dir ++ name := by
  unfold joinRemote slashBehind
  split
  · rw [String.append_empty]
  · rfl

/-- The names of a path on a device that goes on along names. -/
theorem parts_foldl_joinRemote {names : List String} (h : ∀ name ∈ names, IsName name)
    (dir : String) : parts (names.foldl joinRemote dir) = parts dir ++ names := by
  induction names generalizing dir with
  | nil => exact (List.append_nil _).symm
  | cons name names ih =>
    obtain ⟨hname, hnames⟩ := List.forall_mem_cons.mp h
    rw [List.foldl_cons, ih hnames, parts_joinRemote, parts_of_notMem hname.1 hname.2,
      List.append_assoc, List.singleton_append]

/-- A name in a directory of a device is known from its path. -/
theorem joinRemote_inj {dir name name' : String} :
    joinRemote dir name = joinRemote dir name' ↔ name = name' := by
  rw [joinRemote_eq, joinRemote_eq]
  exact String.append_right_inj _

theorem size_joinRemote (dir name : String) :
    Utf8.size (joinRemote dir name) =
      Utf8.size dir + Utf8.size (slashBehind dir) + Utf8.size name := by
  rw [joinRemote_eq]
  simp only [Utf8.size, String.utf8ByteSize_append]

/-- **A path on a device grows with each name**, but for an empty one behind a slash. -/
theorem joinRemote_grows (dir name : String) :
    (joinRemote dir name = dir ∧ name = "" ∧ endsInSlash dir = true) ∨
      Utf8.size dir < Utf8.size (joinRemote dir name) := by
  have hsize := size_joinRemote dir name
  by_cases hname : name = ""
  · subst hname
    by_cases hslash : endsInSlash dir = true
    · refine .inl ⟨?_, rfl, hslash⟩
      rw [joinRemote, if_pos hslash, String.append_empty]
    · have hone : Utf8.size (slashBehind dir) = 1 := by
        rw [slashBehind, if_neg hslash]
        rfl
      exact .inr (by omega)
  · have hpos : 0 < Utf8.size name := Nat.pos_of_ne_zero fun h =>
      hname (String.utf8ByteSize_eq_zero_iff.mp h)
    exact .inr (by omega)

end DebugBridge.Path
