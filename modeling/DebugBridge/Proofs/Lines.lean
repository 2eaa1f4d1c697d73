import DebugBridge.Text.Blank
import Mathlib.Data.List.Basic

/-!
# Fields and lines of a text

What is cut out of a text stood in it, and what holds no separator is cut nowhere: a run without
line ends occurs in a text exactly if it occurs in one of its lines.

* `fields_append`, `fields_intercalate`, `lines_append` — a text is cut at each of its separators
* `infix_append_cons_iff` — what holds no `c` occurs in front of a `c` or behind it
* `exists_field_iff`, `exists_line_iff` — and so it occurs in a field, or in a line
* `linewise_append` — a text whose lines are changed is changed on both sides of a line feed
-/

namespace DebugBridge.Text

/-! ## Searching -/

/-- Searching finds what occurs. -/
theorem occursIn_iff {needle cs : List Char} : occursIn needle cs = true ↔ needle <:+: cs := by
  induction cs with
  | nil => rw [occursIn, List.isEmpty_iff, List.infix_nil]
  | cons c cs ih =>
    rw [occursIn, Bool.or_eq_true, ih, List.isPrefixOf_iff_prefix, List.infix_cons_iff]

section Infix

variable {α : Type} {c : α} {run : List α}

theorem eq_nil_of_prefix_cons (hc : c ∉ run) {behind : List α} (h : run <+: c :: behind) :
    run = [] := by
  cases run with
  | nil => rfl
  | cons first rest =>
    obtain ⟨rfl, -⟩ := List.cons_prefix_cons.mp h
    exact absurd List.mem_cons_self hc

/-- **What holds no `c` occurs in front of a `c` or behind it.** -/
theorem infix_append_cons_iff (hc : c ∉ run) {front behind : List α} :
    run <:+: front ++ c :: behind ↔ run <:+: front ∨ run <:+: behind := by
  constructor
  · intro h
    rcases List.infix_append_iff.mp h with h | h | ⟨start, rest, rfl, hstart, hrest⟩
    · exact .inl h
    · rcases List.infix_cons_iff.mp h with h | h
      · rw [eq_nil_of_prefix_cons hc h]
        exact .inl List.nil_infix
      · exact .inr h
    · -- the part behind the cut is empty, since it would start with `c`
      obtain rfl := eq_nil_of_prefix_cons (fun hmem => hc (List.mem_append_right _ hmem)) hrest
      rw [List.append_nil]
      exact .inl hstart.isInfix
  · rintro (h | h)
    · exact h.trans (List.prefix_append _ _).isInfix
    · exact h.trans ((List.suffix_cons _ _).isInfix.trans (List.suffix_append _ _).isInfix)

/-- What starts with a `c` occurs behind a front without `c`. -/
theorem infix_append_of_notMem {front behind : List α} (h : c ∉ front) :
    c :: run <:+: front ++ behind ↔ c :: run <:+: behind := by
  induction front with
  | nil => rfl
  | cons first front ih =>
    obtain ⟨hfirst, hfront⟩ := not_or.mp (mt List.mem_cons.mpr h)
    rw [List.cons_append, List.infix_cons_iff, ih hfront, List.cons_prefix_cons]
    exact or_iff_right fun h => hfirst h.1

end Infix

/-! ## Fields -/

variable {sep : Char}

theorem fields_ne_nil (sep : Char) (cs : List Char) : fields sep cs ≠ [] := by
  cases cs with
  | nil => exact List.cons_ne_nil _ _
  | cons c cs =>
    show consField sep c (fields sep cs) ≠ []
    unfold consField
    split <;> split <;> exact List.cons_ne_nil _ _

/-- **A text is cut at a separator.** -/
theorem fields_append (front behind : List Char) :
    fields sep (front ++ sep :: behind) = fields sep front ++ fields sep behind := by
  induction front with
  | nil =>
    show consField sep sep (fields sep behind) = [] :: fields sep behind
    obtain ⟨field, more, hfields⟩ := List.exists_cons_of_ne_nil (fields_ne_nil sep behind)
    rw [hfields, consField, if_pos rfl]
  | cons c front ih =>
    show consField sep c (fields sep (front ++ sep :: behind)) =
      consField sep c (fields sep front) ++ fields sep behind
    obtain ⟨field, more, hfields⟩ := List.exists_cons_of_ne_nil (fields_ne_nil sep front)
    rw [ih, hfields, List.cons_append, consField, consField]
    split
    · rfl
    · rfl

theorem fields_of_notMem {cs : List Char} (h : sep ∉ cs) : fields sep cs = [cs] := by
  induction cs with
  | nil => rfl
  | cons c cs ih =>
    obtain ⟨hc, hcs⟩ := not_or.mp (mt List.mem_cons.mpr h)
    show consField sep c (fields sep cs) = _
    rw [ih hcs, consField, if_neg (Ne.symm hc)]

/-- **Fields with separators between them are cut apart again.** -/
theorem fields_intercalate {parts : List (List Char)} (hne : parts ≠ [])
    (h : ∀ part ∈ parts, sep ∉ part) : fields sep ([sep].intercalate parts) = parts := by
  induction parts with
  | nil => exact absurd rfl hne
  | cons part parts ih =>
    obtain ⟨hpart, hparts⟩ := List.forall_mem_cons.mp h
    cases parts with
    | nil => rw [List.intercalate_singleton, fields_of_notMem hpart]
    | cons next parts =>
      rw [List.intercalate_cons_cons, List.append_assoc, List.singleton_append, fields_append,
        fields_of_notMem hpart, ih (List.cons_ne_nil _ _) hparts, List.singleton_append]

/-- A field holds no separator. -/
theorem notMem_of_mem_fields {cs field : List Char} (h : field ∈ fields sep cs) : sep ∉ field := by
  induction cs generalizing field with
  | nil =>
    rw [List.mem_singleton.mp h]
    exact List.not_mem_nil
  | cons c cs ih =>
    change field ∈ consField sep c (fields sep cs) at h
    obtain ⟨first, more, hfields⟩ := List.exists_cons_of_ne_nil (fields_ne_nil sep cs)
    rw [hfields] at h ih
    rw [consField] at h
    split at h
    · rcases List.mem_cons.mp h with rfl | h
      · exact List.not_mem_nil
      · exact ih h
    · next hc =>
      rcases List.mem_cons.mp h with rfl | h
      · exact List.not_mem_cons_of_ne_of_not_mem (Ne.symm hc) (ih List.mem_cons_self)
      · exact ih (List.mem_cons_of_mem _ h)

/-- **A run without separators occurs in a text exactly if it occurs in a field.** -/
theorem exists_field_iff {run : List Char} (h : sep ∉ run) (cs : List Char) :
    (∃ field ∈ fields sep cs, run <:+: field) ↔ run <:+: cs := by
  induction hn : cs.length using Nat.strongRecOn generalizing cs with
  | _ n ih =>
    subst hn
    by_cases hsep : sep ∈ cs
    · obtain ⟨front, behind, rfl⟩ := List.append_of_mem hsep
      have hlength : (front ++ sep :: behind).length = front.length + behind.length + 1 := by
        rw [List.length_append, List.length_cons, Nat.add_assoc]
      rw [fields_append, infix_append_cons_iff h, ← ih front.length (by omega) front rfl,
        ← ih behind.length (by omega) behind rfl]
      simp only [List.mem_append, or_and_right, exists_or]
    · rw [fields_of_notMem hsep]
      simp only [List.mem_singleton, exists_eq_left]

/-! ## Lines -/

/-- **A text is cut at a line feed**; what stands in front of it are whole lines. -/
theorem lines_append (front behind : List Char) :
    lines (front ++ '\n' :: behind) = (fields '\n' front).map dropReturn ++ lines behind := by
  have hne := fields_ne_nil '\n' behind
  rw [lines, lines, fields_append, List.dropLast_append_of_ne_nil hne,
    List.getLast?_append_of_ne_nil _ hne, List.map_append]
  split
  · rw [List.append_assoc]
  · rfl

theorem infix_dropReturn_iff {run line : List Char} (h : '\r' ∉ run) :
    run <:+: dropReturn line ↔ run <:+: line := by
  rw [dropReturn]
  split
  · next hlast =>
    obtain ⟨front, rfl⟩ := List.getLast?_eq_some_iff.mp hlast
    rw [List.dropLast_concat, infix_append_cons_iff h, List.infix_nil]
    constructor
    · exact .inl
    · rintro (hrun | rfl)
      · exact hrun
      · exact List.nil_infix
  · rfl

/-- **A run without line ends occurs in a text exactly if it occurs in a line.** -/
theorem exists_line_iff {run : List Char} (hne : run ≠ []) (hfeed : '\n' ∉ run)
    (hreturn : '\r' ∉ run) {cs : List Char} :
    (∃ line ∈ lines cs, run <:+: line) ↔ run <:+: cs := by
  rw [← exists_field_iff hfeed cs, lines]
  obtain ⟨parts, last, hparts⟩ : ∃ parts last, fields '\n' cs = parts ++ [last] :=
    ⟨_, _, (List.dropLast_append_getLast (fields_ne_nil '\n' cs)).symm⟩
  rw [hparts]
  simp only [List.dropLast_concat, List.getLast?_concat]
  have hended : (∃ line ∈ parts.map dropReturn, run <:+: line) ↔ ∃ part ∈ parts, run <:+: part := by
    simp only [List.mem_map, exists_exists_and_eq_and, infix_dropReturn_iff hreturn]
  cases last with
  | nil =>
    simp only [List.mem_append, List.mem_singleton, or_and_right, exists_or, exists_eq_left,
      List.infix_nil, hne, or_false, hended]
  | cons c rest =>
    simp only [List.mem_append, List.mem_singleton, or_and_right, exists_or, exists_eq_left, hended]

/-! ## Line by line -/

theorem intercalate_fields (sep : Char) (cs : List Char) :
    [sep].intercalate (fields sep cs) = cs := by
  induction cs with
  | nil => rfl
  | cons c cs ih =>
    show [sep].intercalate (consField sep c (fields sep cs)) = c :: cs
    obtain ⟨field, more, hfields⟩ := List.exists_cons_of_ne_nil (fields_ne_nil sep cs)
    rw [hfields] at ih ⊢
    rw [consField]
    split
    · next h => rw [List.intercalate_cons_cons, ih, h, List.nil_append, List.singleton_append]
    · cases more with
      | nil => simpa using ih
      | cons next more =>
        rw [List.intercalate_cons_cons] at ih ⊢
        rw [← ih, List.cons_append, List.cons_append]

theorem intercalate_append {between : List Char} {parts parts' : List (List Char)} (hne : parts ≠ [])
    (hne' : parts' ≠ []) :
    between.intercalate (parts ++ parts') =
      between.intercalate parts ++ between ++ between.intercalate parts' := by
  induction parts with
  | nil => exact absurd rfl hne
  | cons part parts ih =>
    cases parts with
    | nil =>
      obtain ⟨next, more, rfl⟩ := List.exists_cons_of_ne_nil hne'
      rw [List.singleton_append, List.intercalate_cons_cons, List.intercalate_singleton]
    | cons next parts =>
      rw [List.cons_append, List.cons_append, List.intercalate_cons_cons, ← List.cons_append,
        ih (List.cons_ne_nil _ _), List.intercalate_cons_cons]
      simp only [List.append_assoc]

/-- A field is a part of the text. -/
theorem infix_of_mem_fields {cs field : List Char} (h : field ∈ fields sep cs) : field <:+: cs :=
  (exists_field_iff (notMem_of_mem_fields h) cs).mp ⟨field, h, List.infix_rfl⟩

/-- **The lines of a text without carriage returns are its fields**, if it does not end in a line
feed. -/
theorem lines_eq_fields {cs : List Char} (hne : cs ≠ []) (hreturn : '\r' ∉ cs)
    (hlast : cs.getLast? ≠ some '\n') : lines cs = fields '\n' cs := by
  obtain ⟨parts, last, hparts⟩ : ∃ parts last, fields '\n' cs = parts ++ [last] :=
    ⟨_, _, (List.dropLast_append_getLast (fields_ne_nil '\n' cs)).symm⟩
  have hkeep : parts.map dropReturn = parts := by
    refine (List.map_congr_left (g := id) fun part hpart => ?_).trans (List.map_id parts)
    have hmem : part ∈ fields '\n' cs := hparts ▸ List.mem_append_left _ hpart
    have hpart : '\r' ∉ part := fun hr => hreturn ((infix_of_mem_fields hmem).subset hr)
    exact if_neg fun h => hpart (List.mem_of_getLast? h)
  have htext := intercalate_fields '\n' cs
  rw [hparts] at htext
  rw [lines, hparts]
  simp only [List.dropLast_concat, List.getLast?_concat, hkeep]
  cases last with
  | cons c rest => rfl
  | nil =>
    cases parts with
    | nil => exact absurd htext.symm hne
    | cons part parts =>
      rw [intercalate_append (List.cons_ne_nil _ _) (List.cons_ne_nil _ _),
        List.intercalate_singleton, List.append_nil] at htext
      exact absurd (htext ▸ List.getLast?_concat) hlast

/-- A text with each of its lines changed. -/
def linewise (f : List Char → List Char) (cs : List Char) : List Char :=
  ['\n'].intercalate ((fields '\n' cs).map f)

variable {f : List Char → List Char}

theorem linewise_of_notMem {cs : List Char} (h : '\n' ∉ cs) : linewise f cs = f cs := by
  rw [linewise, fields_of_notMem h, List.map_singleton, List.intercalate_singleton]

/-- **A text is changed in front of a line feed and behind it.** -/
theorem linewise_append (front behind : List Char) :
    linewise f (front ++ '\n' :: behind) = linewise f front ++ '\n' :: linewise f behind := by
  have hne : ∀ cs, (fields '\n' cs).map f ≠ [] := fun cs h =>
    fields_ne_nil '\n' cs (List.map_eq_nil_iff.mp h)
  rw [linewise, fields_append, List.map_append, intercalate_append (hne front) (hne behind),
    List.append_assoc, List.singleton_append]
  rfl

end DebugBridge.Text
