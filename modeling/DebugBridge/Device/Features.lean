/-!
# Features of a device

The features that a device names are a set of texts. It is kept as a list in ascending order
without repeats, so that two sets with the same members are equal. Texts are ordered by their
characters, which is also the order of their bytes in UTF-8.
-/

namespace DebugBridge

/-- A set of features. -/
structure Features where
  /-- The members in ascending order. -/
  toList : List String
  ascending : toList.Pairwise (· < ·)
  deriving DecidableEq, Repr

namespace Features

/-- No features. -/
def empty : Features := ⟨[], .nil⟩

instance : Inhabited Features := ⟨empty⟩

/-- Puts a text at its place in an ascending list, unless it is there. -/
def insertInto (text : String) : List String → List String
  | [] => [text]
  | other :: rest =>
    if text < other then text :: other :: rest
    else if text = other then other :: rest
    else other :: insertInto text rest

theorem mem_insertInto {text other : String} {texts : List String} :
    other ∈ insertInto text texts ↔ other = text ∨ other ∈ texts := by
  induction texts with
  | nil => simp [insertInto]
  | cons first rest ih =>
    simp only [insertInto]
    split
    · simp
    · split
      · next h => subst h; simp
      · simp [ih, or_left_comm]

theorem ascending_insertInto (text : String) {texts : List String}
    (h : texts.Pairwise (· < ·)) : (insertInto text texts).Pairwise (· < ·) := by
  induction texts with
  | nil => simp [insertInto]
  | cons first rest ih =>
    obtain ⟨below, h⟩ := List.pairwise_cons.mp h
    simp only [insertInto]
    split
    · next lt =>
      refine List.pairwise_cons.mpr ⟨?_, List.pairwise_cons.mpr ⟨below, h⟩⟩
      intro other mem
      cases mem with
      | head => exact lt
      | tail _ mem => exact String.lt_trans lt (below other mem)
    · split
      · exact List.pairwise_cons.mpr ⟨below, h⟩
      · next ge ne =>
        refine List.pairwise_cons.mpr ⟨?_, ih h⟩
        intro other mem
        rcases mem_insertInto.mp mem with rfl | mem
        · exact String.not_le.mp fun le => ne (String.le_antisymm le (String.not_lt.mp ge))
        · exact below other mem

/-- The set with one more member. -/
def insert (text : String) (set : Features) : Features :=
  ⟨insertInto text set.toList, ascending_insertInto text set.ascending⟩

/-- The set of the texts of a list. -/
def ofList (texts : List String) : Features := texts.foldl (fun set text => set.insert text) empty

/-- Whether a text is a member. -/
def contains (set : Features) (text : String) : Bool := set.toList.contains text

/-- Whether there are no members. -/
def isEmpty (set : Features) : Bool := set.toList.isEmpty

end Features

end DebugBridge
