import DebugBridge.Json.Printer
import DebugBridge.Json.Token
import Mathlib.Data.List.Basic

/-!
# Layouts of JSON values

The compact text of a value, its pretty text and its tokens are made alike: brackets around rows of
items or of members, with something between them. A `Layout` says what stands for each of these
parts, and one induction over values serves all of them.

* `Layout.written` — a value in a layout
* `compact_eq`, `pretty_eq` — the two texts are layouts
* `Proper` — the values that JSON has
* `Layout.Related.written` — what relates the parts of layouts relates what is written in them
-/

namespace DebugBridge.Json

variable {α : Type}

/-- What stands for the parts of a value; levels count the arrays and objects around a part. -/
structure Layout (α : Type) where
  /-- A value that holds no others, as an item of an array or alone. -/
  item : Json → List α
  /-- A value that holds no others, as the value of a member. -/
  value : Json → List α
  /-- A name, and what stands between it and its value. -/
  name : String → List α
  beginArray : Nat → List α
  endArray : Nat → List α
  beginObject : Nat → List α
  endObject : Nat → List α
  /-- What stands between two items or members. -/
  comma : Nat → List α

namespace Layout

mutual

/-- A value at a level; `asItem` says whether it is an item of an array or stands alone. -/
def written (l : Layout α) (asItem : Bool) (level : Nat) : Json → List α
  | .array (item :: rest) =>
    l.beginArray (level + 1) ++ l.written true (level + 1) item ++ l.items (level + 1) rest ++
      l.endArray level
  | .object ((name, value) :: rest) =>
    l.beginObject (level + 1) ++ l.name name ++ l.written false (level + 1) value ++
      l.members (level + 1) rest ++ l.endObject level
  | v => if asItem then l.item v else l.value v

/-- The items after the first one. -/
def items (l : Layout α) (level : Nat) : List Json → List α
  | [] => []
  | item :: rest => l.comma level ++ l.written true level item ++ l.items level rest

/-- The members after the first one. -/
def members (l : Layout α) (level : Nat) : List (String × Json) → List α
  | [] => []
  | (name, value) :: rest =>
    l.comma level ++ l.name name ++ l.written false level value ++ l.members level rest

end

end Layout

/-- A value that holds no others. -/
def IsFlat : Json → Prop
  | .array (_ :: _) | .object (_ :: _) => False
  | _ => True

/-- Values by induction: those that hold no others, then arrays and objects. -/
theorem induct {P : Json → Prop} (flat : ∀ v, v.IsFlat → P v)
    (array : ∀ item rest, P item → (∀ v ∈ rest, P v) → P (.array (item :: rest)))
    (object : ∀ name value rest, P value → (∀ member ∈ rest, P member.2) →
      P (.object ((name, value) :: rest))) (v : Json) : P v := by
  refine @Json.rec P (fun items => ∀ v ∈ items, P v)
    (fun members => ∀ member ∈ members, P member.2) (fun member => P member.2)
    (flat _ trivial) (fun _ => flat _ trivial) (fun _ => flat _ trivial) (fun _ => flat _ trivial)
    (fun _ => flat _ trivial) (flat _ trivial) (fun items ih => ?_) (fun members ih => ?_)
    nofun (fun _ _ h hs => List.forall_mem_cons.mpr ⟨h, hs⟩)
    nofun (fun _ _ h hs => List.forall_mem_cons.mpr ⟨h, hs⟩) (fun _ _ h => h) v
  · cases items with
    | nil => exact flat _ trivial
    | cons item rest =>
      obtain ⟨h, hrest⟩ := List.forall_mem_cons.mp ih
      exact array item rest h hrest
  · cases members with
    | nil => exact flat _ trivial
    | cons member rest =>
      obtain ⟨h, hrest⟩ := List.forall_mem_cons.mp ih
      exact object member.1 member.2 rest h hrest

namespace Layout

variable (l : Layout α)

theorem written_flat {v : Json} (h : v.IsFlat) (asItem : Bool) (level : Nat) :
    l.written asItem level v = if asItem then l.item v else l.value v := by
  unfold IsFlat at h
  split at h
  · exact h.elim
  · exact h.elim
  · next harray hobject =>
    rw [Layout.written]
    · exact fun item rest heq => harray item rest heq
    · exact fun name value rest heq => hobject (name, value) rest heq

theorem items_eq (level : Nat) (rest : List Json) :
    l.items level rest = rest.flatMap fun v => l.comma level ++ l.written true level v := by
  induction rest with
  | nil => rfl
  | cons v rest ih => rw [items, ih, List.flatMap_cons]

theorem members_eq (level : Nat) (rest : List (String × Json)) :
    l.members level rest =
      rest.flatMap fun member =>
        l.comma level ++ l.name member.1 ++ l.written false level member.2 := by
  induction rest with
  | nil => rfl
  | cons member rest ih => rw [members, ih, List.flatMap_cons]

/-- **A way of writing that goes on at brackets as a layout does is that layout.** -/
theorem eq_written {f : Bool → Nat → Json → List α}
    (flat : ∀ asItem level v, IsFlat v → f asItem level v = if asItem then l.item v else l.value v)
    (array : ∀ asItem level item rest, f asItem level (.array (item :: rest)) =
      l.beginArray (level + 1) ++ f true (level + 1) item ++
        rest.flatMap (fun v => l.comma (level + 1) ++ f true (level + 1) v) ++ l.endArray level)
    (object : ∀ asItem level name value rest, f asItem level (.object ((name, value) :: rest)) =
      l.beginObject (level + 1) ++ l.name name ++ f false (level + 1) value ++
        rest.flatMap (fun member => l.comma (level + 1) ++ l.name member.1 ++
          f false (level + 1) member.2) ++ l.endObject level)
    (v : Json) (asItem : Bool) (level : Nat) : f asItem level v = l.written asItem level v := by
  induction v using induct generalizing asItem level with
  | flat v h => rw [flat asItem level v h, l.written_flat h]
  | array item rest ih ihrest =>
    rw [array, written, items_eq, ih]
    congr 2
    exact List.flatMap_congr fun v hv => by rw [ihrest v hv]
  | object name value rest ih ihrest =>
    rw [object, written, members_eq, ih]
    congr 2
    exact List.flatMap_congr fun member hmember => by rw [ihrest member hmember]

end Layout

/-! ## The two texts -/

/-- The layout without blanks. -/
def compactLayout : Layout Char where
  item := compact
  value := compact
  name name := quote name ++ [':']
  beginArray _ := ['[']
  endArray _ := [']']
  beginObject _ := ['\x7b']
  endObject _ := ['\x7d']
  comma _ := [',']

/-- The layout with a line for each item and each member. -/
def prettyLayout : Layout Char where
  item := compact
  value := compact
  name name := quote name ++ [':', ' ']
  beginArray level := '[' :: newLine level
  endArray level := newLine level ++ [']']
  beginObject level := '\x7b' :: newLine level
  endObject level := newLine level ++ ['\x7d']
  comma level := ',' :: newLine level

theorem compactItems_eq (rest : List Json) :
    compactItems rest = rest.flatMap fun v => ',' :: v.compact := by
  induction rest with
  | nil => rfl
  | cons v rest ih => rw [compactItems, ih, List.flatMap_cons, List.cons_append]

theorem compactMembers_eq (rest : List (String × Json)) :
    compactMembers rest =
      rest.flatMap fun member => ',' :: (quote member.1 ++ ':' :: member.2.compact) := by
  induction rest with
  | nil => rfl
  | cons member rest ih => simp [compactMembers, ih]

theorem prettyItems_eq (level : Nat) (rest : List Json) :
    prettyItems level rest = rest.flatMap fun v => ',' :: (newLine level ++ v.pretty level) := by
  induction rest with
  | nil => rfl
  | cons v rest ih => simp [prettyItems, ih]

theorem prettyMembers_eq (level : Nat) (rest : List (String × Json)) :
    prettyMembers level rest =
      rest.flatMap fun member =>
        ',' :: (newLine level ++ quote member.1 ++ [':', ' '] ++ member.2.pretty level) := by
  induction rest with
  | nil => rfl
  | cons member rest ih => simp [prettyMembers, ih]

/-- **The compact text is a layout.** -/
theorem compact_eq (v : Json) (asItem : Bool) (level : Nat) :
    v.compact = compactLayout.written asItem level v := by
  refine compactLayout.eq_written (f := fun _ _ => compact) (fun asItem level v _ => ?_)
    (fun asItem level item rest => ?_) (fun asItem level name value rest => ?_) v asItem level
  · exact (ite_self _).symm
  · simp [compact, compactItems_eq, compactLayout]
  · simp [compact, compactMembers_eq, compactLayout]

theorem pretty_flat {v : Json} (h : v.IsFlat) (level : Nat) : v.pretty level = v.compact := by
  cases v with
  | array items =>
    cases items with
    | nil => rfl
    | cons item rest => exact h.elim
  | object members =>
    cases members with
    | nil => rfl
    | cons member rest => exact h.elim
  | _ => rfl

/-- **The pretty text is a layout.** -/
theorem pretty_eq (v : Json) (asItem : Bool) (level : Nat) :
    v.pretty level = prettyLayout.written asItem level v := by
  refine prettyLayout.eq_written (f := fun _ => pretty) (fun asItem level v hv => ?_)
    (fun asItem level item rest => ?_) (fun asItem level name value rest => ?_) v asItem level
  · rw [pretty_flat hv]
    exact (ite_self _).symm
  · simp [pretty, prettyItems_eq, prettyLayout]
  · simp [pretty, prettyMembers_eq, prettyLayout]

/-! ## Values that JSON has -/

/-- A number that is not written as an integer. -/
def IsDecimal (text : String) : Prop :=
  ofNumeric? text.toList = some (.decimal text) ∧ ∀ c ∈ text.toList, isNumeric c = true

/-- The value is one that JSON has: no string in it has half of a surrogate pair, and what it holds
as the text of a number is one. -/
inductive Proper : Json → Prop
  | null : Proper .null
  | bool (b : Bool) : Proper (.bool b)
  | integer (n : Int) : Proper (.integer n)
  | decimal {text : String} (h : IsDecimal text) : Proper (.decimal text)
  | string (text : String) : Proper (.string text)
  | array {items : List Json} (h : ∀ v ∈ items, Proper v) : Proper (.array items)
  | object {members : List (String × Json)} (h : ∀ member ∈ members, Proper member.2) :
    Proper (.object members)

theorem Proper.items {items : List Json} (h : Proper (.array items)) : ∀ v ∈ items, v.Proper := by
  cases h with
  | array h => exact h

theorem Proper.members {members : List (String × Json)} (h : Proper (.object members)) :
    ∀ member ∈ members, member.2.Proper := by
  cases h with
  | object h => exact h

namespace Layout

variable {β γ : Type}

/-- The parts of three layouts are related, and so are rows of related parts. -/
structure Related (R : List α → List β → List γ → Prop) (l : Layout α) (l' : Layout β)
    (l'' : Layout γ) : Prop where
  nil : R [] [] []
  append {a a' : List α} {b b' : List β} {c c' : List γ} (h : R a b c) (h' : R a' b' c') :
    R (a ++ a') (b ++ b') (c ++ c')
  item {v : Json} (hflat : v.IsFlat) (h : v.Proper) : R (l.item v) (l'.item v) (l''.item v)
  value {v : Json} (hflat : v.IsFlat) (h : v.Proper) : R (l.value v) (l'.value v) (l''.value v)
  name (text : String) : R (l.name text) (l'.name text) (l''.name text)
  beginArray (level : Nat) : R (l.beginArray level) (l'.beginArray level) (l''.beginArray level)
  endArray (level : Nat) : R (l.endArray level) (l'.endArray level) (l''.endArray level)
  beginObject (level : Nat) :
    R (l.beginObject level) (l'.beginObject level) (l''.beginObject level)
  endObject (level : Nat) : R (l.endObject level) (l'.endObject level) (l''.endObject level)
  comma (level : Nat) : R (l.comma level) (l'.comma level) (l''.comma level)

variable {R : List α → List β → List γ → Prop} {l : Layout α} {l' : Layout β} {l'' : Layout γ}

theorem Related.flatMap {δ : Type} (hl : Related R l l' l'') {rows : List δ} {f : δ → List α}
    {f' : δ → List β} {f'' : δ → List γ} (h : ∀ row ∈ rows, R (f row) (f' row) (f'' row)) :
    R (rows.flatMap f) (rows.flatMap f') (rows.flatMap f'') := by
  induction rows with
  | nil => exact hl.nil
  | cons row rows ih =>
    obtain ⟨hrow, hrows⟩ := List.forall_mem_cons.mp h
    exact hl.append hrow (ih hrows)

/-- **A value is related in layouts whose parts are.** -/
theorem Related.written (hl : Related R l l' l'') {v : Json} (h : v.Proper) (asItem : Bool)
    (level : Nat) : R (l.written asItem level v) (l'.written asItem level v)
      (l''.written asItem level v) := by
  induction v using induct generalizing asItem level with
  | flat v hflat =>
    rw [l.written_flat hflat, l'.written_flat hflat, l''.written_flat hflat]
    cases asItem with
    | true => exact hl.item hflat h
    | false => exact hl.value hflat h
  | array item rest ih ihrest =>
    obtain ⟨hitem, hrest⟩ := List.forall_mem_cons.mp h.items
    simp only [Layout.written, items_eq]
    have hitems := hl.flatMap fun v hv =>
      hl.append (hl.comma (level + 1)) (ihrest v hv (hrest v hv) true (level + 1))
    exact hl.append (hl.append (hl.append (hl.beginArray _) (ih hitem true (level + 1))) hitems)
      (hl.endArray level)
  | object name value rest ih ihrest =>
    obtain ⟨hvalue, hrest⟩ := List.forall_mem_cons.mp h.members
    simp only [Layout.written, members_eq]
    have hmembers := hl.flatMap fun member hm =>
      hl.append (hl.append (hl.comma (level + 1)) (hl.name member.1))
        (ihrest member hm (hrest member hm) false (level + 1))
    exact hl.append (hl.append (hl.append (hl.append (hl.beginObject _) (hl.name name))
      (ih hvalue false (level + 1))) hmembers) (hl.endObject level)

end Layout

end DebugBridge.Json
