import DebugBridge.Device.Line
import DebugBridge.Output.Formatter
import DebugBridge.Proofs.Device.Set
import DebugBridge.Proofs.Text
import DebugBridge.Proofs.Words
import Mathlib.Data.List.Perm.Basic

/-!
# Lines that show devices

A line shows a device by its serial, the token of its state, and then its attributes and the words
of its remark. The attributes may stand in any order and anywhere among the words of the remark,
with whichever blanks between them. A line of that kind is read as the very device that it shows,
and so is a list of such lines, whatever line ends they have.

* `attribute?_eq_some_iff` — which words are attributes
* `Shown.foldl_set` — the attributes of a device, in any order, make up the device
* `parseLine?_lineOf` — one line is read as the device that it shows
* `parseList_plain` — a list that was printed is read back
* `devices_read_back` — lines and lists of lines are read as their devices, in order
-/

namespace DebugBridge

namespace Features

theorem mem_foldl_insert {text : String} {texts : List String} {set : Features} :
    text ∈ (texts.foldl (fun set text => set.insert text) set).toList ↔
      text ∈ set.toList ∨ text ∈ texts := by
  induction texts generalizing set with
  | nil => simp
  | cons first rest ih =>
    rw [List.foldl_cons, ih, List.mem_cons, insert, mem_insertInto, or_assoc, or_left_comm]

/-- The members of a set are the texts of the list that it was made of. -/
theorem mem_ofList {text : String} {texts : List String} :
    text ∈ (ofList texts).toList ↔ text ∈ texts := by
  rw [ofList, mem_foldl_insert]
  exact or_iff_right List.not_mem_nil

/-- **Sets with the same members are equal.** -/
theorem ext_mem {a b : Features} (h : ∀ text, text ∈ a.toList ↔ text ∈ b.toList) : a = b := by
  have heq := eq_of_ascending (fun _ _ => String.lt_asymm) a.ascending b.ascending h
  cases a
  cases b
  cases heq
  rfl

end Features

namespace Device

open Text (Blank Follow IsWord LaidOut ReadFrom follow_iff)

variable {d e : Device} {features free row rows : List (List Char)} {name : Attribute}
  {word value line rest : List Char}

/-! ## Attributes -/

/-- An attribute with a value, as a word of a line. -/
def Attribute.write (name : Attribute) (value : List Char) : List Char :=
  name.key.toList ++ ':' :: value

theorem Attribute.colon_notMem_key (name : Attribute) : ':' ∉ name.key.toList := by
  cases name <;> decide

theorem Attribute.isWord_key (name : Attribute) : IsWord name.key.toList := by
  cases name <;> decide

theorem Attribute.ofKey?_eq_some_iff {key : List Char} :
    Attribute.ofKey? key = some name ↔ name.key.toList = key := by
  constructor
  · intro h
    rw [Attribute.ofKey?] at h
    simpa using List.find?_some h
  · rintro rfl
    cases name <;> rfl

/-- **A word is an attribute exactly if it is written as one.** -/
theorem attribute?_eq_some_iff : attribute? word = some (name, value) ↔ word = name.write value := by
  unfold attribute?
  constructor
  · intro h
    obtain ⟨⟨key, text⟩, hsplit, h⟩ := Option.bind_eq_some_iff.mp h
    obtain ⟨found, hfound, h⟩ := Option.bind_eq_some_iff.mp h
    obtain ⟨rfl, rfl⟩ := Prod.mk.inj (Option.some.inj h)
    rw [Attribute.write, Attribute.ofKey?_eq_some_iff.mp hfound]
    exact (Text.splitFirst?_eq_some_iff.mp hsplit).1
  · rintro rfl
    have hsplit : Text.splitFirst? ':' (name.write value) = some (name.key.toList, value) :=
      Text.splitFirst?_eq_some_iff.mpr ⟨rfl, name.colon_notMem_key⟩
    have hkey : Attribute.ofKey? name.key.toList = some name :=
      Attribute.ofKey?_eq_some_iff.mpr rfl
    rw [hsplit, Option.bind_eq_bind, Option.bind_some]
    simp only [hkey, Option.bind_eq_bind, Option.bind_some]

theorem attribute?_eq_none_iff :
    attribute? word = none ↔ ∀ (name : Attribute) (value : List Char), word ≠ name.write value := by
  constructor
  · rintro h name value heq
    rw [attribute?_eq_some_iff.mpr heq] at h
    cases h
  · intro h
    refine Option.eq_none_iff_forall_ne_some.mpr fun found hfound => ?_
    exact h found.1 found.2 (attribute?_eq_some_iff.mp hfound)

theorem isWord_write (h : IsWord value) : IsWord (name.write value) :=
  name.isWord_key.append_cons rfl h

/-! ## What a line shows -/

/-- All attributes. -/
def Attribute.all : List Attribute := [.product, .model, .codename, .features, .usb, .transportId]

/-- The remark that free words make up. -/
def remarkOf (free : List (List Char)) : Option String :=
  if free = [] then none else some (String.ofList ([' '].intercalate free))

/-- A device that a line can show, with its features in the order in which they are written and
with the words of its remark. -/
structure Shown (d : Device) (features free : List (List Char)) : Prop where
  serial : IsWord d.serial.toList
  product : ∀ text ∈ d.product, IsWord text.toList
  model : ∀ text ∈ d.model, IsWord text.toList
  codename : ∀ text ∈ d.codename, IsWord text.toList
  usb : ∀ text ∈ d.usb, IsWord text.toList
  members : ∀ text, text ∈ d.features.toList ↔ text.toList ∈ features
  plain : ∀ feature ∈ features, IsWord feature ∧ ',' ∉ feature
  remark : d.remark = remarkOf free
  words : ∀ word ∈ free,
    IsWord word ∧ ∀ (name : Attribute) (value : List Char), word ≠ name.write value
  /-- There is no remark about a device that is usable. -/
  usable : d.state = .online → free = []

/-- The value of an attribute in writing, if the device has the attribute. -/
def value? (d : Device) (features : List (List Char)) : Attribute → Option (List Char)
  | .product => d.product.map String.toList
  | .model => d.model.map String.toList
  | .codename => d.codename.map String.toList
  | .features => if features = [] then none else some ([','].intercalate features)
  | .usb => d.usb.map String.toList
  | .transportId => d.transportId.map fun id => (toString id.toNat).toList

/-- The attributes of a device in writing. -/
def attributes (d : Device) (features : List (List Char)) : List (Attribute × List Char) :=
  Attribute.all.filterMap fun name => (d.value? features name).map (name, ·)

/-- A row of attributes and other words, which keep their order. -/
inductive Mixed : List (Attribute × List Char) → List (List Char) → List (List Char) → Prop
  | nil : Mixed [] [] []
  | named {attributes : List (Attribute × List Char)} {free row : List (List Char)}
    (name : Attribute) (value : List Char) (hrow : Mixed attributes free row) :
    Mixed ((name, value) :: attributes) free (name.write value :: row)
  | word {attributes : List (Attribute × List Char)} {free row : List (List Char)}
    (word : List Char) (hrow : Mixed attributes free row) :
    Mixed attributes (word :: free) (word :: row)

/-- A line that shows a device: the serial, the token of the state, and behind it the attributes in
any order, mixed with the words of the remark. -/
inductive LineOf (d : Device) (features free : List (List Char)) : List Char → Prop
  | intro {lead gap rest : List Char} {attributes : List (Attribute × List Char)}
    {row : List (List Char)} (hlead : Blank lead) (hne : gap ≠ []) (hgap : Blank gap)
    (hattributes : attributes.Perm (d.attributes features)) (hrow : Mixed attributes free row)
    (hrest : Follow row rest) :
    LineOf d features free (lead ++ (d.serial.toList ++ gap ++ d.state.token.toList ++ rest))

/-- Rows that show devices, among blank ones and ones that head a list. -/
inductive Rows : List Device → List (List Char) → Prop
  | nil : Rows [] []
  | blank {ds : List Device} {row : List Char} {rows : List (List Char)} (hrow : Blank row)
    (hrows : Rows ds rows) : Rows ds (row :: rows)
  | heading {ds : List Device} {lead : List Char} {rows : List (List Char)} (hlead : Blank lead)
    (more : List Char) (hrows : Rows ds rows) : Rows ds ((lead ++ (heading ++ more)) :: rows)
  | device {d : Device} {features free : List (List Char)} {row : List Char} {ds : List Device}
    {rows : List (List Char)} (hd : Shown d features free) (hrow : LineOf d features free row)
    (hrows : Rows ds rows) : Rows (d :: ds) (row :: rows)

/-! ## Values -/

theorem mem_attributes_iff :
    (name, value) ∈ d.attributes features ↔ d.value? features name = some value := by
  have hall : name ∈ Attribute.all := by cases name <;> decide
  rw [attributes, List.mem_filterMap]
  constructor
  · rintro ⟨other, -, hother⟩
    obtain ⟨text, htext, heq⟩ := Option.map_eq_some_iff.mp hother
    obtain ⟨rfl, rfl⟩ := Prod.mk.inj heq
    exact htext
  · exact fun h => ⟨name, hall, by rw [h, Option.map_some]⟩

theorem isWord_intercalate {parts : List (List Char)} (hne : parts ≠ [])
    (h : ∀ part ∈ parts, IsWord part) : IsWord ([','].intercalate parts) := by
  induction parts with
  | nil => exact absurd rfl hne
  | cons part parts ih =>
    obtain ⟨hpart, hparts⟩ := List.forall_mem_cons.mp h
    cases parts with
    | nil =>
      rw [List.intercalate_singleton]
      exact hpart
    | cons next parts =>
      rw [List.intercalate_cons_cons, List.append_assoc, List.singleton_append]
      exact hpart.append_cons rfl (ih (List.cons_ne_nil _ _) hparts)

theorem isBlank_of_isDigit {c : Char} (h : c.isDigit = true) : Text.isBlank c = false := by
  have hrange := Text.isDigit_iff.mp h
  simp only [Text.isBlank, Bool.or_eq_false_iff, Bool.and_eq_false_iff, beq_eq_false_iff_ne,
    decide_eq_false_iff_not]
  omega

theorem isWord_toString (n : Nat) : IsWord (toString n).toList := by
  refine ⟨?_, fun c hc => isBlank_of_isDigit (Text.isDigit_of_mem_toString hc)⟩
  rw [Text.toList_toString]
  exact Nat.toDigits_ne_nil

/-- An optional text that is a word, if it is there. -/
theorem eq_of_map_toList {field : Option String} (h : ∀ text ∈ field, IsWord text.toList)
    (hvalue : field.map String.toList = some value) :
    IsWord value ∧ field = some (String.ofList value) := by
  obtain ⟨text, rfl, rfl⟩ := Option.map_eq_some_iff.mp hvalue
  exact ⟨h text rfl, by rw [String.ofList_toList]⟩

/-- What is written of an attribute is a word. -/
theorem Shown.isWord_value (h : Shown d features free)
    (hvalue : d.value? features name = some value) : IsWord value := by
  cases name with
  | product => exact (eq_of_map_toList h.product hvalue).1
  | model => exact (eq_of_map_toList h.model hvalue).1
  | codename => exact (eq_of_map_toList h.codename hvalue).1
  | usb => exact (eq_of_map_toList h.usb hvalue).1
  | transportId =>
    obtain ⟨id, -, rfl⟩ := Option.map_eq_some_iff.mp hvalue
    exact isWord_toString id.toNat
  | features =>
    rw [value?] at hvalue
    split at hvalue
    · cases hvalue
    · next hne =>
      cases hvalue
      exact isWord_intercalate hne fun part hpart => (h.plain part hpart).1

/-- Features that are written with commas between them are read back. -/
theorem Shown.featuresOf (h : Shown d features free) (hne : features ≠ []) :
    featuresOf ([','].intercalate features) = d.features := by
  have hkept : ∀ feature ∈ features, (!feature.isEmpty) = true := fun feature hfeature => by
    simpa using (h.plain feature hfeature).1.1
  rw [Device.featuresOf, Text.fields_intercalate hne fun feature hf => (h.plain feature hf).2,
    List.filter_eq_self.mpr hkept]
  refine Features.ext_mem fun text => ?_
  rw [Features.mem_ofList, h.members, List.mem_map]
  constructor
  · rintro ⟨feature, hfeature, rfl⟩
    rwa [String.toList_ofList]
  · exact fun hmem => ⟨text.toList, hmem, String.ofList_toList⟩

/-! ## Taking attributes -/

/-- The device with one attribute as another device has it. -/
def like (d other : Device) : Attribute → Device
  | .product => { d with product := other.product }
  | .model => { d with model := other.model }
  | .codename => { d with codename := other.codename }
  | .features => { d with features := other.features }
  | .usb => { d with usb := other.usb }
  | .transportId => { d with transportId := other.transportId }

instance : RightCommutative (fun d name => like d e name) :=
  ⟨fun d name other => by cases name <;> cases other <;> rfl⟩

/-- An attribute that is set from what is written of a device is as this device has it. -/
theorem Shown.set_eq_like (h : Shown d features free)
    (hvalue : d.value? features name = some value) (e : Device) :
    e.set name value = e.like d name := by
  have hne : ¬ value.isEmpty = true := by simpa using (h.isWord_value hvalue).1
  unfold set
  rw [if_neg hne]
  cases name with
  | product => rw [like, (eq_of_map_toList h.product hvalue).2]
  | model => rw [like, (eq_of_map_toList h.model hvalue).2]
  | codename => rw [like, (eq_of_map_toList h.codename hvalue).2]
  | usb => rw [like, (eq_of_map_toList h.usb hvalue).2]
  | transportId =>
    obtain ⟨id, hid, rfl⟩ := Option.map_eq_some_iff.mp hvalue
    rw [like, hid, Text.word32?_toString]
  | features =>
    rw [value?] at hvalue
    split at hvalue
    · cases hvalue
    · next hfeatures =>
      cases hvalue
      rw [like, h.featuresOf hfeatures]

/-- A device of which only the serial and the state are known. -/
def bare (serial : String) (state : DeviceState) : Device := { serial, state }

/-- An attribute that a device does not have leaves nothing to take from it. -/
theorem Shown.like_bare (h : Shown d features free) (hvalue : d.value? features name = none)
    (serial : String) (state : DeviceState) :
    (bare serial state).like d name = bare serial state := by
  cases name with
  | product => rw [like, Option.map_eq_none_iff.mp hvalue, bare]
  | model => rw [like, Option.map_eq_none_iff.mp hvalue, bare]
  | codename => rw [like, Option.map_eq_none_iff.mp hvalue, bare]
  | usb => rw [like, Option.map_eq_none_iff.mp hvalue, bare]
  | transportId => rw [like, Option.map_eq_none_iff.mp hvalue, bare]
  | features =>
    rw [value?] at hvalue
    split at hvalue
    · next hnone =>
      have hfeatures : d.features = .empty := by
        refine Features.ext_mem fun text => ?_
        rw [h.members, hnone]
        exact iff_of_false List.not_mem_nil List.not_mem_nil
      rw [like, hfeatures, bare]
    · cases hvalue

theorem Shown.foldl_set_eq (h : Shown d features free) {attributes : List (Attribute × List Char)}
    (hvalues : ∀ a ∈ attributes, d.value? features a.1 = some a.2) (e : Device) :
    attributes.foldl (fun e a => e.set a.1 a.2) e =
      (attributes.map Prod.fst).foldl (fun e name => e.like d name) e := by
  induction attributes generalizing e with
  | nil => rfl
  | cons a attributes ih =>
    obtain ⟨ha, hvalues⟩ := List.forall_mem_cons.mp hvalues
    rw [List.foldl_cons, List.map_cons, List.foldl_cons, ih hvalues, h.set_eq_like ha]

theorem Shown.foldl_like_bare (h : Shown d features free) {names : List Attribute}
    (hvalues : ∀ name ∈ names, d.value? features name = none) (serial : String)
    (state : DeviceState) :
    names.foldl (fun e name => e.like d name) (bare serial state) = bare serial state := by
  induction names with
  | nil => rfl
  | cons name names ih =>
    obtain ⟨hname, hvalues⟩ := List.forall_mem_cons.mp hvalues
    rw [List.foldl_cons, h.like_bare hname, ih hvalues]

/-- The names of the attributes that are written of a device. -/
theorem map_fst_attributes :
    (d.attributes features).map Prod.fst =
      Attribute.all.filter fun name => (d.value? features name).isSome := by
  rw [attributes]
  induction Attribute.all with
  | nil => rfl
  | cons name names ih => cases hvalue : d.value? features name <;> simp [hvalue, ih]

/-- **The attributes of a device, in any order, make up the device** but for its remark. -/
theorem Shown.foldl_set (h : Shown d features free) {attributes : List (Attribute × List Char)}
    (hperm : attributes.Perm (d.attributes features)) :
    attributes.foldl (fun e a => e.set a.1 a.2) (bare d.serial d.state) =
      { d with remark := none } := by
  let has (name : Attribute) : Bool := (d.value? features name).isSome
  have hvalues : ∀ a ∈ attributes, d.value? features a.1 = some a.2 := fun a ha =>
    mem_attributes_iff.mp (hperm.mem_iff.mp ha)
  have habsent : ∀ name ∈ Attribute.all.filter (!has ·), d.value? features name = none :=
    fun name hname => by simpa [has] using (List.mem_filter.mp hname).2
  have hall := List.perm_append_comm.trans (List.filter_append_perm has Attribute.all)
  rw [h.foldl_set_eq hvalues, (hperm.map Prod.fst).foldl_eq, map_fst_attributes]
  -- what the device does not have may as well be taken from it, before the rest
  calc
    _ = (Attribute.all.filter has).foldl (fun e name => e.like d name)
          ((Attribute.all.filter (!has ·)).foldl (fun e name => e.like d name)
            (bare d.serial d.state)) := by rw [h.foldl_like_bare habsent]
    _ = Attribute.all.foldl (fun e name => e.like d name) (bare d.serial d.state) := by
        rw [← List.foldl_append, hall.foldl_eq]
    _ = { d with remark := none } := rfl

/-! ## The words behind the state -/

theorem takeWords_write (name : Attribute) (value : List Char) (e : Device)
    (before row : List (List Char)) :
    e.takeWords before (name.write value :: row) = (e.set name value).takeWords before row := by
  have hword : e.takeWord before (name.write value) = (e.set name value, before) := by
    unfold takeWord
    rw [attribute?_eq_some_iff.mpr rfl]
  rw [takeWords, hword]

theorem takeWords_word (hword : ∀ (name : Attribute) (value : List Char), word ≠ name.write value)
    (e : Device) (before row : List (List Char)) :
    e.takeWords before (word :: row) = e.takeWords (before ++ [word]) row := by
  have hword : e.takeWord before word = (e, before ++ [word]) := by
    unfold takeWord
    rw [attribute?_eq_none_iff.mpr hword]
  rw [takeWords, hword]

/-- Words that are no attributes are left for the remark, in their order; everything else is set. -/
theorem Mixed.takeWords {attributes : List (Attribute × List Char)}
    (h : Mixed attributes free row)
    (hfree : ∀ word ∈ free, ∀ (name : Attribute) (value : List Char), word ≠ name.write value)
    (e : Device) (before : List (List Char)) :
    e.takeWords before row =
      (attributes.foldl (fun e a => e.set a.1 a.2) e).takeWords (before ++ free) [] := by
  induction h generalizing e before with
  | nil => rw [List.append_nil, List.foldl_nil]
  | named name value _ ih =>
    rw [takeWords_write, ih hfree, List.foldl_cons]
  | word word _ ih =>
    obtain ⟨hword, hfree⟩ := List.forall_mem_cons.mp hfree
    rw [takeWords_word hword, ih hfree, List.append_assoc, List.singleton_append]

theorem Mixed.isWord {attributes : List (Attribute × List Char)} (h : Mixed attributes free row)
    (hattributes : ∀ a ∈ attributes, IsWord a.2) (hfree : ∀ word ∈ free, IsWord word) :
    ∀ word ∈ row, IsWord word := by
  induction h with
  | nil => exact hfree
  | named name value _ ih =>
    obtain ⟨hvalue, hattributes⟩ := List.forall_mem_cons.mp hattributes
    exact List.forall_mem_cons.mpr ⟨isWord_write hvalue, ih hattributes hfree⟩
  | word word _ ih =>
    obtain ⟨hword, hfree⟩ := List.forall_mem_cons.mp hfree
    exact List.forall_mem_cons.mpr ⟨hword, ih hattributes hfree⟩

/-- **The words behind the state make up the device.** -/
theorem Shown.takeWords (h : Shown d features free) {attributes : List (Attribute × List Char)}
    (hperm : attributes.Perm (d.attributes features)) (hrow : Mixed attributes free row) :
    (bare d.serial d.state).takeWords [] row = d := by
  rw [hrow.takeWords fun word hword => (h.words word hword).2, h.foldl_set hperm, List.nil_append,
    Device.takeWords]
  have hremark := h.remark
  rw [remarkOf] at hremark
  split at hremark
  · next hfree =>
    rw [hfree, List.isEmpty_nil, Bool.true_or, if_pos rfl, ← hremark]
  · next hfree =>
    have honline : d.state ≠ .online := fun heq => hfree (h.usable heq)
    rw [if_neg (by simp [isOnline, hfree, honline]), ← hremark]

/-! ## The state -/

theorem ofToken_token (state : DeviceState) : DeviceState.ofToken state.token = state := by
  cases state <;> rfl

/-- One token has a blank inside; each of the others is a word, which starts in another way. -/
theorem token_cases (state : DeviceState) :
    state = .noPermissions ∨ IsWord state.token.toList ∧
      ∀ rest, Text.stripStart? DeviceState.noPermissions.token.toList
        (state.token.toList ++ rest) = none := by
  cases state with
  | noPermissions => exact .inl rfl
  | _ => exact .inr ⟨by decide, fun _ => rfl⟩

theorem trimLeft_token (state : DeviceState) (rest : List Char) :
    Text.trimLeft (state.token.toList ++ rest) = state.token.toList ++ rest := by
  rcases token_cases state with rfl | ⟨hword, -⟩
  · rfl
  · exact Text.trimLeft_word hword rest

theorem trimRight_token (state : DeviceState) (front : List Char) (hrest : Follow row rest)
    (hrow : ∀ word ∈ row, IsWord word) :
    ∃ kept, Text.trimRight (front ++ state.token.toList ++ rest) =
      front ++ state.token.toList ++ kept ∧ Follow row kept := by
  rcases token_cases state with rfl | ⟨hword, -⟩
  · have hsplit : DeviceState.noPermissions.token.toList = "no ".toList ++ "permissions".toList := rfl
    have hword : IsWord "permissions".toList := by decide
    simpa only [hsplit, List.append_assoc] using hrest.trimRight hrow hword (front ++ "no ".toList)
  · exact hrest.trimRight hrow hword front

/-- **The state of a line, and the words behind its token.** -/
theorem stateOf_token (state : DeviceState) (hrest : Follow row rest)
    (hrow : ∀ word ∈ row, IsWord word) :
    ∃ behind, stateOf (state.token.toList ++ rest) = (state, behind) ∧ Text.words behind = row := by
  have hwords := hrest.words hrow
  rcases token_cases state with rfl | ⟨hword, hstrip⟩
  · exact ⟨rest, rfl, hwords⟩
  · rw [stateOf, hstrip]
    cases rest with
    | nil =>
      refine ⟨[], ?_, hwords⟩
      rw [List.append_nil, Text.splitBlank?_none hword.2]
      simp only [String.ofList_toList, ofToken_token]
    | cons c rest =>
      have hc : Blank [c] := List.forall_mem_singleton.mpr hrest.head
      refine ⟨rest, ?_, by rw [← hwords, ← List.singleton_append, Text.words_blank_append hc]⟩
      rw [Text.splitBlank?_cons hword.2 hrest.head]
      simp only [String.ofList_toList, ofToken_token]

/-! ## A line -/

/-- The serial is cut off at the first blank behind it. -/
theorem splitBlank?_serial (hserial : IsWord d.serial.toList) {gap : List Char} (hne : gap ≠ [])
    (hgap : Blank gap) :
    ∃ blanks, Blank blanks ∧ ∀ rest,
      Text.splitBlank? (d.serial.toList ++ gap ++ d.state.token.toList ++ rest) =
        some (d.serial.toList, blanks ++ (d.state.token.toList ++ rest)) := by
  obtain ⟨c, blanks, rfl⟩ := List.exists_cons_of_ne_nil hne
  obtain ⟨hc, hblanks⟩ := List.forall_mem_cons.mp hgap
  refine ⟨blanks, hblanks, fun rest => ?_⟩
  rw [List.append_assoc, List.append_assoc]
  exact Text.splitBlank?_cons hserial.2 hc _

/-- A text that starts as a heading does has `of` for its second word, and no state is called
that. -/
theorem not_heading (hserial : IsWord d.serial.toList) {gap : List Char} (hne : gap ≠ [])
    (hgap : Blank gap) (rest : List Char) :
    heading.isPrefixOf (d.serial.toList ++ gap ++ d.state.token.toList ++ rest) = false := by
  refine Bool.eq_false_iff.mpr fun hstart => ?_
  obtain ⟨more, hmore⟩ := List.isPrefixOf_iff_prefix.mp hstart
  have hheading : Text.splitBlank? (heading ++ more) =
      some ("List".toList, "of devices".toList ++ more) := by
    have hword : IsWord "List".toList := by decide
    exact Text.splitBlank?_cons hword.2 (c := ' ') rfl _
  obtain ⟨blanks, hblanks, hsplit⟩ := splitBlank?_serial hserial hne hgap
  rw [hmore, hsplit] at hheading
  have hbehind := (Prod.mk.inj (Option.some.inj hheading)).2
  cases blanks with
  | nil =>
    have hstate : "of ".toList.isPrefixOf (d.state.token.toList ++ rest) = false := by
      cases d.state <;> rfl
    rw [List.nil_append] at hbehind
    rw [hbehind] at hstate
    cases hstate
  | cons first blanks =>
    have hfirst : first = 'o' := (List.cons.inj hbehind).1
    have hblank := hblanks first List.mem_cons_self
    rw [hfirst] at hblank
    cases hblank

/-- **A line is read as the device that it shows.** -/
theorem parseLine?_lineOf (h : Shown d features free) (hline : LineOf d features free line) :
    parseLine? line = some d := by
  obtain @⟨lead, gap, rest, attributes, row, hlead, hne, hgap, hperm, hmixed, hrest⟩ := hline
  have hrow : ∀ word ∈ row, IsWord word := by
    refine hmixed.isWord (fun a ha => ?_) fun word hword => (h.words word hword).1
    exact h.isWord_value (mem_attributes_iff.mp (hperm.mem_iff.mp ha))
  obtain ⟨kept, hkept, hkeptRow⟩ := trimRight_token d.state (d.serial.toList ++ gap) hrest hrow
  obtain ⟨blanks, hblanks, hsplit⟩ := splitBlank?_serial h.serial hne hgap
  obtain ⟨behind, hstate, hwords⟩ := stateOf_token d.state hkeptRow hrow
  have htrim : Text.trim (lead ++ (d.serial.toList ++ gap ++ d.state.token.toList ++ rest)) =
      d.serial.toList ++ gap ++ d.state.token.toList ++ kept := by
    rw [← hkept, Text.trim, Text.trimLeft_blank hlead]
    simp only [List.append_assoc, Text.trimLeft_word h.serial]
  have hnonempty : (d.serial.toList ++ gap ++ d.state.token.toList ++ kept).isEmpty = false := by
    simp [h.serial.1]
  unfold parseLine?
  simp only [htrim, hnonempty, not_heading h.serial hne hgap, Bool.or_self, Bool.false_eq_true,
    if_false, hsplit, Option.getD_some, Text.trimLeft_blank hblanks, trimLeft_token, hstate, hwords,
    String.ofList_toList]
  exact congrArg some (h.takeWords hperm hmixed)

/-! ## A list -/

theorem parseLine?_blank {row : List Char} (h : Blank row) : parseLine? row = none := by
  rw [parseLine?, Text.trim_blank h]
  rfl

/-- What is left of a row that heads a list still starts with the heading. -/
theorem parseLine?_heading {lead : List Char} (h : Blank lead) (more : List Char) :
    parseLine? (lead ++ (heading ++ more)) = none := by
  have hword : IsWord "devices".toList := by decide
  obtain ⟨kept, hkept⟩ := Text.exists_trimRight_append hword "List of ".toList more
  have htrim : Text.trim (lead ++ (heading ++ more)) = heading ++ kept := by
    rw [Text.trim, Text.trimLeft_blank h]
    exact hkept
  have hstart : heading.isPrefixOf (heading ++ kept) = true :=
    List.isPrefixOf_iff_prefix.mpr (List.prefix_append _ _)
  unfold parseLine?
  rw [htrim]
  simp only [hstart, Bool.or_true, if_true]

/-- A line is read as its row is, whichever line end the row has. -/
theorem parseLine?_readFrom {row : List Char} (h : ReadFrom row line) :
    parseLine? line = parseLine? row := by
  rw [parseLine?, parseLine?, h.trim]

/-- **Lines are read as the devices that they show**, in order. -/
theorem filterMap_parseLine? {ds : List Device} {lines : List (List Char)} (h : Rows ds rows)
    (hlines : List.Forall₂ ReadFrom rows lines) : lines.filterMap parseLine? = ds := by
  induction h generalizing lines with
  | nil =>
    cases hlines
    rfl
  | blank hrow _ ih =>
    obtain - | ⟨hline, hlines⟩ := hlines
    rw [List.filterMap_cons_none (by rw [parseLine?_readFrom hline, parseLine?_blank hrow]),
      ih hlines]
  | heading hlead more _ ih =>
    obtain - | ⟨hline, hlines⟩ := hlines
    rw [List.filterMap_cons_none (by rw [parseLine?_readFrom hline, parseLine?_heading hlead]),
      ih hlines]
  | device hd hrow _ ih =>
    obtain - | ⟨hline, hlines⟩ := hlines
    rw [List.filterMap_cons_some (by rw [parseLine?_readFrom hline, parseLine?_lineOf hd hrow]),
      ih hlines]

/-! ## Printed lists -/

theorem shown_bare {serial : String} (h : IsWord serial.toList) (state : DeviceState) :
    Shown (bare serial state) [] [] where
  serial := h
  product := nofun
  model := nofun
  codename := nofun
  usb := nofun
  members _ := iff_of_false List.not_mem_nil List.not_mem_nil
  plain := nofun
  remark := rfl
  words := nofun
  usable _ := rfl

theorem toList_plain (d : Device) :
    (Listed.plain d).toList = d.serial.toList ++ ['\t'] ++ d.state.token.toList := by
  have hplain : Listed.plain d = d.serial ++ "\t" ++ d.state.token := rfl
  rw [hplain, String.toList_append, String.toList_append]
  rfl

theorem lineOf_plain (d : Device) :
    LineOf (bare d.serial d.state) [] [] (Listed.plain d).toList := by
  rw [toList_plain, ← List.append_nil (_ ++ _), ← List.nil_append (_ ++ _)]
  exact .intro (d := bare d.serial d.state) .nil (by decide) (by decide) .rfl .nil (.nil .nil)

/-- A plain line shows the serial and the state, and nothing else. -/
theorem parseLine?_plain (h : IsWord d.serial.toList) :
    parseLine? (Listed.plain d).toList = some (bare d.serial d.state) :=
  parseLine?_lineOf (shown_bare h d.state) (lineOf_plain d)

theorem feed_notMem_plain (h : IsWord d.serial.toList) : '\n' ∉ (Listed.plain d).toList := by
  have hserial : '\n' ∉ d.serial.toList := fun hmem => absurd (h.2 _ hmem) (by decide)
  have htoken : '\n' ∉ d.state.token.toList := by cases d.state <;> decide
  simp [toList_plain, hserial, htoken]

theorem rows_plain {ds : List Device} (h : ∀ d ∈ ds, IsWord d.serial.toList) :
    Rows (ds.map fun d => bare d.serial d.state) (ds.map fun d => (Listed.plain d).toList) := by
  induction ds with
  | nil => exact .nil
  | cons d ds ih =>
    obtain ⟨hd, hds⟩ := List.forall_mem_cons.mp h
    exact .device (shown_bare hd d.state) (lineOf_plain d) (ih hds)

theorem laidOut_plain {ds : List Device} (h : ∀ d ∈ ds, IsWord d.serial.toList) :
    LaidOut (ds.map fun d => (Listed.plain d).toList)
      (String.join (ds.map fun d => Listed.plain d ++ "\n")).toList := by
  induction ds with
  | nil => exact .nil
  | cons d ds ih =>
    obtain ⟨hd, hds⟩ := List.forall_mem_cons.mp h
    rw [List.map_cons, List.map_cons, String.join_cons, String.toList_append,
      String.toList_append, List.append_assoc]
    exact .feed (feed_notMem_plain hd) (ih hds)

/-- **A list of devices that is printed in plain lines is read back**, as far as it is shown there. -/
theorem parseList_plain {f : Formatter} {ds : List Device} (hquiet : f.quiet = false)
    (h : ∀ d ∈ ds, IsWord d.serial.toList) :
    parseList (f.plain ds).out = ds.map fun d => bare d.serial d.state := by
  have hout : (f.plain ds).out = String.join (ds.map fun d => Listed.plain d ++ "\n") := by
    rw [Formatter.plain, hquiet]
    rfl
  rw [hout, parseList]
  exact filterMap_parseLine? (rows_plain h) (Text.lines_laidOut (laidOut_plain h))

/-! ## The whole -/

/-- **A line is read as the device that it shows**, with its attributes in any order among the words
of the remark and with any blanks between them, **and a list of such lines as their devices**, in
order, whatever line ends there are. Blank lines and headings between them show nothing. **A plain
line that is printed is read back** as far as it shows the device, **and so is a list of them.** -/
theorem devices_read_back :
    (∀ {d : Device} {features free : List (List Char)} {line : List Char},
      Shown d features free → LineOf d features free line → parseLine? line = some d) ∧
    (∀ {ds : List Device} {rows : List (List Char)} {body : List Char},
      Rows ds rows → LaidOut rows body → parseList (.ofList body) = ds) ∧
    (∀ {d : Device}, IsWord d.serial.toList →
      parseLine? (Listed.plain d).toList = some (bare d.serial d.state)) ∧
    ∀ {f : Formatter} {ds : List Device}, f.quiet = false → (∀ d ∈ ds, IsWord d.serial.toList) →
      parseList (f.plain ds).out = ds.map fun d => bare d.serial d.state := by
  refine ⟨parseLine?_lineOf, fun hrows hbody => ?_, parseLine?_plain, parseList_plain⟩
  rw [parseList, String.toList_ofList]
  exact filterMap_parseLine? hrows (Text.lines_laidOut hbody)

/-- A device that may not be used, in a line with a tab, an ideographic blank, and its attributes among
the words of the remark; a list of which it is all that is shown; and what is left of it in print. -/
theorem devices_read_back_one_row :
    parseLine? " S1\tno permissions\u3000see\ttransport_id:3 the features:b,a  usb:1-2 page ".toList =
      some ⟨"S1", .noPermissions, none, none, none, some 3, some "1-2", .ofList ["a", "b"],
        some "see the page"⟩ ∧
    parseList (.ofList ("List of devices attached".toList ++ '\n' :: ([] ++ '\r' :: '\n' ::
      (" S1\tno permissions\u3000see\ttransport_id:3 the features:b,a  usb:1-2 page ".toList ++
        '\r' :: '\n' :: [])))) =
      [⟨"S1", .noPermissions, none, none, none, some 3, some "1-2", .ofList ["a", "b"],
        some "see the page"⟩] ∧
    parseLine? (Listed.plain (⟨"S1", .noPermissions, none, none, none, some 3, some "1-2",
      .ofList ["a", "b"], some "see the page"⟩ : Device)).toList = some (bare "S1" .noPermissions) ∧
    parseList (Formatter.plain {} [(⟨"S1", .noPermissions, none, none, none, some 3, some "1-2",
      .ofList ["a", "b"], some "see the page"⟩ : Device)]).out = [bare "S1" .noPermissions] := by
  have hd : Shown ⟨"S1", .noPermissions, none, none, none, some 3, some "1-2", .ofList ["a", "b"],
      some "see the page"⟩ ["b".toList, "a".toList] ["see".toList, "the".toList, "page".toList] := by
    refine ⟨by decide, nofun, nofun, nofun, ?_, fun text => ?_, by decide, rfl, ?_, nofun⟩
    · exact fun text htext => Option.some.inj htext ▸ by decide
    · simp only [Features.mem_ofList, List.mem_cons, List.not_mem_nil, or_false, String.toList_inj]
      exact or_comm
    · simp only [← attribute?_eq_none_iff]
      decide
  have hline : LineOf ⟨"S1", .noPermissions, none, none, none, some 3, some "1-2",
      .ofList ["a", "b"], some "see the page"⟩ ["b".toList, "a".toList]
      ["see".toList, "the".toList, "page".toList]
      " S1\tno permissions\u3000see\ttransport_id:3 the features:b,a  usb:1-2 page ".toList := by
    have hrest : Follow ["see".toList, "transport_id:3".toList, "the".toList, "features:b,a".toList,
        "usb:1-2".toList, "page".toList]
        "\u3000see\ttransport_id:3 the features:b,a  usb:1-2 page ".toList :=
      (follow_iff.mpr ⟨by decide, by decide⟩).1
    have hcut : " S1\tno permissions\u3000see\ttransport_id:3 the features:b,a  usb:1-2 page ".toList =
        [' '] ++ ("S1".toList ++ ['\t'] ++ DeviceState.noPermissions.token.toList ++
          "\u3000see\ttransport_id:3 the features:b,a  usb:1-2 page ".toList) := by decide
    rw [hcut]
    have hrow : Mixed [(.transportId, "3".toList), (.features, "b,a".toList), (.usb, "1-2".toList)]
        ["see".toList, "the".toList, "page".toList] _ :=
      .word _ (.named _ _ (.word _ (.named _ _ (.named _ _ (.word _ .nil)))))
    exact .intro (by decide) (by decide) (by decide) (by decide) hrow hrest
  refine ⟨devices_read_back.1 hd hline, devices_read_back.2.1
    (@Rows.heading _ [] _ .nil " attached".toList (.blank .nil (.device hd hline .nil))) ?_,
    devices_read_back.2.2.1 hd.serial,
    devices_read_back.2.2.2 rfl (List.forall_mem_singleton.mpr hd.serial)⟩
  exact .feed (by decide) (.returnFeed (by decide) (.returnFeed (by decide) .nil))

end Device

end DebugBridge
