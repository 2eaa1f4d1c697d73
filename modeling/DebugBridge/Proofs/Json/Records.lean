import DebugBridge.Device.Json
import DebugBridge.Forward.Json
import DebugBridge.Proofs.Forward.Spec
import DebugBridge.Proofs.Json.RoundTrip

/-!
# Devices and forwards survive their JSON form

A record is written as an object of the fields that it has, and an object of these is read to the
same fields again: one that is absent is found to be absent. What is left is that each field is
read back from its own value, and that the object survives its text.

* `fields?_present` — the fields of a record are found again, the absent ones as absent
* `Features.ofList_toList` — a set is read back from its members
* `Device.ofJson?_toJson`, `ForwardEntry.ofJson?_toJson_iff` — records are read back
* `records_survive` — and so they are from their texts
-/

namespace DebugBridge

/-! ## Fields -/

namespace Json

/-- The members of an object that has the fields that are there, by their names. -/
def present (fields : List (String × Option Json)) : List (String × Json) :=
  fields.filterMap fun field => field.2.map (field.1, ·)

theorem members?_append (members members' : List (String × Json)) (name : String) :
    members? (members ++ members') name = members? members name ++ members? members' name := by
  simp [members?]

theorem present_append (fields fields' : List (String × Option Json)) :
    present (fields ++ fields') = present fields ++ present fields' :=
  List.filterMap_append

theorem present_nil : present [] = [] := rfl

theorem present_cons (name : String) (value : Option Json) (fields : List (String × Option Json)) :
    present ((name, value) :: fields) = (value.map (name, ·)).toList ++ present fields := by
  cases value <;> rfl

theorem optional_eq (name : String) (text : Option String) :
    optional name text = ((text.map Json.string).map (name, ·)).toList := by
  cases text <;> rfl

/-- Nothing is found under a name that no field has. -/
theorem members?_present_of_notMem {fields : List (String × Option Json)} {name : String}
    (h : name ∉ fields.map (·.1)) : members? (present fields) name = [] := by
  rw [members?, List.map_eq_nil_iff, List.filter_eq_nil_iff]
  rintro member hmember heq
  obtain ⟨field, hfield, hv⟩ := List.mem_filterMap.mp hmember
  obtain ⟨v, -, rfl⟩ := Option.map_eq_some_iff.mp hv
  exact h (List.mem_map.mpr ⟨field, hfield, of_decide_eq_true heq⟩)

/-- A field is found under its name, if it is there. -/
theorem members?_present {fields : List (String × Option Json)}
    (hnames : (fields.map (·.1)).Nodup) {field : String × Option Json} (h : field ∈ fields) :
    members? (present fields) field.1 = field.2.toList := by
  obtain ⟨before, after, rfl⟩ := List.append_of_mem h
  rw [List.map_append, List.map_cons, List.nodup_append] at hnames
  obtain ⟨-, hafter, hbefore⟩ := hnames
  have hbefore : field.1 ∉ before.map (·.1) := fun hmem =>
    hbefore _ hmem _ List.mem_cons_self rfl
  have hafter : field.1 ∉ after.map (·.1) := (List.nodup_cons.mp hafter).1
  have hself : members? (present [field]) field.1 = field.2.toList := by
    obtain ⟨name, value⟩ := field
    cases value <;> simp [present, members?]
  rw [present_append, ← List.singleton_append, present_append, members?_append, members?_append,
    members?_present_of_notMem hbefore, members?_present_of_notMem hafter, hself,
    List.nil_append, List.append_nil]

/-- Readings that all succeed. -/
theorem mapM_map {α β γ : Type} {f : β → Option γ} {g : α → β} {h : α → γ} {xs : List α}
    (hall : ∀ x ∈ xs, f (g x) = some (h x)) : (xs.map g).mapM f = some (xs.map h) := by
  induction xs with
  | nil => rfl
  | cons x xs ih =>
    obtain ⟨hx, hxs⟩ := List.forall_mem_cons.mp hall
    rw [List.map_cons, List.mapM_cons, hx, ih hxs]
    rfl

/-- **The fields of a record are found again**, the absent ones as absent. -/
theorem fields?_present (fields : List (String × Option Json))
    (hnames : (fields.map (·.1)).Nodup) :
    (Json.object (present fields)).fields? (fields.map (·.1)) = some (fields.map (·.2)) := by
  refine mapM_map fun field hfield => ?_
  rw [members?_present hnames hfield]
  obtain ⟨name, value⟩ := field
  cases value <;> rfl

/-! ## Values -/

theorem mapM_text? (texts : List String) : (texts.map Json.string).mapM text? = some texts := by
  have h : (texts.map Json.string).mapM text? = some (texts.map id) := mapM_map fun _ _ => rfl
  rwa [List.map_id] at h

theorem word?_ofWord (word : UInt32) : (ofWord word).word? = some word := by
  have hbelow : (ofWord word).below? UInt32.size = some word.toNat := by
    have hsize : (word.toNat : Int) < UInt32.size := Int.ofNat_lt.mpr word.toNat_lt_size
    rw [ofWord, below?, if_pos, Int.toNat_natCast]
    rw [Bool.and_eq_true, decide_eq_true_iff, decide_eq_true_iff]
    exact ⟨Int.natCast_nonneg _, hsize⟩
  rw [word?, hbelow, Option.map_some, UInt32.ofNat_toNat]

end Json

/-! ## Sets -/

namespace Features

theorem insertInto_of_below {text : String} {texts : List String} (h : ∀ t ∈ texts, t < text) :
    insertInto text texts = texts ++ [text] := by
  induction texts with
  | nil => rfl
  | cons other rest ih =>
    obtain ⟨hother, hrest⟩ := List.forall_mem_cons.mp h
    rw [insertInto, if_neg (String.lt_asymm hother), if_neg (Ne.symm (String.ne_of_lt hother)),
      ih hrest, List.cons_append]

/-- **A set is the set of its members.** -/
theorem ofList_toList (set : Features) : ofList set.toList = set := by
  have hall : ∀ (rest : List String) (before : Features),
      (before.toList ++ rest).Pairwise (· < ·) →
        (rest.foldl (fun set text => set.insert text) before).toList = before.toList ++ rest := by
    intro rest
    induction rest with
    | nil => intro before _; rw [List.foldl_nil, List.append_nil]
    | cons text rest ih =>
      intro before h
      have hbelow : ∀ t ∈ before.toList, t < text := fun t ht =>
        (List.pairwise_append.mp h).2.2 t ht text List.mem_cons_self
      have hinsert : (before.insert text).toList = before.toList ++ [text] :=
        insertInto_of_below hbelow
      rw [List.foldl_cons, ih _ (by rw [hinsert]; simpa using h), hinsert, List.append_assoc,
        List.singleton_append]
  have hlist : (ofList set.toList).toList = set.toList := hall set.toList .empty set.ascending
  cases set
  cases hset : ofList _
  simp_all

end Features

/-! ## Devices -/

theorem DeviceState.ofJson?_toJson (state : DeviceState) : ofJson? state.toJson = some state := by
  cases state <;> rfl

namespace Device

/-- The fields of a device by their names, with the JSON of those that it has. -/
def jsonFields (d : Device) : List (String × Option Json) :=
  [("serial", some (.string d.serial)), ("state", some d.state.toJson),
    ("product", d.product.map .string), ("model", d.model.map .string),
    ("name", d.codename.map .string), ("transport_id", d.transportId.map .ofWord),
    ("usb", d.usb.map .string),
    ("features",
      if d.features.isEmpty then none else some (.array (d.features.toList.map .string))),
    ("message", d.remark.map .string)]

theorem jsonFields_names (d : Device) : d.jsonFields.map (·.1) = fieldNames := rfl

/-- **A device is written as the object of the fields that it has.** -/
theorem toJson_eq (d : Device) : d.toJson = .object (Json.present d.jsonFields) := by
  have hid : d.transportId.map (fun id => ("transport_id", Json.ofWord id)) =
      (d.transportId.map Json.ofWord).map ("transport_id", ·) := by
    rw [Option.map_map]
    rfl
  have hfeatures : (if d.features.isEmpty then []
      else [("features", Json.array (d.features.toList.map .string))]) =
      ((if d.features.isEmpty then none
        else some (Json.array (d.features.toList.map .string))).map ("features", ·)).toList := by
    split <;> rfl
  rw [toJson, jsonMembers, jsonFields, hfeatures, hid]
  simp only [Json.present_cons, Json.optional_eq, Json.present_nil, List.append_assoc,
    List.append_nil]
  rfl

theorem optionalField?_text (text : Option String) :
    optionalField? Json.text? (text.map .string) = some text := by
  cases text <;> rfl

theorem optionalField?_word (word : Option UInt32) :
    optionalField? Json.word? (word.map .ofWord) = some word := by
  cases word with
  | none => rfl
  | some word =>
    have hread : (Json.ofWord word).orNull? Json.word? = ((Json.ofWord word).word?).map some := by
      rw [Json.ofWord, Json.orNull?]
      nofun
    rw [Option.map_some, optionalField?, hread, Json.word?_ofWord, Option.map_some]

theorem featuresField?_features (features : Features) :
    featuresField? (if features.isEmpty then none
      else some (.array (features.toList.map .string))) = some features := by
  split
  · next h =>
    have hempty : features = .empty := by
      cases features
      simpa [Features.isEmpty, Features.empty] using h
    rw [hempty]
    rfl
  · rw [featuresField?, Json.mapM_text?, Option.map_some, Features.ofList_toList]

/-- **A device is read back from its JSON.** -/
theorem ofJson?_toJson (d : Device) : ofJson? d.toJson = some d := by
  have hfields := Json.fields?_present d.jsonFields (by rw [jsonFields_names]; decide)
  rw [jsonFields_names] at hfields
  rw [ofJson?, toJson_eq, hfields]
  simp only [jsonFields, List.map_cons, List.map_nil, Option.bind_eq_bind, Option.bind_some,
    Json.text?, DeviceState.ofJson?_toJson, optionalField?_text, optionalField?_word,
    featuresField?_features]

end Device

/-! ## Forwards -/

variable {spec : ForwardSpec}

theorem ForwardSpec.ofJson?_toJson_iff : ofJson? spec.toJson = some spec ↔ spec.Readable := by
  show parse? spec.render = some spec ↔ _
  constructor
  · intro h
    exact ⟨spec.render, by rw [parse, h]⟩
  · exact fun h => parse?_render (readable_iff.mp h)

theorem ForwardSpec.readable_of_ofJson? {v : Json} (h : ofJson? v = some spec) :
    spec.Readable := by
  obtain ⟨text, -, htext⟩ := Option.bind_eq_some_iff.mp h
  exact ⟨text, by rw [parse, htext]⟩

namespace ForwardEntry

theorem readable_of_ofJson? {e : ForwardEntry} {v : Json} (h : ofJson? v = some e) :
    e.localSpec.Readable ∧ e.remoteSpec.Readable := by
  obtain ⟨fields, -, h⟩ := Option.bind_eq_some_iff.mp h
  split at h
  · obtain ⟨serial, -, h⟩ := Option.bind_eq_some_iff.mp h
    obtain ⟨here, hhere, h⟩ := Option.bind_eq_some_iff.mp h
    obtain ⟨there, hthere, h⟩ := Option.bind_eq_some_iff.mp h
    obtain rfl := Option.some.inj h
    exact ⟨ForwardSpec.readable_of_ofJson? hhere, ForwardSpec.readable_of_ofJson? hthere⟩
  · cases h

/-- **A forward is read back from its JSON exactly if its specs can be read from some text.** -/
theorem ofJson?_toJson_iff {e : ForwardEntry} :
    ofJson? e.toJson = some e ↔ e.localSpec.Readable ∧ e.remoteSpec.Readable := by
  have hread : ofJson? e.toJson =
      (ForwardSpec.ofJson? e.localSpec.toJson).bind fun here =>
        (ForwardSpec.ofJson? e.remoteSpec.toJson).bind fun there => some ⟨e.serial, here, there⟩ :=
    rfl
  constructor
  · exact readable_of_ofJson?
  · rintro ⟨hlocal, hremote⟩
    rw [hread, ForwardSpec.ofJson?_toJson_iff.mpr hlocal,
      ForwardSpec.ofJson?_toJson_iff.mpr hremote]
    rfl

end ForwardEntry

/-! ## Texts -/

namespace Json

variable {α : Type} {read : Json → Option α} {write : α → Json} {a : α}

/-- A record is read back from both texts of its JSON. -/
def Survives (read : Json → Option α) (write : α → Json) (a : α) : Prop :=
  (parse? (write a).compactText >>= read) = some a ∧ (parse? (write a).prettyText >>= read) = some a

theorem survives_iff (h : (write a).Proper) : Survives read write a ↔ read (write a) = some a := by
  rw [Survives, parse?_compactText h, parse?_prettyText h]
  exact and_self_iff

end Json

theorem Device.toJson_proper (d : Device) : d.toJson.Proper := by
  rw [toJson_eq]
  refine .object fun member hmember => ?_
  obtain ⟨field, hfield, hv⟩ := List.mem_filterMap.mp hmember
  obtain ⟨v, hvalue, rfl⟩ := Option.map_eq_some_iff.mp hv
  have htext : ∀ text : Option String, text.map Json.string = some v → v.Proper := by
    intro text h
    obtain ⟨text, -, rfl⟩ := Option.map_eq_some_iff.mp h
    exact .string text
  simp only [jsonFields, List.mem_cons, List.not_mem_nil, or_false] at hfield
  rcases hfield with rfl | rfl | rfl | rfl | rfl | rfl | rfl | rfl | rfl
  · exact htext (some _) hvalue
  · exact htext (some _) hvalue
  · exact htext _ hvalue
  · exact htext _ hvalue
  · exact htext _ hvalue
  · obtain ⟨word, -, rfl⟩ := Option.map_eq_some_iff.mp hvalue
    exact .integer _
  · exact htext _ hvalue
  · obtain ⟨-, hfeatures⟩ := Option.ite_none_left_eq_some.mp hvalue
    obtain rfl := Option.some.inj hfeatures
    refine .array fun item hitem => ?_
    obtain ⟨text, -, rfl⟩ := List.mem_map.mp hitem
    exact .string text
  · exact htext _ hvalue

theorem ForwardSpec.toJson_proper (spec : ForwardSpec) : spec.toJson.Proper := .string _

theorem ForwardEntry.toJson_proper (e : ForwardEntry) : e.toJson.Proper := by
  refine .object fun member hmember => ?_
  simp only [List.mem_cons, List.not_mem_nil, or_false] at hmember
  rcases hmember with rfl | rfl | rfl
  · exact .string _
  · exact e.localSpec.toJson_proper
  · exact e.remoteSpec.toJson_proper

theorem Device.survives (d : Device) : Json.Survives ofJson? toJson d :=
  (Json.survives_iff d.toJson_proper).mpr d.ofJson?_toJson

theorem ForwardSpec.survives_iff :
    Json.Survives ofJson? toJson spec ↔ spec.Readable :=
  (Json.survives_iff spec.toJson_proper).trans ofJson?_toJson_iff

theorem ForwardEntry.survives_iff {e : ForwardEntry} :
    Json.Survives ofJson? toJson e ↔ e.localSpec.Readable ∧ e.remoteSpec.Readable :=
  (Json.survives_iff e.toJson_proper).trans ofJson?_toJson_iff

/-- **Devices and forwards survive their JSON form.** A device does, whatever texts it holds, and is
written without the fields that it lacks; a forward and a spec do exactly if the specs can be read
from some text. So whatever was read from a text survives. -/
theorem records_survive :
    (∀ d : Device, Json.Survives Device.ofJson? Device.toJson d ∧
      d.toJson = .object (Json.present d.jsonFields)) ∧
    (∀ spec : ForwardSpec, Json.Survives ForwardSpec.ofJson? ForwardSpec.toJson spec ↔
      spec.Readable) ∧
    (∀ e : ForwardEntry, Json.Survives ForwardEntry.ofJson? ForwardEntry.toJson e ↔
      e.localSpec.Readable ∧ e.remoteSpec.Readable) ∧
    (∀ text, ∀ d ∈ Json.parse? text >>= Device.ofJson?,
      Json.Survives Device.ofJson? Device.toJson d) ∧
    (∀ text, ∀ spec ∈ Json.parse? text >>= ForwardSpec.ofJson?,
      Json.Survives ForwardSpec.ofJson? ForwardSpec.toJson spec) ∧
    (∀ text, ∀ e ∈ Json.parse? text >>= ForwardEntry.ofJson?,
      Json.Survives ForwardEntry.ofJson? ForwardEntry.toJson e) := by
  refine ⟨fun d => ⟨d.survives, d.toJson_eq⟩, fun spec => ForwardSpec.survives_iff,
    fun e => ForwardEntry.survives_iff, fun _ d _ => d.survives, fun text spec h => ?_,
    fun text e h => ?_⟩
  · obtain ⟨v, -, hv⟩ := Option.bind_eq_some_iff.mp h
    exact ForwardSpec.survives_iff.mpr (ForwardSpec.readable_of_ofJson? hv)
  · obtain ⟨v, -, hv⟩ := Option.bind_eq_some_iff.mp h
    exact ForwardEntry.survives_iff.mpr (ForwardEntry.readable_of_ofJson? hv)

end DebugBridge
