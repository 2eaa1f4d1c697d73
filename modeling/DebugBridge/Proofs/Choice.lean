import DebugBridge.Config

/-!
# Which device is meant

The settings keep the devices that have names in a table without an order of its own: each look at
it may go through the entries in another order. A text that means one device should mean it in
every order; where several entries fit, the answer should be that the text does not tell.

A start of a serial is looked for among all devices, and several that fit are noticed. A name, and a
serial up to case, is looked for up to the first entry that fits; so here several go unnoticed, and
the order decides.

* `find?_orders` — what a search can find first, in one order or another
* `chooseDevice_perm` — the order of the device list never matters
* `choice_settled_iff` — exactly when the choice of a device and the name of a device are settled
* `chooseDevice_two_orders` — one text, one table, two devices
-/

namespace DebugBridge.Config

/-! ## Searches in any order -/

section Orders

variable {α β : Type} {p : α → Bool} {table table' : List α}

/-- **What a search finds first, in one order or another, is whatever fits.** -/
theorem find?_orders {a : α} :
    (∃ table' : List α, table'.Perm table ∧ table'.find? p = some a) ↔
      a ∈ table ∧ p a = true := by
  constructor
  · rintro ⟨table', hperm, hfind⟩
    exact ⟨hperm.mem_iff.mp (List.mem_of_find?_eq_some hfind), List.find?_some hfind⟩
  · rintro ⟨hmem, hp⟩
    obtain ⟨before, after, rfl⟩ := List.append_of_mem hmem
    exact ⟨a :: (before ++ after), List.perm_middle.symm, List.find?_cons_of_pos hp⟩

/-- A search that finds nothing finds nothing in any order. -/
theorem find?_perm_none (h : table'.Perm table) (hnone : table.find? p = none) :
    table'.find? p = none := by
  rw [List.find?_eq_none] at hnone ⊢
  exact fun a ha => hnone a (h.mem_iff.mp ha)

/-- If all that fits looks the same, so does what is found first, in any order. -/
theorem find?_perm_map (h : table'.Perm table) (f : α → β)
    (hsame : ∀ a ∈ table, ∀ b ∈ table, p a = true → p b = true → f a = f b) :
    (table'.find? p).map f = (table.find? p).map f := by
  cases hfind : table.find? p with
  | none => rw [find?_perm_none h hfind]
  | some a =>
    cases hfind' : table'.find? p with
    | none => rw [find?_perm_none h.symm hfind'] at hfind; cases hfind
    | some b =>
      have hb := find?_orders.mp ⟨table', h, hfind'⟩
      have ha := find?_orders.mp ⟨table, .refl _, hfind⟩
      exact congrArg some (hsame b hb.1 a ha.1 hb.2 ha.2)

/-- Two orders of a list are the same list, or have more than one member. -/
theorem eq_or_many_of_perm (h : table'.Perm table) :
    table' = table ∨ (∃ a b rest, table = a :: b :: rest) ∧ ∃ a b rest, table' = a :: b :: rest := by
  match table, table', h with
  | [], [], _ => exact .inl rfl
  | [], _ :: _, h => exact absurd h.length_eq (by simp)
  | [a], table', h => exact .inl (List.perm_singleton.mp h)
  | _ :: _ :: _, [], h => exact absurd h.length_eq (by simp)
  | _ :: _ :: _, [_], h => exact absurd h.length_eq (by simp)
  | a :: b :: rest, a' :: b' :: rest', _ => exact .inr ⟨⟨a, b, rest, rfl⟩, a', b', rest', rfl⟩

end Orders

/-! ## The choice of a device -/

variable {c : Config} {wanted serial : String} {requested : Option String}
  {devices devices' : List Device} {table : List (String × Option String)}

/-- The same settings, with the table of devices in another order. -/
def inOrder (c : Config) (table : List (String × Option String)) : Config :=
  { c with devices := table }

/-- The device that a text means as the start of its serial. -/
def chooseByStart (wanted : String) (devices : List Device) : Except Failure String :=
  match devices.filter fun d =>
      (Text.lower wanted).toList.isPrefixOf (Text.lower d.serial).toList with
  | [] => .error (.deviceNotFound wanted)
  | [d] => .ok d.serial
  | _ => .error .deviceIdRequired

/-- The device that is meant when nothing is said. -/
def chooseOnline (devices : List Device) : Except Failure String :=
  match devices.filter (·.isOnline) with
  | [] => .error .noDevicesFound
  | [d] => .ok d.serial
  | _ => .error .deviceIdRequired

theorem chooseDevice_none (c : Config) (devices : List Device) :
    chooseDevice c none devices = chooseOnline devices := rfl

/-- The three ways in which a text can mean a device. -/
theorem chooseDevice_some (c : Config) (wanted : String) (devices : List Device) :
    chooseDevice c (some wanted) devices =
      if devices.any (·.serial = wanted) then .ok wanted
      else ((c.devices.find? (hasName (Text.lower wanted))).map (·.1)).elim
        (chooseByStart wanted devices) .ok := by
  rw [chooseDevice]
  dsimp only
  cases c.devices.find? (hasName (Text.lower wanted)) <;> rfl

theorem chooseByStart_perm (h : devices'.Perm devices) (wanted : String) :
    chooseByStart wanted devices' = chooseByStart wanted devices := by
  unfold chooseByStart
  rcases eq_or_many_of_perm (h.filter _) with heq | ⟨⟨a, b, rest, hmany⟩, a', b', rest', hmany'⟩
  · rw [heq]
  · rw [hmany, hmany']

theorem chooseOnline_perm (h : devices'.Perm devices) :
    chooseOnline devices' = chooseOnline devices := by
  unfold chooseOnline
  rcases eq_or_many_of_perm (h.filter _) with heq | ⟨⟨a, b, rest, hmany⟩, a', b', rest', hmany'⟩
  · rw [heq]
  · rw [hmany, hmany']

/-- **The order of the device list does not matter.** -/
theorem chooseDevice_perm (h : devices'.Perm devices) (c : Config) (requested : Option String) :
    chooseDevice c requested devices' = chooseDevice c requested devices := by
  cases requested with
  | none => rw [chooseDevice_none, chooseDevice_none, chooseOnline_perm h]
  | some wanted =>
    rw [chooseDevice_some, chooseDevice_some, chooseByStart_perm h, h.any_eq]

/-- Two devices of the settings have the name, up to case. -/
def NamedTwice (c : Config) (name : String) : Prop :=
  ∃ a ∈ c.devices, ∃ b ∈ c.devices, a ≠ b ∧ hasName (Text.lower name) a = true ∧
    hasName (Text.lower name) b = true

/-- A text is looked for among the names: it is none of the serials. -/
def IsLookedUp (wanted : String) (devices : List Device) : Prop := ∀ d ∈ devices, d.serial ≠ wanted

theorem IsLookedUp.chooseDevice_eq (h : IsLookedUp wanted devices) (c : Config) :
    chooseDevice c (some wanted) devices =
      ((c.devices.find? (hasName (Text.lower wanted))).map (·.1)).elim
        (chooseByStart wanted devices) .ok := by
  have hany : ¬ devices.any (·.serial = wanted) = true := by
    simpa [List.any_eq_true, IsLookedUp] using h
  rw [chooseDevice_some, if_neg hany]

/-- **A name that several devices have is never noticed as such**: each of them is chosen, in one
order or another, and nothing else is. -/
theorem IsLookedUp.chosen_iff (h : IsLookedUp wanted devices) (hnamed : c.NamedTwice wanted)
    {chosen : Except Failure String} :
    (∃ table, table.Perm c.devices ∧
      chooseDevice (c.inOrder table) (some wanted) devices = chosen) ↔
    ∃ entry ∈ c.devices, hasName (Text.lower wanted) entry = true ∧ chosen = .ok entry.1 := by
  constructor
  · rintro ⟨table, hperm, rfl⟩
    obtain ⟨a, ha, -, -, -, hname, -⟩ := hnamed
    cases hfind : table.find? (hasName (Text.lower wanted)) with
    | none =>
      have := List.find?_eq_none.mp hfind a (hperm.mem_iff.mpr ha)
      exact absurd hname this
    | some entry =>
      obtain ⟨hmem, hentry⟩ := find?_orders.mp ⟨table, hperm, hfind⟩
      refine ⟨entry, hmem, hentry, ?_⟩
      rw [h.chooseDevice_eq, inOrder, hfind]
      rfl
  · rintro ⟨entry, hmem, hentry, rfl⟩
    obtain ⟨table, hperm, hfind⟩ := find?_orders.mpr ⟨hmem, hentry⟩
    refine ⟨table, hperm, ?_⟩
    rw [h.chooseDevice_eq, inOrder, hfind]
    rfl

/-- The choice of a device is settled: it is the same in all orders of the device list and of the
table, and if several devices have the name that is looked for, it is that more must be said. -/
structure ChoiceSettled (c : Config) (requested : Option String) (devices : List Device) :
    Prop where
  order : ∀ table devices', table.Perm c.devices → devices'.Perm devices →
    chooseDevice (c.inOrder table) requested devices' = chooseDevice c requested devices
  several : ∀ wanted, requested = some wanted → IsLookedUp wanted devices → c.NamedTwice wanted →
    chooseDevice c requested devices = .error .deviceIdRequired

/-- A name that at most one device has means it in every order. -/
theorem chooseDevice_inOrder (htable : table.Perm c.devices) (h : ¬ c.NamedTwice wanted)
    (devices : List Device) :
    chooseDevice (c.inOrder table) (some wanted) devices =
      chooseDevice c (some wanted) devices := by
  rw [chooseDevice_some, chooseDevice_some]
  have hsame : ∀ a ∈ c.devices, ∀ b ∈ c.devices, hasName (Text.lower wanted) a = true →
      hasName (Text.lower wanted) b = true → a.1 = b.1 := by
    intro a ha b hb hna hnb
    by_cases heq : a = b
    · rw [heq]
    · exact absurd ⟨a, ha, b, hb, heq, hna, hnb⟩ h
  rw [inOrder, find?_perm_map htable (·.1) hsame]

/-- **The choice is settled exactly if no name that is looked for is that of several devices.** -/
theorem choiceSettled_iff :
    ChoiceSettled c requested devices ↔
      ∀ wanted, requested = some wanted → IsLookedUp wanted devices → ¬ c.NamedTwice wanted := by
  constructor
  · rintro hsettled wanted rfl hlooked hnamed
    -- in the order as it stands one of the devices is chosen
    obtain ⟨entry, -, -, hchosen⟩ := (hlooked.chosen_iff hnamed).mp ⟨c.devices, .refl _, rfl⟩
    have hseveral := hsettled.several wanted rfl hlooked hnamed
    rw [show c.inOrder c.devices = c from rfl, hseveral] at hchosen
    cases hchosen
  · intro h
    refine ⟨fun table devices' htable hdevices => ?_, fun wanted heq hlooked hnamed => ?_⟩
    · rw [chooseDevice_perm hdevices]
      cases requested with
      | none => rfl
      | some wanted =>
        by_cases hlooked : IsLookedUp wanted devices
        · exact chooseDevice_inOrder htable (h wanted rfl hlooked) devices
        · have hany : devices.any (·.serial = wanted) = true := by
            simpa [List.any_eq_true, IsLookedUp] using hlooked
          rw [chooseDevice_some, chooseDevice_some, if_pos hany, if_pos hany]
    · exact absurd hnamed (h wanted heq hlooked)

/-! ## The name of a device -/

/-- Whether an entry of the table is for a serial, up to case. -/
def isFor (serial : String) (entry : String × Option String) : Bool :=
  Text.lower entry.1 = Text.lower serial

/-- The name of the only device whose serial starts with a text. -/
def nameByStart (serial : String) (table : List (String × Option String)) : Option String :=
  match table.filter fun entry =>
      (Text.lower serial).toList.isPrefixOf (Text.lower entry.1).toList with
  | [(_, name)] => name
  | _ => none

theorem deviceName?_eq (c : Config) (serial : String) :
    deviceName? c serial =
      ((c.devices.find? (isFor serial)).map (·.2)).getD (nameByStart serial c.devices) := by
  rw [deviceName?]
  split
  · next hfind =>
    rw [show c.devices.find? (isFor serial) = _ from hfind]
    rfl
  · next hfind =>
    rw [show c.devices.find? (isFor serial) = _ from hfind]
    rfl

theorem nameByStart_perm (h : table.Perm c.devices) (serial : String) :
    nameByStart serial table = nameByStart serial c.devices := by
  unfold nameByStart
  rcases eq_or_many_of_perm (h.filter _) with heq | ⟨⟨a, b, rest, hmany⟩, a', b', rest', hmany'⟩
  · rw [heq]
  · rw [hmany, hmany']

/-- **If there are entries for a serial, the name in any of them is the answer**, in one order or
another, and nothing else is. -/
theorem name_iff {entry : String × Option String} (hentry : entry ∈ c.devices)
    (hfor : isFor serial entry = true) {name : Option String} :
    (∃ table, table.Perm c.devices ∧ deviceName? (c.inOrder table) serial = name) ↔
      ∃ entry ∈ c.devices, isFor serial entry = true ∧ name = entry.2 := by
  constructor
  · rintro ⟨table, hperm, rfl⟩
    cases hfind : table.find? (isFor serial) with
    | none => exact absurd hfor (List.find?_eq_none.mp hfind entry (hperm.mem_iff.mpr hentry))
    | some found =>
      obtain ⟨hmem, hfound⟩ := find?_orders.mp ⟨table, hperm, hfind⟩
      refine ⟨found, hmem, hfound, ?_⟩
      rw [deviceName?_eq, inOrder, hfind]
      rfl
  · rintro ⟨found, hmem, hfound, rfl⟩
    obtain ⟨table, hperm, hfind⟩ := find?_orders.mpr ⟨hmem, hfound⟩
    refine ⟨table, hperm, ?_⟩
    rw [deviceName?_eq, inOrder, hfind]
    rfl

/-- The name of a device is settled: it is the same in all orders of the table, and it is none if
several entries are for its serial. -/
structure NameSettled (c : Config) (serial : String) : Prop where
  order : ∀ table, table.Perm c.devices →
    deviceName? (c.inOrder table) serial = deviceName? c serial
  several : ∀ a ∈ c.devices, ∀ b ∈ c.devices, a ≠ b → isFor serial a = true →
    isFor serial b = true → deviceName? c serial = none

/-- **A name is settled exactly if entries for the same serial have no names.** -/
theorem nameSettled_iff :
    NameSettled c serial ↔ ∀ a ∈ c.devices, ∀ b ∈ c.devices, a ≠ b → isFor serial a = true →
      isFor serial b = true → a.2 = none ∧ b.2 = none := by
  constructor
  · intro hsettled a ha b hb hne hfora hforb
    have hnone := hsettled.several a ha b hb hne hfora hforb
    have hname : ∀ entry ∈ c.devices, isFor serial entry = true → entry.2 = none := by
      intro entry hentry hfor
      obtain ⟨table, hperm, hname⟩ := (name_iff hentry hfor).mpr ⟨entry, hentry, hfor, rfl⟩
      rw [← hname, hsettled.order table hperm, hnone]
    exact ⟨hname a ha hfora, hname b hb hforb⟩
  · intro h
    have hsame : ∀ a ∈ c.devices, ∀ b ∈ c.devices, isFor serial a = true →
        isFor serial b = true → a.2 = b.2 := by
      intro a ha b hb hfora hforb
      by_cases heq : a = b
      · rw [heq]
      · obtain ⟨hnonea, hnoneb⟩ := h a ha b hb heq hfora hforb
        rw [hnonea, hnoneb]
    refine ⟨fun table htable => ?_, fun a ha b hb hne hfora hforb => ?_⟩
    · rw [deviceName?_eq, deviceName?_eq, inOrder, find?_perm_map htable (·.2) hsame,
        nameByStart_perm htable]
    · obtain ⟨entry, hentry, hfor, hname⟩ :=
        (name_iff ha hfora).mp ⟨c.devices, .refl _, rfl⟩
      rw [show deviceName? c serial = entry.2 from hname, hsame entry hentry a ha hfor hfora]
      exact (h a ha b hb hne hfora hforb).1

/-! ## Main results -/

/--
**When the choice of a device is settled.**

The order of the device list never matters. The order of the table does not, and several devices
that fit are noticed, exactly if the text that is looked for is not the name of several devices of
the table; if it is, each of them is chosen in one order or another, and never is the answer that
more must be said. The name of a device is settled exactly if no two entries for its serial, up to
case, have a name; if there are entries for it, the name in each of them is the answer in one order
or another.
-/
theorem choice_settled_iff (c : Config) (requested : Option String) (devices : List Device)
    (serial : String) :
    (∀ devices', devices'.Perm devices →
      chooseDevice c requested devices' = chooseDevice c requested devices) ∧
    (ChoiceSettled c requested devices ↔
      ∀ wanted, requested = some wanted → IsLookedUp wanted devices → ¬ c.NamedTwice wanted) ∧
    (∀ wanted, requested = some wanted → IsLookedUp wanted devices → c.NamedTwice wanted →
      ∀ chosen, (∃ table, table.Perm c.devices ∧
        chooseDevice (c.inOrder table) requested devices = chosen) ↔
        ∃ entry ∈ c.devices, hasName (Text.lower wanted) entry = true ∧ chosen = .ok entry.1) ∧
    (NameSettled c serial ↔ ∀ a ∈ c.devices, ∀ b ∈ c.devices, a ≠ b → isFor serial a = true →
      isFor serial b = true → a.2 = none ∧ b.2 = none) ∧
    ∀ entry ∈ c.devices, isFor serial entry = true →
      ∀ name, (∃ table, table.Perm c.devices ∧ deviceName? (c.inOrder table) serial = name) ↔
        ∃ entry ∈ c.devices, isFor serial entry = true ∧ name = entry.2 := by
  refine ⟨fun devices' h => chooseDevice_perm h c requested, choiceSettled_iff, ?_,
    nameSettled_iff, fun entry hentry hfor name => name_iff hentry hfor⟩
  rintro wanted rfl hlooked hnamed chosen
  exact hlooked.chosen_iff hnamed

/-- The name `phone` means the one device or the other, by the order of the table; and of two
entries for one serial up to case the name in the first is taken. -/
theorem chooseDevice_two_orders :
    let phones : Config := { devices := [("A1", some "phone"), ("B2", some "Phone")] }
    let twins : Config := { devices := [("S1", some "A"), ("s1", some "A")] }
    chooseDevice phones (some "phone") [] = .ok "A1" ∧
      chooseDevice (phones.inOrder phones.devices.reverse) (some "phone") [] = .ok "B2" ∧
      ¬ ChoiceSettled phones (some "phone") [] ∧
      deviceName? twins "s1" = some "A" ∧ ¬ NameSettled twins "s1" := by
  intro phones twins
  have hname : deviceName? twins "s1" = some "A" := by decide +kernel
  refine ⟨by rfl, by rfl, fun h => ?_, hname, fun h => ?_⟩
  · exact choiceSettled_iff.mp h "phone" rfl (fun _ hd => absurd hd List.not_mem_nil)
      ⟨_, List.mem_cons_self, _, List.mem_cons_of_mem _ List.mem_cons_self, by decide,
        by decide +kernel, by decide +kernel⟩
  · have hnone := h.several _ List.mem_cons_self _ (List.mem_cons_of_mem _ List.mem_cons_self)
      (by decide) (by decide +kernel) (by decide +kernel)
    rw [hname] at hnone
    cases hnone

end DebugBridge.Config
