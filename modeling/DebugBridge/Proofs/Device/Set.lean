import DebugBridge.Device.Set

/-!
# Device sets as maps, and what a new list changes

A set of devices is a map from serials to devices: two sets that give the same device for every
serial are equal. Taking a list replaces the whole map, and the events say exactly what that has
changed.

* `get?_insert`, `get?_erase`, `get?_ofList` — what each operation does to the map
* `changes_diff` — the events between two sets are their difference, in order
* `Diff.replay_eq` — carrying out a difference leads from the one set to the other
* `update_diff` — all of this for a list that is taken, and for many lists in a row
-/

namespace DebugBridge

/-- Lists in strictly ascending order are equal if they have the same members. -/
theorem eq_of_ascending {α : Type} {below : α → α → Prop} {as bs : List α}
    (hasymm : ∀ a b, below a b → ¬ below b a) (ha : as.Pairwise below) (hb : bs.Pairwise below)
    (hmem : ∀ a, a ∈ as ↔ a ∈ bs) : as = bs := by
  have hne : ∀ {a b}, below a b → a ≠ b := by
    rintro a b hlt rfl
    exact hasymm a a hlt hlt
  refine List.Perm.eq_of_pairwise ?_ ha hb
    ((List.perm_ext_iff_of_nodup (ha.imp hne) (hb.imp hne)).mpr hmem)
  exact fun a b _ _ hlt hgt => absurd hgt (hasymm a b hlt)

namespace DeviceSet

/-! ## The map of a set -/

theorem find?_of_mem {d : Device} {devices : List Device}
    (h : devices.Pairwise (·.serial < ·.serial)) (hd : d ∈ devices) :
    devices.find? (·.serial = d.serial) = some d := by
  induction devices with
  | nil => cases hd
  | cons e rest ih =>
    obtain ⟨below, h⟩ := List.pairwise_cons.mp h
    rcases List.mem_cons.mp hd with rfl | hd
    · simp
    · have hne : e.serial ≠ d.serial := by
        intro heq
        exact String.lt_irrefl _ (heq ▸ below d hd)
      rw [List.find?_cons_of_neg (by simpa using hne), ih h hd]

/-- A set gives the device that it holds of a serial. -/
theorem get?_eq_some_iff {set : DeviceSet} {serial : String} {d : Device} :
    set.get? serial = some d ↔ d ∈ set.toList ∧ d.serial = serial := by
  constructor
  · intro h
    exact ⟨List.mem_of_find?_eq_some h, by simpa using List.find?_some h⟩
  · rintro ⟨hmem, rfl⟩
    exact find?_of_mem set.ascending hmem

theorem mem_toList_iff {set : DeviceSet} {d : Device} :
    d ∈ set.toList ↔ set.get? d.serial = some d := by
  rw [get?_eq_some_iff, and_iff_left rfl]

@[simp] theorem get?_empty (serial : String) : empty.get? serial = none := rfl

/-- **Two sets that give the same devices are equal.** -/
theorem ext_get? {a b : DeviceSet} (h : ∀ serial, a.get? serial = b.get? serial) : a = b := by
  have heq : a.toList = b.toList := by
    refine eq_of_ascending (fun d e => String.lt_asymm) a.ascending b.ascending fun d => ?_
    rw [mem_toList_iff, mem_toList_iff, h]
  cases a
  cases b
  cases heq
  rfl

theorem find?_insertInto (d : Device) (devices : List Device) (serial : String) :
    (insertInto d devices).find? (·.serial = serial) =
      if d.serial = serial then some d else devices.find? (·.serial = serial) := by
  induction devices with
  | nil => by_cases h : d.serial = serial <;> simp [insertInto, h]
  | cons e rest ih =>
    rw [insertInto]
    split
    · by_cases h : d.serial = serial <;> simp [h]
    · split
      · next heq => by_cases h : d.serial = serial <;> simp [← heq, h]
      · next hne =>
        by_cases he : e.serial = serial
        · have hd : d.serial ≠ serial := fun hd => hne (hd.trans he.symm)
          simp [he, hd]
        · rw [List.find?_cons_of_neg (by simpa using he), ih,
            List.find?_cons_of_neg (by simpa using he)]

theorem get?_insert (set : DeviceSet) (d : Device) (serial : String) :
    (set.insert d).get? serial = if d.serial = serial then some d else set.get? serial :=
  find?_insertInto d set.toList serial

theorem get?_erase (set : DeviceSet) (gone serial : String) :
    (set.erase gone).get? serial = if gone = serial then none else set.get? serial := by
  apply Option.ext
  intro d
  have hmem : d ∈ (set.erase gone).toList ↔ d ∈ set.toList ∧ d.serial ≠ gone := by
    simp [erase, List.mem_filter]
  rw [get?_eq_some_iff, hmem]
  split
  · next h =>
    subst h
    simp only [reduceCtorEq, iff_false, not_and]
    intro ⟨_, hne⟩ heq
    exact hne heq
  · next h =>
    rw [get?_eq_some_iff]
    constructor
    · rintro ⟨⟨hd, _⟩, hs⟩
      exact ⟨hd, hs⟩
    · rintro ⟨hd, hs⟩
      exact ⟨⟨hd, fun heq => h (heq.symm.trans hs)⟩, hs⟩

theorem contains_eq_false_iff {set : DeviceSet} {serial : String} :
    set.contains serial = false ↔ set.get? serial = none := by
  rw [contains, Option.isSome_eq_false_iff, Option.isNone_iff_eq_none]

/-! ## The set of a list -/

/-- The last device of a serial in a list. -/
def lastEntry (snapshot : List Device) (serial : String) : Option Device :=
  (snapshot.filter (·.serial = serial)).getLast?

theorem lastEntry_cons (d : Device) (snapshot : List Device) (serial : String) :
    lastEntry (d :: snapshot) serial =
      (lastEntry snapshot serial).or (if d.serial = serial then some d else none) := by
  unfold lastEntry
  by_cases h : d.serial = serial
  · rw [List.filter_cons_of_pos (by simpa using h), List.getLast?_cons, if_pos h]
    cases (snapshot.filter (·.serial = serial)).getLast? <;> rfl
  · rw [List.filter_cons_of_neg (by simpa using h), if_neg h, Option.or_none]

theorem get?_foldl_insert (set : DeviceSet) (snapshot : List Device) (serial : String) :
    (snapshot.foldl insert set).get? serial =
      (lastEntry snapshot serial).or (set.get? serial) := by
  induction snapshot generalizing set with
  | nil => rfl
  | cons d snapshot ih =>
    rw [List.foldl_cons, ih, get?_insert, lastEntry_cons, Option.or_assoc]
    by_cases h : d.serial = serial <;> simp [h]

/-- **The set of a list has the last entry of each serial, and nothing else.** -/
theorem get?_ofList (snapshot : List Device) (serial : String) :
    (ofList snapshot).get? serial = lastEntry snapshot serial := by
  rw [ofList, get?_foldl_insert, get?_empty, Option.or_none]

/-- Without repeated serials the order of a list does not matter. -/
theorem ofList_perm {snapshot snapshot' : List Device} (hperm : snapshot.Perm snapshot')
    (hnodup : (snapshot.map (·.serial)).Nodup) : ofList snapshot = ofList snapshot' := by
  apply ext_get?
  intro serial
  rw [get?_ofList, get?_ofList, lastEntry, lastEntry]
  -- at most one entry has this serial, so that the entries of it come in one order only
  have hone : (snapshot.filter (·.serial = serial)).length ≤ 1 := by
    rw [← List.countP_eq_length_filter]
    have := List.nodup_iff_count.mp hnodup serial
    rwa [List.count, List.countP_map] at this
  have hfilter := hperm.filter (·.serial = serial)
  generalize snapshot.filter (·.serial = serial) = entries at hone hfilter
  generalize snapshot'.filter (·.serial = serial) = entries' at hfilter
  cases entries with
  | nil => rw [List.nil_perm.mp hfilter]
  | cons d rest =>
    obtain rfl : rest = [] := List.length_eq_zero_iff.mp (by simpa using hone)
    rw [List.singleton_perm.mp hfilter]

end DeviceSet

/-! ## The events between two sets -/

namespace DeviceEvent

/-- The place of a kind of event among the kinds. -/
def rank : DeviceEvent → Nat
  | .disconnected _ => 0
  | .changed .. => 1
  | .connected _ => 2

/-- The order of events: by their kinds, and those of one kind by their serials. -/
def Precedes (e f : DeviceEvent) : Prop := e.rank < f.rank ∨ e.rank = f.rank ∧ e.serial < f.serial

theorem Precedes.asymm {e f : DeviceEvent} (h : e.Precedes f) : ¬ f.Precedes e := by
  rintro (hr | ⟨hr, hs⟩)
  · rcases h with h | ⟨h, _⟩ <;> omega
  · rcases h with h | ⟨_, h⟩
    · omega
    · exact String.lt_asymm h hs

/-- What is known of the serial after an event. -/
def after : DeviceEvent → Option Device
  | .disconnected _ => none
  | .changed _ current => some current
  | .connected d => some d

end DeviceEvent

namespace DeviceSet

/-- The events are the difference of two sets: each device that went away, each that is another
one now, each that came, and nothing else; the kinds one after another, and the serials of each
kind in strictly ascending order. -/
structure Diff (old new : DeviceSet) (events : List DeviceEvent) : Prop where
  disconnected : ∀ d, .disconnected d ∈ events ↔
    old.get? d.serial = some d ∧ new.get? d.serial = none
  changed : ∀ previous current, .changed previous current ∈ events ↔
    old.get? previous.serial = some previous ∧ new.get? previous.serial = some current ∧
      previous ≠ current
  connected : ∀ d, .connected d ∈ events ↔ old.get? d.serial = none ∧ new.get? d.serial = some d
  ordered : events.Pairwise DeviceEvent.Precedes

variable {old new : DeviceSet} {events : List DeviceEvent}

/-- What becomes of a device of the old set that the new one still has. -/
def alteration (new : DeviceSet) (d : Device) : Option DeviceEvent :=
  match new.get? d.serial with
  | some current => if current = d then none else some (.changed d current)
  | none => none

theorem alteration_eq_some_iff {d : Device} {e : DeviceEvent} :
    alteration new d = some e ↔
      ∃ current, new.get? d.serial = some current ∧ d ≠ current ∧ e = .changed d current := by
  unfold alteration
  split
  · next c hc =>
    by_cases h : c = d
    · simp [h, hc]
    · simp [h, hc, Ne.symm h, eq_comm]
  · next hn => simp [hn]

theorem changes_eq (old new : DeviceSet) :
    changes old new = (old.toList.filter fun d => !new.contains d.serial).map .disconnected ++
      old.toList.filterMap (alteration new) ++
      (new.toList.filter fun d => !old.contains d.serial).map .connected := rfl

/-- An event is of one of three kinds, and of each kind there are those that there must be. -/
theorem mem_changes {e : DeviceEvent} :
    e ∈ changes old new ↔
      (∃ d, old.get? d.serial = some d ∧ new.get? d.serial = none ∧ e = .disconnected d) ∨
      (∃ d c, old.get? d.serial = some d ∧ new.get? d.serial = some c ∧ d ≠ c ∧
        e = .changed d c) ∨
      ∃ d, old.get? d.serial = none ∧ new.get? d.serial = some d ∧ e = .connected d := by
  have hgone : e ∈ (old.toList.filter fun d => !new.contains d.serial).map .disconnected ↔
      ∃ d, old.get? d.serial = some d ∧ new.get? d.serial = none ∧ e = .disconnected d := by
    simp only [List.mem_map, List.mem_filter, mem_toList_iff, Bool.not_eq_true',
      contains_eq_false_iff, and_assoc, @eq_comm _ _ e]
  have haltered : e ∈ old.toList.filterMap (alteration new) ↔
      ∃ d c, old.get? d.serial = some d ∧ new.get? d.serial = some c ∧ d ≠ c ∧
        e = .changed d c := by
    simp only [List.mem_filterMap, mem_toList_iff, alteration_eq_some_iff, exists_and_left]
  have hcome : e ∈ (new.toList.filter fun d => !old.contains d.serial).map .connected ↔
      ∃ d, old.get? d.serial = none ∧ new.get? d.serial = some d ∧ e = .connected d := by
    simp only [List.mem_map, List.mem_filter, mem_toList_iff, Bool.not_eq_true',
      contains_eq_false_iff, and_assoc, and_left_comm, @eq_comm _ _ e]
  rw [changes_eq, List.mem_append, List.mem_append, hgone, haltered, hcome, or_assoc]

/-- The events come in their order. -/
theorem changes_ordered (old new : DeviceSet) :
    (changes old new).Pairwise DeviceEvent.Precedes := by
  have hgone : ((old.toList.filter fun d => !new.contains d.serial).map
      DeviceEvent.disconnected).Pairwise DeviceEvent.Precedes := by
    rw [List.pairwise_map]
    exact (old.ascending.filter _).imp fun hlt => .inr ⟨rfl, hlt⟩
  have haltered : (old.toList.filterMap (alteration new)).Pairwise DeviceEvent.Precedes := by
    rw [List.pairwise_filterMap]
    refine old.ascending.imp ?_
    intro d d' hlt e he e' he'
    obtain ⟨c, hc, _, rfl⟩ := alteration_eq_some_iff.mp he
    obtain ⟨c', hc', _, rfl⟩ := alteration_eq_some_iff.mp he'
    -- a device that is altered keeps its serial
    have hs : c.serial = d.serial := (get?_eq_some_iff.mp hc).2
    have hs' : c'.serial = d'.serial := (get?_eq_some_iff.mp hc').2
    refine .inr ⟨rfl, ?_⟩
    show c.serial < c'.serial
    rwa [hs, hs']
  have hcome : ((new.toList.filter fun d => !old.contains d.serial).map
      DeviceEvent.connected).Pairwise DeviceEvent.Precedes := by
    rw [List.pairwise_map]
    exact (new.ascending.filter _).imp fun hlt => .inr ⟨rfl, hlt⟩
  rw [changes_eq, List.pairwise_append, List.pairwise_append]
  refine ⟨⟨hgone, haltered, ?_⟩, hcome, ?_⟩
  · intro e he f hf
    obtain ⟨d, _, rfl⟩ := List.mem_map.mp he
    obtain ⟨d', _, hd'⟩ := List.mem_filterMap.mp hf
    obtain ⟨c, _, _, rfl⟩ := alteration_eq_some_iff.mp hd'
    exact .inl Nat.zero_lt_one
  · intro e he f hf
    obtain ⟨d', _, rfl⟩ := List.mem_map.mp hf
    rcases List.mem_append.mp he with he | he
    · obtain ⟨d, _, rfl⟩ := List.mem_map.mp he
      exact .inl Nat.zero_lt_two
    · obtain ⟨d, _, hd⟩ := List.mem_filterMap.mp he
      obtain ⟨c, _, _, rfl⟩ := alteration_eq_some_iff.mp hd
      exact .inl Nat.one_lt_two

/-- **The events between two sets are their difference.** -/
theorem changes_diff (old new : DeviceSet) : Diff old new (changes old new) where
  disconnected d := by simp [mem_changes]
  changed previous current := by
    rw [mem_changes]
    constructor
    · rintro (⟨d, _, _, h⟩ | ⟨d, c, hd, hc, hne, h⟩ | ⟨d, _, _, h⟩)
      · cases h
      · cases h
        exact ⟨hd, hc, hne⟩
      · cases h
    · rintro ⟨hd, hc, hne⟩
      exact .inr (.inl ⟨previous, current, hd, hc, hne, rfl⟩)
  connected d := by simp [mem_changes]
  ordered := changes_ordered old new

/-- Two sets have one difference only. -/
theorem Diff.unique {events' : List DeviceEvent} (h : Diff old new events)
    (h' : Diff old new events') : events = events' := by
  have hmem : ∀ e, e ∈ events ↔ e ∈ events' := by
    intro e
    cases e with
    | disconnected d => rw [h.disconnected, h'.disconnected]
    | changed p c => rw [h.changed, h'.changed]
    | connected d => rw [h.connected, h'.connected]
  have hnodup : ∀ es : List DeviceEvent, es.Pairwise DeviceEvent.Precedes → es.Nodup := by
    intro es hes
    refine hes.imp ?_
    rintro e f hlt rfl
    exact hlt.asymm hlt
  refine List.Perm.eq_of_pairwise ?_ h.ordered h'.ordered ?_
  · intro e f _ _ hef hfe
    exact absurd hfe hef.asymm
  · rw [List.perm_ext_iff_of_nodup (hnodup _ h.ordered) (hnodup _ h'.ordered)]
    exact hmem

/-- A set differs from itself in nothing. -/
theorem changes_self (set : DeviceSet) : changes set set = [] := by
  have hnil : Diff set set [] := by
    constructor
    · intro d
      simp only [List.not_mem_nil, false_iff, not_and]
      intro hd
      simp [hd]
    · intro p c
      simp only [List.not_mem_nil, false_iff, not_and]
      intro hp hc
      rw [hp] at hc
      simpa using hc
    · intro d
      simp only [List.not_mem_nil, false_iff, not_and]
      intro hd
      simp [hd]
    · exact List.Pairwise.nil
  exact (changes_diff set set).unique hnil

/-! ## Carrying events out -/

theorem get?_replay (set : DeviceSet) (e : DeviceEvent) (serial : String) :
    (set.replay e).get? serial = if e.serial = serial then e.after else set.get? serial := by
  cases e with
  | connected d => exact get?_insert set d serial
  | changed previous current => exact get?_insert set current serial
  | disconnected d => exact get?_erase set d.serial serial

/-- A serial that the events speak of is as any of them leaves it, if they agree on that. -/
theorem get?_foldl_replay {set : DeviceSet} {serial : String} {known : Option Device}
    (hagree : ∀ e ∈ events, e.serial = serial → e.after = known)
    (hknown : (∃ e ∈ events, e.serial = serial) ∨ set.get? serial = known) :
    (events.foldl replay set).get? serial = known := by
  induction events generalizing set with
  | nil =>
    rcases hknown with ⟨e, he, _⟩ | hknown
    · cases he
    · exact hknown
  | cons e events ih =>
    rw [List.foldl_cons]
    refine ih (fun f hf => hagree f (List.mem_cons_of_mem _ hf)) ?_
    rw [get?_replay]
    by_cases he : e.serial = serial
    · rw [if_pos he]
      exact .inr (hagree e List.mem_cons_self he)
    · rw [if_neg he]
      rcases hknown with ⟨f, hf, hs⟩ | hknown
      · rcases List.mem_cons.mp hf with rfl | hf
        · exact absurd hs he
        · exact .inl ⟨f, hf, hs⟩
      · exact .inr hknown

/-- An event of a difference leaves its serial as the new set has it. -/
theorem Diff.after_eq (h : Diff old new events) {e : DeviceEvent} (he : e ∈ events) :
    e.after = new.get? e.serial := by
  cases e with
  | disconnected d => exact ((h.disconnected d).mp he).2.symm
  | changed previous current =>
    obtain ⟨_, hc, _⟩ := (h.changed previous current).mp he
    have hs : current.serial = previous.serial := (get?_eq_some_iff.mp hc).2
    show some current = new.get? current.serial
    rw [hs, hc]
  | connected d => exact ((h.connected d).mp he).2.symm

/-- A serial of which a difference says nothing is the same in both sets. -/
theorem Diff.get?_eq (h : Diff old new events) {serial : String}
    (hno : ∀ e ∈ events, e.serial ≠ serial) : old.get? serial = new.get? serial := by
  cases ho : old.get? serial with
  | none =>
    cases hn : new.get? serial with
    | none => rfl
    | some c =>
      obtain rfl := (get?_eq_some_iff.mp hn).2
      exact absurd rfl (hno _ ((h.connected c).mpr ⟨ho, hn⟩))
  | some p =>
    obtain rfl := (get?_eq_some_iff.mp ho).2
    cases hn : new.get? p.serial with
    | none => exact absurd rfl (hno _ ((h.disconnected p).mpr ⟨ho, hn⟩))
    | some c =>
      by_cases heq : p = c
      · rw [heq]
      · have hs : c.serial = p.serial := (get?_eq_some_iff.mp hn).2
        exact absurd hs (hno _ ((h.changed p c).mpr ⟨ho, hn, heq⟩))

/-- **Carrying out a difference leads from the one set to the other.** -/
theorem Diff.replay_eq (h : Diff old new events) : events.foldl replay old = new := by
  apply ext_get?
  intro serial
  refine get?_foldl_replay ?_ ?_
  · rintro e he rfl
    exact h.after_eq he
  · by_cases hex : ∃ e ∈ events, e.serial = serial
    · exact .inl hex
    · exact .inr (h.get?_eq fun e he hs => hex ⟨e, he, hs⟩)

/-! ## Lists in a row -/

/-- What a row of lists brings: for each of them its events, and the set that it leaves. -/
def course (set : DeviceSet) : List (List Device) → List (List DeviceEvent × DeviceSet)
  | [] => []
  | snapshot :: rest => set.update snapshot :: (set.update snapshot).2.course rest

/-- The set after a row of lists. -/
def latest (set : DeviceSet) (snapshots : List (List Device)) : DeviceSet :=
  snapshots.foldl (fun set snapshot => (set.update snapshot).2) set

theorem course_append (set : DeviceSet) (snapshots more : List (List Device)) :
    set.course (snapshots ++ more) = set.course snapshots ++ (set.latest snapshots).course more := by
  induction snapshots generalizing set with
  | nil => rfl
  | cons snapshot snapshots ih =>
    rw [List.cons_append, course, ih]
    rfl

theorem latest_append (set : DeviceSet) (snapshots more : List (List Device)) :
    set.latest (snapshots ++ more) = (set.latest snapshots).latest more := List.foldl_append

/-- Carrying out all events of a row of lists leads to the set after it. -/
theorem foldl_replay_course (set : DeviceSet) (snapshots : List (List Device)) :
    ((set.course snapshots).flatMap Prod.fst).foldl replay set = set.latest snapshots := by
  induction snapshots generalizing set with
  | nil => rfl
  | cons snapshot snapshots ih =>
    have hreplay : (set.update snapshot).1.foldl replay set = (set.update snapshot).2 :=
      (changes_diff set _).replay_eq
    rw [course, List.flatMap_cons, List.foldl_append, hreplay, ih]
    rfl

/--
**A list that is taken replaces the set, and the events are the exact difference, in order.**

The set has the last entry of each serial and nothing else. Carrying out the events leads from the
old set to the new one, also over many lists from the empty set on. Taking a list again changes
nothing, and the order of a list without repeated serials does not matter.
-/
theorem update_diff (old : DeviceSet) (snapshot : List Device) :
    (∀ serial, (old.update snapshot).2.get? serial = lastEntry snapshot serial) ∧
    Diff old (old.update snapshot).2 (old.update snapshot).1 ∧
    (old.update snapshot).1.foldl replay old = (old.update snapshot).2 ∧
    (∀ snapshots, ((empty.course snapshots).flatMap Prod.fst).foldl replay empty =
      empty.latest snapshots) ∧
    (old.update snapshot).2.update snapshot = ([], (old.update snapshot).2) ∧
    ∀ snapshot', snapshot.Perm snapshot' → (snapshot.map (·.serial)).Nodup →
      old.update snapshot' = old.update snapshot := by
  have hdiff : Diff old (old.update snapshot).2 (old.update snapshot).1 := changes_diff old _
  refine ⟨get?_ofList snapshot, hdiff, hdiff.replay_eq, foldl_replay_course empty, ?_, ?_⟩
  · exact Prod.ext (changes_self (ofList snapshot)) rfl
  · intro snapshot' hperm hnodup
    rw [update, update, ofList_perm hperm hnodup]

/-- One device goes away, one comes online and one is new, whichever of the two comes first. -/
theorem update_diff_two_devices :
    let before := ofList [⟨"S3", .online, none, none, none, none, none, .empty, none⟩,
      ⟨"S1", .offline, none, none, none, none, none, .empty, none⟩]
    let first : Device := ⟨"S1", .online, none, none, none, none, none, .empty, none⟩
    let second : Device := ⟨"S2", .online, none, none, none, none, none, .empty, none⟩
    [second, first].Perm [first, second] ∧ ([second, first].map (·.serial)).Nodup ∧
      before.update [first, second] = before.update [second, first] ∧
      (before.update [second, first]).1.map (fun e => (e.kind, e.serial)) =
        [("disconnected", "S3"), ("changed", "S1"), ("connected", "S2")] := by
  intro before first second
  have hperm : [second, first].Perm [first, second] := .swap first second []
  have hnodup : ([second, first].map (·.serial)).Nodup := by decide
  obtain ⟨_, _, _, _, _, horder⟩ := update_diff before [second, first]
  exact ⟨hperm, hnodup, horder [first, second] hperm hnodup, by decide⟩

end DeviceSet

end DebugBridge
