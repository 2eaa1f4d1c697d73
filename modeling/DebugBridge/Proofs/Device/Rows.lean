import DebugBridge.Proofs.Device.Set
import Mathlib.Data.List.Induction

/-!
# Rows of lists that start anew

Who carries out the events of a row of lists has the set of the last list. But when a second row
starts from no devices again, its events say nothing of the devices that the first row has left
behind. So one who carries out the events of several such rows may hold on to devices that are gone
for long; here stands which.

* `Diff.get?_foldl_replay` — what the events of a difference leave of any set
* `get?_carryOut` — what a row does to a set that it does not start from
* `held_exceeds_iff` — the devices that are held on to
* `held_eq_shown_iff` — when there are none
-/

namespace DebugBridge

namespace DeviceSet

variable {old new set known : DeviceSet} {events : List DeviceEvent} {serial : String}

theorem get?_eq_none_iff : set.get? serial = none ↔ ∀ d ∈ set.toList, d.serial ≠ serial := by
  rw [get?, List.find?_eq_none]
  simp only [decide_eq_true_eq, ne_eq]

theorem toList_inj : old.toList = new.toList ↔ old = new :=
  ⟨fun h => by cases old; cases new; cases h; rfl, fun h => congrArg toList h⟩

/-! ## A difference, carried out on any set -/

/-- The events of a difference are about the serials for which the sets differ. -/
theorem Diff.differs (h : Diff old new events) {e : DeviceEvent} (he : e ∈ events) :
    old.get? e.serial ≠ new.get? e.serial := by
  cases e with
  | disconnected d =>
    obtain ⟨hold, hnew⟩ := (h.disconnected d).mp he
    show old.get? d.serial ≠ new.get? d.serial
    rw [hold, hnew]
    exact Option.some_ne_none d
  | changed previous current =>
    obtain ⟨hold, hnew, hne⟩ := (h.changed previous current).mp he
    have hs : current.serial = previous.serial := (get?_eq_some_iff.mp hnew).2
    show old.get? current.serial ≠ new.get? current.serial
    rw [hs, hold, hnew]
    exact fun heq => hne (Option.some.inj heq)
  | connected d =>
    obtain ⟨hold, hnew⟩ := (h.connected d).mp he
    show old.get? d.serial ≠ new.get? d.serial
    rw [hold, hnew]
    exact (Option.some_ne_none d).symm

/-- **A difference that is carried out on any set** puts the new devices where the two sets differ,
and leaves the others alone. -/
theorem Diff.get?_foldl_replay (h : Diff old new events) (set : DeviceSet) (serial : String) :
    (events.foldl replay set).get? serial =
      if old.get? serial = new.get? serial then set.get? serial else new.get? serial := by
  by_cases heq : old.get? serial = new.get? serial
  · rw [if_pos heq]
    refine DeviceSet.get?_foldl_replay ?_ (.inr rfl)
    rintro e he rfl
    exact absurd heq (h.differs he)
  · rw [if_neg heq]
    refine DeviceSet.get?_foldl_replay ?_ (.inl ?_)
    · rintro e he rfl
      exact h.after_eq he
    · refine Classical.byContradiction fun hno => heq ?_
      exact h.get?_eq fun e he hs => hno ⟨e, he, hs⟩

/-! ## A row, carried out on any set -/

/-- Whether a list has an entry of a serial. -/
def HasEntry (snapshot : List Device) (serial : String) : Prop := ∃ d ∈ snapshot, d.serial = serial

/-- Whether some list of a row has an entry of a serial. -/
def Mentions (row : List (List Device)) (serial : String) : Prop :=
  ∃ snapshot ∈ row, HasEntry snapshot serial

/-- Whether the last list of a row has an entry of a serial. -/
def EndsWith (row : List (List Device)) (serial : String) : Prop :=
  ∃ snapshot, row.getLast? = some snapshot ∧ HasEntry snapshot serial

theorem mentions_cons {snapshot : List Device} {row : List (List Device)} :
    Mentions (snapshot :: row) serial ↔ HasEntry snapshot serial ∨ Mentions row serial := by
  simp [Mentions]

theorem EndsWith.mentions {row : List (List Device)} (h : EndsWith row serial) :
    Mentions row serial := by
  obtain ⟨snapshot, hlast, hentry⟩ := h
  exact ⟨snapshot, List.mem_of_getLast? hlast, hentry⟩

theorem get?_ofList_eq_none_iff {snapshot : List Device} :
    (ofList snapshot).get? serial = none ↔ ¬ HasEntry snapshot serial := by
  rw [get?_ofList, lastEntry, List.getLast?_eq_none_iff, List.filter_eq_nil_iff, HasEntry]
  simp

theorem get?_latest_ne_none_iff {row : List (List Device)} :
    (empty.latest row).get? serial ≠ none ↔ EndsWith row serial := by
  rcases List.eq_nil_or_concat row with rfl | ⟨before, snapshot, rfl⟩
  · simp [latest, EndsWith]
  · have hlatest : empty.latest (before.concat snapshot) = ofList snapshot := by
      rw [List.concat_eq_append, latest_append]
      rfl
    rw [hlatest, ne_eq, get?_ofList_eq_none_iff, Classical.not_not, EndsWith, List.concat_eq_append]
    simp

/-- A serial for which two sets agree once stays so. -/
theorem get?_course_of_agree (hagree : known.get? serial = set.get? serial)
    (row : List (List Device)) :
    (((known.course row).flatMap Prod.fst).foldl replay set).get? serial =
      (known.latest row).get? serial := by
  induction row generalizing known set with
  | nil => exact hagree.symm
  | cons snapshot row ih =>
    rw [course, List.flatMap_cons, List.foldl_append]
    refine ih ?_
    refine Eq.trans ?_ ((changes_diff known (ofList snapshot)).get?_foldl_replay set serial).symm
    split
    · next heq => exact heq.symm.trans hagree
    · rfl

/-- The set in which the events of a row of lists were carried out, a row that starts from no
devices. -/
def carryOut (set : DeviceSet) (row : List (List Device)) : DeviceSet :=
  ((empty.course row).flatMap Prod.fst).foldl replay set

/-- **What a row does to a set that it does not start from.** A serial that the row mentions is in
the end as the last list has it, and the others are as they were. -/
theorem get?_carryOut (set : DeviceSet) (row : List (List Device)) (serial : String) :
    (Mentions row serial → (set.carryOut row).get? serial = (empty.latest row).get? serial) ∧
      (¬ Mentions row serial → (set.carryOut row).get? serial = set.get? serial) := by
  have hcourse : ∀ known set : DeviceSet, known.get? serial = none →
      (Mentions row serial → (((known.course row).flatMap Prod.fst).foldl replay set).get? serial =
        (known.latest row).get? serial) ∧
      (¬ Mentions row serial →
        (((known.course row).flatMap Prod.fst).foldl replay set).get? serial =
          set.get? serial) := by
    induction row with
    | nil => exact fun _ _ _ => ⟨fun ⟨_, hmem, _⟩ => absurd hmem List.not_mem_nil, fun _ => rfl⟩
    | cons snapshot row ih =>
      intro known set hnone
      rw [course, List.flatMap_cons, List.foldl_append]
      have hset := (changes_diff known (ofList snapshot)).get?_foldl_replay set serial
      rw [hnone] at hset
      by_cases hentry : HasEntry snapshot serial
      · -- from the first list that has the serial on, the sets agree
        have hne : none ≠ (ofList snapshot).get? serial :=
          fun heq => get?_ofList_eq_none_iff.mp heq.symm hentry
        rw [if_neg hne] at hset
        refine ⟨fun _ => get?_course_of_agree hset.symm row, fun hno => ?_⟩
        exact absurd ⟨snapshot, List.mem_cons_self, hentry⟩ hno
      · have hgone : (ofList snapshot).get? serial = none := get?_ofList_eq_none_iff.mpr hentry
        rw [if_pos hgone.symm] at hset
        have hmentions : Mentions (snapshot :: row) serial ↔ Mentions row serial := by
          rw [mentions_cons, or_iff_right hentry]
        rw [hmentions, ← hset]
        exact ih (known.update snapshot).2 ((known.update snapshot).1.foldl replay set) hgone
  exact hcourse empty set rfl

/-! ## Rows after rows -/

/-- The set in which the events of all rows were carried out. -/
def held (rows : List (List (List Device))) : DeviceSet := rows.foldl carryOut empty

/-- The set of the last list that there was. -/
def shown (rows : List (List (List Device))) : DeviceSet :=
  rows.foldl (fun set row => if row = [] then set else empty.latest row) empty

/-- Whether a row has ended with the device of a serial, and no later row mentions it. -/
def LeftBehind (rows : List (List (List Device))) (serial : String) : Prop :=
  ∃ before row after, rows = before ++ row :: after ∧ EndsWith row serial ∧
    ∀ row' ∈ after, ¬ Mentions row' serial

/-- Whether the device of a serial has gone unnoticed: a row has ended with it, later rows do not
mention it, and one of them has a list. -/
def Unnoticed (rows : List (List (List Device))) (serial : String) : Prop :=
  ∃ before row after, rows = before ++ row :: after ∧ EndsWith row serial ∧
    (∀ row' ∈ after, ¬ Mentions row' serial) ∧ ∃ row' ∈ after, row' ≠ []

variable {rows : List (List (List Device))} {row : List (List Device)}

theorem held_concat : held (rows ++ [row]) = (held rows).carryOut row := List.foldl_append

theorem shown_concat :
    shown (rows ++ [row]) = if row = [] then shown rows else empty.latest row :=
  List.foldl_append

theorem Unnoticed.leftBehind (h : Unnoticed rows serial) : LeftBehind rows serial := by
  obtain ⟨before, row, after, hrows, hends, hno, -⟩ := h
  exact ⟨before, row, after, hrows, hends, hno⟩

/-- The rows that a row is followed by end with the last one, or there are none. -/
theorem concat_eq_append_cons_iff {before after : List (List (List Device))}
    {last : List (List Device)} :
    rows ++ [last] = before ++ row :: after ↔
      (after = [] ∧ rows = before ∧ last = row) ∨
        ∃ after', after = after' ++ [last] ∧ rows = before ++ row :: after' := by
  constructor
  · intro h
    rcases List.eq_nil_or_concat after with rfl | ⟨after', last', rfl⟩
    · obtain ⟨hrows, hlast⟩ := List.append_inj' h rfl
      exact .inl ⟨rfl, hrows, List.singleton_inj.mp hlast⟩
    · rw [List.concat_eq_append, ← List.cons_append, ← List.append_assoc] at h
      obtain ⟨hrows, hlast⟩ := List.append_inj' h rfl
      obtain rfl := List.singleton_inj.mp hlast
      exact .inr ⟨after', List.concat_eq_append, hrows⟩
  · rintro (⟨rfl, rfl, rfl⟩ | ⟨after', rfl, rfl⟩)
    · rfl
    · rw [List.append_assoc, List.cons_append]

theorem none_mentions_concat :
    (∀ row' ∈ rows ++ [row], ¬ Mentions row' serial) ↔
      (∀ row' ∈ rows, ¬ Mentions row' serial) ∧ ¬ Mentions row serial := by
  rw [List.forall_mem_append, List.forall_mem_singleton]

theorem leftBehind_concat :
    LeftBehind (rows ++ [row]) serial ↔
      EndsWith row serial ∨ (LeftBehind rows serial ∧ ¬ Mentions row serial) := by
  constructor
  · rintro ⟨before, row', after, hrows, hends, hno⟩
    rcases concat_eq_append_cons_iff.mp hrows with ⟨-, -, rfl⟩ | ⟨after', rfl, rfl⟩
    · exact .inl hends
    · obtain ⟨hno, hlast⟩ := none_mentions_concat.mp hno
      exact .inr ⟨⟨before, row', after', rfl, hends, hno⟩, hlast⟩
  · rintro (hends | ⟨⟨before, row', after, rfl, hends, hno⟩, hlast⟩)
    · exact ⟨rows, row, [], rfl, hends, fun _ h => absurd h List.not_mem_nil⟩
    · exact ⟨before, row', after ++ [row], by simp, hends, none_mentions_concat.mpr ⟨hno, hlast⟩⟩

theorem unnoticed_concat :
    Unnoticed (rows ++ [row]) serial ↔
      ¬ Mentions row serial ∧
        (Unnoticed rows serial ∨ (LeftBehind rows serial ∧ row ≠ [])) := by
  constructor
  · rintro ⟨before, row', after, hrows, hends, hno, r, hr, hne⟩
    rcases concat_eq_append_cons_iff.mp hrows with ⟨rfl, -, -⟩ | ⟨after', rfl, rfl⟩
    · cases hr
    · obtain ⟨hno, hlast⟩ := none_mentions_concat.mp hno
      refine ⟨hlast, ?_⟩
      rcases List.mem_append.mp hr with hr | hr
      · exact .inl ⟨before, row', after', rfl, hends, hno, r, hr, hne⟩
      · rw [List.mem_singleton.mp hr] at hne
        exact .inr ⟨⟨before, row', after', rfl, hends, hno⟩, hne⟩
  · rintro ⟨hlast, h⟩
    obtain ⟨before, row', after, rfl, hends, hno, r, hr, hne⟩ : ∃ before row' after,
        rows = before ++ row' :: after ∧ EndsWith row' serial ∧
          (∀ r ∈ after, ¬ Mentions r serial) ∧ ∃ r ∈ after ++ [row], r ≠ [] := by
      rcases h with ⟨before, row', after, hrows, hends, hno, r, hr, hne⟩ |
        ⟨⟨before, row', after, hrows, hends, hno⟩, hne⟩
      · exact ⟨before, row', after, hrows, hends, hno, r, List.mem_append_left _ hr, hne⟩
      · exact ⟨before, row', after, hrows, hends, hno, row,
          List.mem_append_right _ List.mem_cons_self, hne⟩
    exact ⟨before, row', after ++ [row], by simp, hends, none_mentions_concat.mpr ⟨hno, hlast⟩, r,
      hr, hne⟩

/-- A serial is held exactly if some row has left it behind. -/
theorem get?_held_ne_none_iff : (held rows).get? serial ≠ none ↔ LeftBehind rows serial := by
  induction rows using List.reverseRecOn with
  | nil => simp [held, LeftBehind]
  | append_singleton rows row ih =>
    obtain ⟨hmentions, hno⟩ := get?_carryOut (held rows) row serial
    rw [held_concat, leftBehind_concat]
    by_cases h : Mentions row serial
    · rw [hmentions h, get?_latest_ne_none_iff]
      simp [h]
    · have hends : ¬ EndsWith row serial := fun hends => h hends.mentions
      rw [hno h, ih]
      simp [h, hends]

/-- **The devices that are held on to although they are not shown are those that have gone
unnoticed.** -/
theorem held_exceeds_iff :
    ((held rows).get? serial ≠ none ∧ (shown rows).get? serial = none) ↔
      Unnoticed rows serial := by
  induction rows using List.reverseRecOn with
  | nil => simp [held, Unnoticed]
  | append_singleton rows row ih =>
    obtain ⟨hmentions, hno⟩ := get?_carryOut (held rows) row serial
    rw [held_concat, shown_concat, unnoticed_concat]
    -- a row of no lists shows nothing new, so that nobody can miss anything behind it
    by_cases hrow : row = []
    · have h : ¬ Mentions row serial := by simp [hrow, Mentions]
      rw [hno h, if_pos hrow, ih, and_iff_right h, or_iff_left fun hor => hor.2 hrow]
    · rw [if_neg hrow]
      by_cases h : Mentions row serial
      · rw [hmentions h]
        simp [h]
      · have hlatest : (empty.latest row).get? serial = none := by
          refine Classical.byContradiction fun hne => h ?_
          exact (get?_latest_ne_none_iff.mp hne).mentions
        rw [hno h, hlatest, get?_held_ne_none_iff, and_iff_left rfl, and_iff_right h,
          and_iff_left hrow]
        exact ⟨.inr, fun hor => hor.elim Unnoticed.leftBehind id⟩

/-- What is shown is held. -/
theorem get?_held_of_shown {d : Device} (h : (shown rows).get? serial = some d) :
    (held rows).get? serial = some d := by
  induction rows using List.reverseRecOn with
  | nil => cases h
  | append_singleton rows row ih =>
    obtain ⟨hmentions, hno⟩ := get?_carryOut (held rows) row serial
    rw [shown_concat] at h
    rw [held_concat]
    by_cases hrow : row = []
    · rw [if_pos hrow] at h
      rw [hno (by simp [hrow, Mentions]), ih h]
    · rw [if_neg hrow] at h
      have hends : EndsWith row serial := by
        rw [← get?_latest_ne_none_iff, h]
        exact Option.some_ne_none d
      rw [hmentions hends.mentions, h]

/-- **What is held is what is shown, exactly if nothing has gone unnoticed.** -/
theorem held_eq_shown_iff : held rows = shown rows ↔ ∀ serial, ¬ Unnoticed rows serial := by
  constructor
  · intro heq serial h
    obtain ⟨hheld, hshown⟩ := held_exceeds_iff.mpr h
    rw [heq] at hheld
    exact hheld hshown
  · intro hno
    apply ext_get?
    intro serial
    cases hshown : (shown rows).get? serial with
    | some d => exact get?_held_of_shown hshown
    | none =>
      refine Classical.byContradiction fun hheld => hno serial ?_
      exact held_exceeds_iff.mp ⟨hheld, hshown⟩

end DeviceSet

end DebugBridge
