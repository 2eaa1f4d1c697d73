import DebugBridge.Proofs.Tracker.Subscription

/-!
# A whole run of a tracker

A run makes one attempt after the other, and what is left of each is the devices that it brought.
So the lists of all attempts count as one row of lists, however many connections they came on:
the set of devices lives through a connection that is lost, and an attempt that brings no list
changes nothing that a listener could hear.

* `work_cons` — one attempt of a run; `settle_eq`, what comes at its end
* `Showed` — what a run shows of the lists it has taken
* `run_folds_lists` — a run folds all lists into one set, and listeners hear just that
-/

namespace DebugBridge

namespace Tracker

variable {t t' t'' u : Tracker} {lists more : List (List Device)} {log log' : List Happening}

/-! ## The end of an attempt -/

/-- Whether an attempt that has brought so many lists is one too many. -/
def due (t : Tracker) (lists : Nat) : Bool :=
  0 < t.settings.restartAfter &&
    t.settings.restartAfter ≤ (if lists > 0 then 0 else t.failed) + 1

/-- The restarts that are asked for at the end of an attempt, by their numbers. -/
def calls (t : Tracker) (lists : Nat) : List Nat :=
  if t.due lists && t.settings.canRestart then [t.restarts + 1] else []

/-- A tracker that has counted an attempt. -/
def counted (t : Tracker) (lists : Nat) : Tracker :=
  { t with
    failed := if t.due lists then 0 else (if lists > 0 then 0 else t.failed) + 1
    restarts := t.restarts + (t.calls lists).length }

/-- What a tracker does at the end of an attempt. -/
def settle (t : Tracker) (lists : Nat) : Tracker :=
  let t := (t.count {} lists).enter .reconnecting
  (t.record (.pause t.settings.delay)).tick {}

/-- A restart is no event. -/
theorem heardBy_calls (t : Tracker) (lists i : Nat) :
    heardBy i ((t.calls lists).map fun n => ⟨.restart n, t.state, t.published, 0⟩) = [] := by
  rw [heardBy, List.filterMap_eq_nil_iff]
  intro h hmem
  obtain ⟨n, -, rfl⟩ := List.mem_map.mp hmem
  rfl

theorem count_eq (t : Tracker) (lists : Nat) :
    (t.count {} lists).core = (t.counted lists).core ∧
      (t.count {} lists).handled = t.handled ∧
      (t.count {} lists).happenings.toList = t.happenings.toList ++
        (t.calls lists).map fun n => ⟨.restart n, t.state, t.published, 0⟩ := by
  have hif : (0 < t.settings.restartAfter &&
      t.settings.restartAfter ≤ (if lists > 0 then 0 else t.failed) + 1) = t.due lists := rfl
  unfold count
  simp only [hif, counted, calls]
  cases hdue : t.due lists with
  | true =>
    have htick : (t.tick {}).settings.canRestart = t.settings.canRestart := rfl
    simp only [if_true, htick, Bool.true_and]
    cases hcan : t.settings.canRestart with
    | true => exact ⟨rfl, rfl, Array.toList_push⟩
    | false => exact ⟨rfl, rfl, (List.append_nil _).symm⟩
  | false => exact ⟨rfl, rfl, (List.append_nil _).symm⟩

/-- **An attempt ends with a restart, if it is one too many, and a pause.** -/
theorem settle_eq (t : Tracker) (lists : Nat) :
    ∃ entered : List Happening, (∀ h ∈ entered, h.sight.isPlain = true) ∧
      (∀ i < t.listeners, heardBy i entered = []) ∧
      (t.settle lists).core = (t.counted lists).core ∧
      ∃ pause : Happening, pause.sight = .pause t.settings.delay ∧
        (t.settle lists).happenings.toList = t.happenings.toList ++
          ((t.calls lists).map (fun n => ⟨.restart n, t.state, t.published, 0⟩) ++ entered ++
            [pause]) := by
  obtain ⟨hcore, -, hseen⟩ := t.count_eq lists
  obtain ⟨entered, henter⟩ := (t.count {} lists).enter_went .reconnecting
  have hlisteners : (t.counted lists).core.listeners = (t.count {} lists).core.listeners := by
    rw [hcore]
  let t' := (t.count {} lists).enter .reconnecting
  have hsettings : t'.settings = t.settings := by
    have := congrArg settings hcore
    exact henter.settings.trans this
  refine ⟨entered, henter.plain, ?_, ?_, ⟨_, t'.state, t'.published, 0⟩, rfl, ?_⟩
  · intro i hi
    exact henter.heard i (Nat.lt_of_lt_of_eq hi hlisteners)
  · rw [settle, core_tick, core_record, henter.core]
    exact hcore
  · rw [← hsettings, settle, happenings_tick, happenings_record, henter.happenings, hseen]
    simp only [List.append_assoc]
    rfl

/-! ## One attempt of a run -/

/-- Between two attempts: nobody has told the tracker to stop, and it has no connection. -/
structure Ready (t : Tracker) : Prop extends Free t where
  handled : t.handled = false

@[simp] theorem handled_tick (t : Tracker) : (t.tick {}).handled = t.handled := rfl

@[simp] theorem handled_record (t : Tracker) (sight : Sight) (listener : Nat) :
    (t.record sight listener).handled = t.handled := rfl

@[simp] theorem handled_enter (t : Tracker) (state : TrackerState) :
    (t.enter state).handled = t.handled := by
  unfold enter
  split
  · rfl
  · rfl

theorem handled_settle (t : Tracker) (lists : Nat) : (t.settle lists).handled = t.handled := by
  have hcount : (t.count {} lists).handled = t.handled := (t.count_eq lists).2.1
  rw [settle]
  simp only [handled_tick, handled_record, handled_enter, hcount]

theorem settle_free (ht : t.Free) (lists : Nat) : (t.settle lists).Free := by
  obtain ⟨-, -, -, hcore, -⟩ := t.settle_eq lists
  have hcut := congrArg cut hcore
  have hstopping := congrArg stopping hcore
  have hwaiting := congrArg waiting hcore
  exact ⟨hcut.trans ht.cut, hstopping.trans ht.stopping, hwaiting.trans ht.waiting⟩

/-- A tracker at the start of an attempt. -/
def opened (t : Tracker) : Tracker := ((t.tick {}).enter .connecting).tick {}

theorem work_of_waiting (ht : t.Free) {a : Attempt} {n : Nat} (rest : List Attempt)
    (h : t.opened.attempt {} a = (n, u)) (hu : u.waiting.isSome = true) :
    t.work {} (a :: rest) = u := by
  have hstop : (t.tick {}).stopping = false := ht.stopping
  unfold opened at h
  rw [work]
  simp only [hstop, h, hu, if_true]
  rfl

theorem work_of_free (ht : t.Free) {a : Attempt} {n : Nat} (rest : List Attempt)
    (h : t.opened.attempt {} a = (n, u)) (hu : u.Free) :
    t.work {} (a :: rest) = (u.settle n).work {} rest := by
  have hstop : (t.tick {}).stopping = false := ht.stopping
  have hsettle := (settle_free hu n).stopping
  unfold opened at h
  unfold settle at hsettle
  rw [work, settle]
  simp only [hstop, h, hu.waiting, hu.stopping, hsettle]
  rfl

/-- **A run makes an attempt, and then it waits on a silent connection or goes on to the next one.**
-/
theorem work_cons (ht : t.Ready) (a : Attempt) (rest : List Attempt) :
    ∃ t' log, Went t t' (a.lists t.settings.long) log ∧
      ((a.silent = true ∧ ∃ link, t.work {} (a :: rest) = { t' with waiting := some link }) ∨
        ((t'.settle (a.lists t.settings.long).length).Ready ∧
          t.work {} (a :: rest) =
            (t'.settle (a.lists t.settings.long).length).work {} rest)) := by
  obtain ⟨entered, henter⟩ := (t.tick {}).enter_went .connecting
  have hopened : Went t t.opened [] _ := (t.tick_went.step henter).trans (tick_went _)
  have hfree := hopened.free ht.toFree
  obtain ⟨t', log, hattempt, hcases⟩ := attempt_went hfree a
  rw [hopened.settings] at hattempt hcases
  refine ⟨t', _, hopened.step hattempt, ?_⟩
  rcases hcases with ⟨hover, hhandled⟩ | ⟨hsilent, link, hwait⟩
  · have hhandled : t'.handled = false := by
      refine hhandled ?_
      exact (handled_enter _ _).trans ht.handled
    refine .inr ⟨⟨settle_free (hattempt.free hfree) _, ?_⟩, ?_⟩
    · rw [handled_settle, hhandled]
    · exact work_of_free ht.toFree rest hover (hattempt.free hfree)
  · exact .inl ⟨hsilent, link, work_of_waiting ht.toFree rest hwait rfl⟩

/-! ## What a run shows -/

/-- The tracker `t` has come to `u`, and it shows of `lists` what there is to show: every listener
has heard all that they changed, and the last of them is published. -/
structure Showed (t u : Tracker) (lists : List (List Device)) (log : List Happening) : Prop where
  settings : u.settings = t.settings
  listeners : u.listeners = t.listeners
  known : u.known = t.known.latest lists
  published : u.published = if lists = [] then t.published else (t.known.latest lists).toList
  received : u.received = (t.received || !lists.isEmpty)
  happenings : u.happenings.toList = t.happenings.toList ++ log
  heard : ∀ i < t.listeners, heardBy i log = t.known.told lists

theorem Went.showed (h : Went t u lists log) : Showed t u lists log := by
  have hcore := h.core
  rw [foldl_take] at hcore
  have hpublished := congrArg published hcore
  have hreceived := congrArg received hcore
  exact ⟨h.settings, h.listeners, h.known, hpublished, hreceived, h.happenings, h.heard⟩

theorem Showed.trans (h : Showed t t' lists log) (h' : Showed t' u more log') :
    Showed t u (lists ++ more) (log ++ log') where
  settings := h'.settings.trans h.settings
  listeners := h'.listeners.trans h.listeners
  known := by rw [h'.known, h.known, DeviceSet.latest_append]
  published := by
    rw [h'.published, h.published, h.known, DeviceSet.latest_append]
    by_cases hmore : more = []
    · subst hmore
      rw [if_pos rfl, List.append_nil]
      rfl
    · rw [if_neg hmore, if_neg fun h => hmore (List.append_eq_nil_iff.mp h).2]
  received := by
    rw [h'.received, h.received]
    cases lists with
    | nil => rw [List.isEmpty_nil, Bool.not_true, Bool.or_false, List.nil_append]
    | cons devices lists => simp
  happenings := by rw [h'.happenings, h.happenings, List.append_assoc]
  heard := by
    intro i hi
    have hi' : i < t'.listeners := h.listeners ▸ hi
    rw [heardBy_append, h.heard i hi, h'.heard i hi', DeviceSet.told_append, h.known]

theorem settle_showed (t : Tracker) (lists : Nat) : ∃ log, Showed t (t.settle lists) [] log := by
  obtain ⟨entered, -, hheard, hcore, pause, hpause, hseen⟩ := t.settle_eq lists
  have hsettings := congrArg settings hcore
  have hlisteners := congrArg listeners hcore
  have hknown := congrArg known hcore
  have hpublished := congrArg published hcore
  have hreceived := congrArg received hcore
  refine ⟨_, hsettings, hlisteners, hknown, hpublished, ?_, hseen, ?_⟩
  · exact hreceived.trans (Bool.or_false _).symm
  · intro i hi
    -- the pause is no event either
    have hpause : heardBy i [pause] = [] := by
      rw [heardBy, List.filterMap_eq_nil_iff]
      intro h hmem
      rw [List.mem_singleton.mp hmem, Happening.heardBy?, hpause]
    rw [heardBy_append, heardBy_append, heardBy_calls, hheard i hi, hpause]
    rfl

/-- **The attempts of a run show the lists that they bring, as one row.** They are all made, unless
the tracker waits on a connection that has fallen silent before the last of them. -/
theorem work_showed (ht : t.Ready) (attempts : List Attempt) :
    ∃ met log, met <+: attempts ∧
      ((∀ a ∈ attempts.dropLast, a.silent = false) → met = attempts) ∧
      Showed t (t.work {} attempts) (met.flatMap (·.lists t.settings.long)) log ∧
      ((t.work {} attempts).waiting.isSome = true ∨ (t.work {} attempts).Ready) := by
  induction attempts generalizing t with
  | nil => exact ⟨[], [], List.nil_prefix, fun _ => rfl, (Went.refl t).showed, .inr ht⟩
  | cons a rest ih =>
    obtain ⟨t', log, hwent, hcases⟩ := work_cons ht a rest
    rcases hcases with ⟨hsilent, link, hwork⟩ | ⟨hready, hwork⟩
    · -- the attempt is the last one that the run makes
      refine ⟨[a], log, List.prefix_append [a] rest, fun hloud => ?_, ?_, ?_⟩
      · cases rest with
        | nil => rfl
        | cons b rest =>
          have hloud := hloud a (by simp)
          rw [hsilent] at hloud
          cases hloud
      · rw [hwork, List.flatMap_cons, List.flatMap_nil, List.append_nil]
        have hshowed := hwent.showed
        exact ⟨hshowed.settings, hshowed.listeners, hshowed.known, hshowed.published,
          hshowed.received, hshowed.happenings, hshowed.heard⟩
      · rw [hwork]
        exact .inl rfl
    · obtain ⟨log₁, hsettle⟩ := t'.settle_showed (a.lists t.settings.long).length
      have hround := hwent.showed.trans hsettle
      rw [List.append_nil] at hround
      obtain ⟨met, log₂, hmet, hall, hshowed, hrested⟩ := ih hready
      rw [hround.settings] at hshowed
      rw [hwork]
      refine ⟨a :: met, (log ++ log₁) ++ log₂, List.cons_prefix_cons.mpr ⟨rfl, hmet⟩, ?_, ?_,
        hrested⟩
      · intro hloud
        cases rest with
        | nil => rw [List.prefix_nil.mp hmet]
        | cons b rest => rw [hall fun a' ha' => hloud a' (List.mem_cons_of_mem _ ha')]
      · rw [List.flatMap_cons]
        exact hround.trans hshowed

/-! ## From the start to the end -/

/-- The tracker is not running, and nothing of an earlier run is left. -/
structure Idle (t : Tracker) : Prop where
  isRunning : t.isRunning = false
  cut : t.cut = false
  handled : t.handled = false
  waiting : t.waiting = none

/-- A new tracker is idle. -/
theorem idle_new (settings : TrackerSettings) (listeners : Nat) :
    Idle { settings, listeners } := ⟨rfl, rfl, rfl, rfl⟩

/-- What stopping leaves of a tracker. -/
def halted (t : Tracker) : Tracker :=
  let t := match t.waiting with
    | some link => { t.halt.putAway link with waiting := none }
    | none => t.halt
  { t with isRunning := false }

theorem stop_eq (t : Tracker) : t.stop = t.halted.enter .stopped := rfl

theorem Idle.enter (h : t.Idle) (state : TrackerState) : (t.enter state).Idle := by
  unfold Tracker.enter
  split
  · exact h
  · exact ⟨h.isRunning, h.cut, h.handled, h.waiting⟩

/-- A tracker that was stopped is idle again. -/
theorem idle_stop (h : t.waiting.isSome = true ∨ t.Ready) : t.stop.Idle := by
  rw [stop_eq]
  refine Idle.enter ?_ .stopped
  rw [halted]
  cases hw : t.waiting with
  | some link => exact ⟨rfl, rfl, rfl, rfl⟩
  | none =>
    rcases h with h | h
    · rw [hw] at h
      cases h
    · have hcut : t.halt.cut = false := by
        rw [halt, h.cut, h.handled]
        rfl
      exact ⟨rfl, hcut, rfl, hw⟩

theorem stop_showed (t : Tracker) : ∃ log, Showed t t.stop [] log := by
  obtain ⟨log, henter⟩ := t.halted.enter_went .stopped
  rw [stop_eq]
  have hreceived : t.received = (t.received || false) := (Bool.or_false _).symm
  have hhalted : Showed t t.halted [] [] := by
    unfold halted
    cases t.waiting with
    | none => exact ⟨rfl, rfl, rfl, rfl, hreceived, (List.append_nil _).symm, fun _ _ => rfl⟩
    | some link =>
      exact ⟨rfl, rfl, rfl, rfl, hreceived, (List.append_nil _).symm, fun _ _ => rfl⟩
  exact ⟨_, hhalted.trans henter.showed⟩

/-- A tracker at the start of a run. -/
def fresh (t : Tracker) : Tracker :=
  { t with isRunning := true, stopping := false, received := false, known := .empty, failed := 0 }

theorem start_eq (ht : t.Idle) (attempts : List Attempt) :
    t.start {} attempts = (t.fresh.enter .connecting).work {} attempts := by
  rw [start, ht.isRunning]
  rfl

theorem ready_fresh (ht : t.Idle) (state : TrackerState) : (t.fresh.enter state).Ready := by
  obtain ⟨log, henter⟩ := t.fresh.enter_went state
  have hfree : t.fresh.Free := ⟨ht.cut, rfl, ht.waiting⟩
  exact ⟨henter.free hfree, (handled_enter _ _).trans ht.handled⟩

/--
**A run folds all the lists it gets into one set, and its listeners hear just that.**

The lists are those of the attempts in order: of each connection the whole frames behind the
acceptance, up to one that is cut or malformed, and none of an attempt that was refused or rejected.
On which connection a list came makes no difference. Each listener hears the changes from one list
to the next, from no devices on; when it hears of them, the devices of that list are published
already. In the end the last set is published, in ascending order of the serials, if there was a
list at all, and that there was one can be told. The tracker can then be started again.
-/
theorem run_folds_lists (ht : t.Idle) (attempts : List Attempt) :
    ∃ met log, met <+: attempts ∧
      ((∀ a ∈ attempts.dropLast, a.silent = false) → met = attempts) ∧
      (let lists := met.flatMap (·.lists t.settings.long)
       let u := (t.start {} attempts).stop
       u.happenings.toList = t.happenings.toList ++ log ∧
       (∀ i < t.listeners, heardBy i log =
         (DeviceSet.empty.course lists).flatMap fun (events, after) =>
           events.map (·, after.toList)) ∧
       u.published =
         (if lists = [] then t.published else (DeviceSet.empty.latest lists).toList) ∧
       (t.published = [] → u.published = (DeviceSet.empty.latest lists).toList) ∧
       (u.received = true ↔ lists ≠ []) ∧
       u.Idle) := by
  obtain ⟨log₁, henter⟩ := t.fresh.enter_went .connecting
  obtain ⟨met, log₂, hmet, hall, hwork, hrested⟩ :=
    work_showed (ready_fresh ht .connecting) attempts
  obtain ⟨log₃, hstop⟩ := stop_showed ((t.fresh.enter .connecting).work {} attempts)
  have hsettings : (t.fresh.enter .connecting).settings = t.settings := henter.settings
  rw [hsettings] at hwork
  have hshowed := (henter.showed.trans hwork).trans hstop
  rw [List.append_nil, List.nil_append] at hshowed
  rw [start_eq ht]
  refine ⟨met, _, hmet, hall, hshowed.happenings, hshowed.heard, hshowed.published, ?_, ?_,
    idle_stop hrested⟩
  · intro hnone
    refine hshowed.published.trans ?_
    split
    · next hlists =>
      rw [hlists]
      exact hnone
    · rfl
  · rw [hshowed.received]
    cases met.flatMap (·.lists t.settings.long) with
    | nil => simp [fresh]
    | cons devices lists => simp [fresh]

/-- The same list comes on two connections, of which the first is cut inside its second frame and the
second is refused in between: each of two listeners hears of the device once. -/
theorem run_folds_lists_two_connections :
    ∃ (t : Tracker) (link link' : Link) (log : List Happening),
      let u := (t.start {} [.made link false, .refused, .made link' false]).stop
      let device : Device := { serial := "S1", state := .online }
      t.Idle ∧ u.happenings.toList = log ∧
        heardBy 0 log = [(.connected device, [device])] ∧
        heardBy 1 log = [(.connected device, [device])] ∧
        u.published = [device] ∧ u.received = true := by
  let device : Device := { serial := "S1", state := .online }
  let field : Bytes := Utf8.ofString "0009"
  let body : Bytes := Utf8.ofString "S1 device"
  let link : Link :=
    { inflow := .ofBytes (Reply.okayStatus ++ (field ++ body ++ Utf8.ofString "0009S1")) }
  let link' : Link := { inflow := .ofBytes (Reply.okayStatus ++ (field ++ body ++ [])) }
  have hparse : Device.parseList (String.ofList body.latin1) = [device] := by decide
  have hbodies : ∀ tail : Bytes, Frame.front? tail = none →
      Frame.bodies (field ++ body ++ tail) = [body] :=
    fun tail htail => Frame.bodies_frames [(field, body)] (by decide) htail
  have hlists : [Attempt.made link false, .refused, .made link' false].flatMap
      (·.lists ({} : TrackerSettings).long) = [[device], [device]] := by
    simp only [List.flatMap_cons, List.flatMap_nil, link, link', Attempt.lists_ofBytes,
      hbodies _ (show Frame.front? (Utf8.ofString "0009S1") = none by decide),
      hbodies _ (show Frame.front? [] = none from rfl), List.map_cons, List.map_nil, hparse]
    rfl
  obtain ⟨met, log, -, hall, hseen, hheard, -, hpublished, hreceived, -⟩ :=
    run_folds_lists (idle_new {} 2) [.made link false, .refused, .made link' false]
  have hmet := hall (by decide)
  rw [hmet, hlists] at hheard hpublished hreceived
  have hseen := hseen.trans (List.nil_append log)
  exact ⟨_, link, link', log, idle_new {} 2, hseen, hheard 0 (by decide), hheard 1 (by decide),
    hpublished rfl, hreceived.mpr (by decide)⟩

end Tracker

end DebugBridge
