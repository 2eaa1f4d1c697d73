import DebugBridge.Proofs.Device.Rows
import DebugBridge.Proofs.Tracker.Moments

/-!
# What a listener has that carries out its events

Each run of a tracker starts from no devices again, while the list that is published and the
listeners stay. So a device that goes away while the tracker is stopped is missing from the next
list, but nobody is told: who carries out all events that it hears still has the device. Otherwise
such a listener always has what is published.

* `Showed` again, for any surroundings: `Moment.Reaches.shows`
* `Took` — the lists that a tracker has taken in a row of runs
* `mirror_published_iff` — when the events lead to what is published
-/

namespace DebugBridge

theorem DeviceSet.map_fst_told (set : DeviceSet) (lists : List (List Device)) :
    (set.told lists).map Prod.fst = (set.course lists).flatMap Prod.fst := by
  rw [DeviceSet.told, List.map_flatMap]
  simp [Function.comp_def]

namespace Tracker

variable {around : Surroundings} {t t' u : Tracker} {lists taken : List (List Device)}
  {log : List Happening} {i : Nat}

/-! ## What steps show -/

/-- A step of which nobody hears. -/
theorem Saw.showed (h : Saw t u log) (hunheard : ∀ i, heardBy i log = []) : Showed t u [] log where
  settings := h.settings
  listeners := h.listeners
  known := congrArg (·.known) h.lasting
  published := h.published
  received := (congrArg (·.received) h.lasting).trans (Bool.or_false _).symm
  happenings := h.happenings
  heard i _ := hunheard i

/-- A change of what is not shown. -/
theorem showed_of_eq (hsettings : t'.settings = t.settings)
    (hlisteners : t'.listeners = t.listeners) (hknown : t'.known = t.known)
    (hpublished : t'.published = t.published) (hreceived : t'.received = t.received)
    (hseen : t'.happenings = t.happenings) : Showed t t' [] [] where
  settings := hsettings
  listeners := hlisteners
  known := hknown
  published := hpublished
  received := hreceived.trans (Bool.or_false _).symm
  happenings := by rw [hseen, List.append_nil]
  heard _ _ := rfl

theorem tick_showed (around : Surroundings) (t : Tracker) : Showed t (t.tick around) [] [] :=
  (tick_saw around t).showed fun _ => rfl

theorem enter_showed (t : Tracker) (state : TrackerState) :
    ∃ log, Showed t (t.enter state) [] log :=
  (t.enter_went state).imp fun _ => Went.showed

theorem record_showed (t : Tracker) (sight : Sight) (hsight : ∀ e known, sight ≠ .event e known) :
    ∃ log, Showed t (t.record sight) [] log := by
  refine ⟨_, (record_saw t sight 0).showed fun i => ?_⟩
  cases sight with
  | event e known => exact absurd rfl (hsight e known)
  | entered => rfl
  | attempt accepted => rfl
  | restart count => rfl
  | pause milliseconds => rfl

/-- Nobody hears of the end of an attempt. -/
theorem windUp_showed (around : Surroundings) (t : Tracker) (lists : Nat) :
    ∃ log, Showed t (t.windUp around lists) [] log := by
  have hwound := (windUp_saw around t lists).showed fun i => by
    have hentrance : heardBy i (t.entrance .reconnecting) = [] := by
      unfold entrance
      split
      · rfl
      · rfl
    rw [heardBy_append, heardBy_append, heardBy_calls, hentrance]
    rfl
  have hcounted : Showed t { t.counted lists with state := .reconnecting } [] [] :=
    showed_of_eq rfl rfl rfl rfl rfl rfl
  exact ⟨_, hcounted.trans hwound⟩

/-- **Each listener hears all that a list has changed**, when the list is published already. -/
theorem publish_showed (hquiet : around.Quiet) (t : Tracker) (devices : List Device) :
    ∃ log, Showed t (t.publish around devices) [devices] log := by
  have h := publish_saw hquiet t devices
  refine ⟨_, h.settings, h.listeners, congrArg (·.known) h.lasting,
    h.published, ?_, h.happenings, fun i hi => ?_⟩
  · exact (congrArg (·.received) h.lasting).trans (Bool.or_true _).symm
  · have hcalling : ∀ e : DeviceEvent,
        heardBy i ((t.take devices).calling e) = [(e, (t.take devices).published)] :=
      fun e => heardBy_map e _ _ _ hi
    have hall : ∀ events : List DeviceEvent,
        heardBy i (events.flatMap (t.take devices).calling) =
          events.map (·, (t.take devices).published) := by
      intro events
      induction events with
      | nil => rfl
      | cons e events ih => rw [List.flatMap_cons, heardBy_append, hcalling, ih]; rfl
    rw [hall, DeviceSet.told, DeviceSet.course, DeviceSet.course, List.flatMap_cons,
      List.flatMap_nil, List.append_nil]
    rfl

namespace Moment

variable {m m' m'' : Moment}

/-- From `m` to `m'` the tracker shows just the lists that it has taken in between. -/
def Shows (m m' : Moment) : Prop :=
  ∃ lists log, m'.taken = m.taken ++ lists ∧ Showed m.tracker m'.tracker lists log

theorem Shows.trans (h : Shows m m') (h' : Shows m' m'') : Shows m m'' := by
  obtain ⟨lists, log, htaken, hshowed⟩ := h
  obtain ⟨more, log', htaken', hshowed'⟩ := h'
  exact ⟨lists ++ more, log ++ log', by rw [htaken', htaken, List.append_assoc],
    hshowed.trans hshowed'⟩

/-- A step that takes no list. -/
theorem shows_of_showed (htaken : m'.taken = m.taken)
    (h : ∃ log, Showed m.tracker m'.tracker [] log) : Shows m m' := by
  obtain ⟨log, h⟩ := h
  exact ⟨[], log, htaken.trans (List.append_nil _).symm, h⟩

theorem goOn_shows (hquiet : around.Quiet) (m : Moment) (aim : Aim) :
    Shows m (m.goOn around aim) := by
  cases aim with
  | connect a =>
    obtain ⟨log, h⟩ := m.tracker.enter_showed .connecting
    exact shows_of_showed rfl ⟨_, h.trans (tick_showed around _)⟩
  | subscribe link silent => exact shows_of_showed rfl (m.tracker.enter_showed .subscribing)
  | take devices lists link silent =>
    obtain ⟨log, h⟩ := publish_showed hquiet m.tracker devices
    exact ⟨[devices], log, rfl, h⟩
  | count lists => exact shows_of_showed rfl (windUp_showed around m.tracker lists)
  | again => exact shows_of_showed rfl ⟨[], (Went.refl m.tracker).showed⟩

theorem giveUp_shows (m : Moment) (aim : Aim) : Shows m (m.giveUp aim) := by
  have hleave : ∃ log, Showed m.tracker ({ m.tracker with isRunning := false }.enter .stopped)
      [] log := by
    obtain ⟨log, h⟩ := enter_showed { m.tracker with isRunning := false } .stopped
    have hrunning : Showed m.tracker { m.tracker with isRunning := false } [] [] :=
      showed_of_eq rfl rfl rfl rfl rfl rfl
    exact ⟨_, hrunning.trans h⟩
  cases aim with
  | connect a => exact shows_of_showed rfl hleave
  | subscribe link silent => exact shows_of_showed rfl ⟨[], (Went.refl m.tracker).showed⟩
  | take devices lists link silent => exact shows_of_showed rfl ⟨[], (Went.refl m.tracker).showed⟩
  | count lists => exact shows_of_showed rfl hleave
  | again => exact shows_of_showed rfl hleave

/-- **From one moment to the next a tracker shows the list that it has taken, if it has taken one.**
-/
theorem next_shows (hquiet : around.Quiet) (h : m.next around = some m') : Shows m m' := by
  cases next_goes h with
  | @exhausted t => exact shows_of_showed rfl ⟨[], (Went.refl t).showed⟩
  | @upcoming t => exact shows_of_showed rfl ⟨[], tick_showed around t⟩
  | raised aim => exact giveUp_shows _ aim
  | onward aim => exact goOn_shows hquiet _ aim
  | @refused t =>
    obtain ⟨log, hrecord⟩ := t.record_showed (.attempt false) fun _ _ => by simp
    have hlinks : Showed (t.record (.attempt false))
        { t.record (.attempt false) with links := (t.record (.attempt false)).links.push none }
        [] [] :=
      showed_of_eq rfl rfl rfl rfl rfl rfl
    exact shows_of_showed rfl ⟨_, hrecord.trans hlinks⟩
  | @made t => exact shows_of_showed rfl (t.record_showed (.attempt true) fun _ _ => by simp)
  | unhandled hstep | unread hstep | read hstep =>
    exact shows_of_showed rfl ⟨[], (step_saw hstep).showed fun _ => rfl⟩
  | handled hstep =>
    have hhandle := (step_saw hstep).trans (takeHandle_saw around _)
    exact shows_of_showed rfl ⟨_, hhandle.showed fun _ => rfl⟩
  | unsubscribed hask => exact shows_of_showed rfl ⟨[], (ask_error_saw hask).showed fun _ => rfl⟩
  | subscribed hask =>
    obtain ⟨u, hsaw, htracker⟩ := ask_ok_saw hask
    obtain ⟨log, henter⟩ := u.enter_showed .tracking
    rw [← htracker] at henter
    exact shows_of_showed rfl ⟨_, (hsaw.showed fun _ => rfl).trans henter⟩
  | waits | away => exact shows_of_showed rfl ⟨[], showed_of_eq rfl rfl rfl rfl rfl rfl⟩
  | @ended t => exact shows_of_showed rfl (stop_showed t)

/-- A run shows the lists that it has taken, at every moment. -/
theorem Reaches.shows (hquiet : around.Quiet) (h : Reaches around m m') : Shows m m' := by
  refine h.keeps ⟨[], [], (List.append_nil _).symm, (Went.refl m.tracker).showed⟩ ?_
  intro m₁ m₂ hm hnext
  exact hm.trans (next_shows hquiet hnext)

/-- **At every moment of a run, what is heard and shown since its start are the lists that it has
taken.** -/
theorem Reaches.showed {attempts : List Attempt} (hquiet : around.Quiet)
    (h : Reaches around (.first t attempts) m) :
    ∃ log, Showed t.fresh m.tracker m.taken log := by
  obtain ⟨lists, log, htaken, hshowed⟩ := h.shows hquiet
  obtain ⟨log', henter⟩ := t.fresh.enter_showed .connecting
  have hall := henter.trans hshowed
  rw [htaken]
  exact ⟨_, hall⟩

end Moment

/-! ## Carrying out what is heard -/

/-- What a listener has that has carried out all that it has heard of a tracker. -/
def mirror (t : Tracker) (listener : Nat) : DeviceSet :=
  ((heardBy listener t.happenings.toList).map Prod.fst).foldl DeviceSet.replay .empty

/-- A run of which a tracker shows some lists: they are carried out as a row of their own, and the
last of them is published. -/
theorem Showed.mirror (h : Showed t.fresh u taken log) (hi : i < t.listeners) :
    u.mirror i = (t.mirror i).carryOut taken := by
  have hheard : heardBy i log = DeviceSet.empty.told taken := h.heard i hi
  have hseen : u.happenings.toList = t.happenings.toList ++ log := h.happenings
  rw [Tracker.mirror, hseen, heardBy_append, hheard, List.map_append, List.foldl_append,
    DeviceSet.map_fst_told]
  rfl

/-! ## One run after another -/

/-- A run from its start to its stop: when the stop comes, and the attempts that the tracker
meets. -/
structure Cycle where
  around : Surroundings := {}
  attempts : List Attempt

/-- Starts a tracker and stops it, once for each cycle. -/
def cycled (t : Tracker) (cycles : List Cycle) : Tracker :=
  cycles.foldl (fun t c => (t.start c.around c.attempts).stop) t

/-- In these cycles the tracker takes these rows of lists, one row in each cycle. -/
inductive Took (t : Tracker) : List Cycle → List (List (List Device)) → Prop
  | nil : Took t [] []
  | cycle {cycles rows c rest taken} (before : Took t cycles rows) (quiet : c.around.Quiet)
      (run : Moment.Reaches c.around (.first (t.cycled cycles) c.attempts)
        ⟨.stopped, t.cycled (cycles ++ [c]), rest, taken⟩) :
      Took t (cycles ++ [c]) (rows ++ [taken])

/-- How a tracker can be, and the rows of lists that it has taken until then: stopped after some
cycles, or at any moment of one more. -/
inductive Came (t : Tracker) : List (List (List Device)) → Tracker → Prop
  | stopped {cycles rows} (before : Took t cycles rows) : Came t rows (t.cycled cycles)
  | moment {cycles rows} {c : Cycle} {m : Moment} (before : Took t cycles rows)
      (quiet : c.around.Quiet)
      (run : Moment.Reaches c.around (.first (t.cycled cycles) c.attempts) m) :
      Came t (rows ++ [m.taken]) m.tracker

theorem cycled_concat (t : Tracker) (cycles : List Cycle) (c : Cycle) :
    t.cycled (cycles ++ [c]) = ((t.cycled cycles).start c.around c.attempts).stop :=
  List.foldl_append

theorem waiting_stop (t : Tracker) : t.stop.waiting = none := by
  rw [stop_eq, waiting_enter, halted]
  cases hw : t.waiting with
  | some link => rfl
  | none => exact hw

theorem isRunning_stop (t : Tracker) : t.stop.isRunning = false := by
  rw [stop_eq]
  unfold enter
  split
  · rfl
  · rfl

/-- Between cycles a tracker neither runs nor waits. -/
theorem cycled_idle (ht : t.isRunning = false) (hw : t.waiting = none) (cycles : List Cycle) :
    (t.cycled cycles).isRunning = false ∧ (t.cycled cycles).waiting = none := by
  rcases List.eq_nil_or_concat cycles with rfl | ⟨before, c, rfl⟩
  · exact ⟨ht, hw⟩
  · rw [List.concat_eq_append, cycled_concat]
    exact ⟨isRunning_stop _, waiting_stop _⟩

/-- All cycles take some rows. -/
theorem took_cycled (ht : t.isRunning = false) (hw : t.waiting = none) (cycles : List Cycle)
    (hquiet : ∀ c ∈ cycles, c.around.Quiet) : ∃ rows, Took t cycles rows := by
  induction cycles using List.reverseRecOn with
  | nil => exact ⟨[], .nil⟩
  | append_singleton cycles c ih =>
    obtain ⟨rows, hrows⟩ := ih fun c hc => hquiet c (List.mem_append_left _ hc)
    obtain ⟨hrunning, hwaiting⟩ := cycled_idle ht hw cycles
    obtain ⟨rest, taken, hrun⟩ : ∃ rest taken, Moment.Reaches c.around
        (.first (t.cycled cycles) c.attempts)
        ⟨.stopped, ((t.cycled cycles).start c.around c.attempts).stop, rest, taken⟩ :=
      Moment.reaches_stop c.attempts hrunning hwaiting
    rw [← cycled_concat] at hrun
    exact ⟨_, hrows.cycle (hquiet c (List.mem_append_right _ List.mem_cons_self)) hrun⟩

/-- What a new tracker has published and what its listeners have, when it has taken these rows. -/
structure Reflects (n : Nat) (rows : List (List (List Device))) (u : Tracker) : Prop where
  listeners : u.listeners = n
  mirror : ∀ i < n, u.mirror i = DeviceSet.held rows
  published : u.published = (DeviceSet.shown rows).toList

/-- One more row. -/
theorem Reflects.concat {n : Nat} {rows : List (List (List Device))} (h : Reflects n rows t)
    (hshowed : Showed t.fresh u taken log) : Reflects n (rows ++ [taken]) u where
  listeners := hshowed.listeners.trans h.listeners
  mirror i hi := by
    rw [hshowed.mirror (h.listeners ▸ hi), h.mirror i hi, DeviceSet.held_concat]
  published := by
    have hpublished : u.published =
        if taken = [] then t.published else (DeviceSet.empty.latest taken).toList :=
      hshowed.published
    rw [hpublished, DeviceSet.shown_concat]
    split
    · exact h.published
    · rfl

theorem Took.reflects {settings : TrackerSettings} {listeners : Nat} {cycles : List Cycle}
    {rows : List (List (List Device))} (h : Took { settings, listeners } cycles rows) :
    Reflects listeners rows (cycled { settings, listeners } cycles) := by
  induction h with
  | nil => exact ⟨rfl, fun _ _ => rfl, rfl⟩
  | cycle before quiet run ih =>
    obtain ⟨log, hshowed⟩ := run.showed quiet
    exact ih.concat hshowed

theorem Came.reflects {settings : TrackerSettings} {listeners : Nat}
    {rows : List (List (List Device))} (h : Came { settings, listeners } rows u) :
    Reflects listeners rows u := by
  cases h with
  | stopped before => exact before.reflects
  | moment before quiet run =>
    obtain ⟨log, hshowed⟩ := run.showed quiet
    exact before.reflects.concat hshowed

/--
**A listener that carries out its events has what is published, exactly as long as no device has
gone unnoticed between two runs.**

The tracker is started and stopped any number of times, each time with any attempts and a stop at
any step from outside. It is looked at when it is stopped or at any moment in between, such as right
after the listeners were told of a list. Then a listener that was there from the beginning has all
devices that are published, as they are published. It has another one exactly if an earlier run has
ended with it, no list has it since, and there was a list since: the tracker compares the first list
of a run with no devices, and so nobody is told that the device is gone.
-/
theorem mirror_published_iff (settings : TrackerSettings) {listeners i : Nat} (hi : i < listeners) :
    let new : Tracker := { settings, listeners }
    (∀ cycles : List Cycle, (∀ c ∈ cycles, c.around.Quiet) → ∃ rows, Took new cycles rows) ∧
    ∀ rows u, Came new rows u →
      (∀ d ∈ u.published, d ∈ (u.mirror i).toList) ∧
      (∀ serial, ((u.mirror i).get? serial ≠ none ∧ ∀ d ∈ u.published, d.serial ≠ serial) ↔
        DeviceSet.Unnoticed rows serial) ∧
      ((u.mirror i).toList = u.published ↔ ∀ serial, ¬ DeviceSet.Unnoticed rows serial) := by
  intro new
  refine ⟨took_cycled rfl rfl, fun rows u h => ?_⟩
  obtain ⟨-, hmirror, hpublished⟩ := h.reflects
  rw [hmirror i hi, hpublished]
  refine ⟨fun d hd => ?_, fun serial => ?_, ?_⟩
  · rw [DeviceSet.mem_toList_iff] at hd ⊢
    exact DeviceSet.get?_held_of_shown hd
  · rw [← DeviceSet.held_exceeds_iff, DeviceSet.get?_eq_none_iff]
  · rw [← DeviceSet.held_eq_shown_iff, DeviceSet.toList_inj]

/-! ## A device that is gone between two runs -/

/-- A run that nobody stops before its end shows the lists of its attempts. -/
theorem run_showed (ht : t.Idle) {attempts : List Attempt}
    (hloud : ∀ a ∈ attempts, a.silent = false) :
    (∃ log, Showed t.fresh (t.start {} attempts).stop
      (attempts.flatMap (·.lists t.settings.long)) log) ∧ (t.start {} attempts).stop.Idle := by
  obtain ⟨log₁, henter⟩ := t.fresh.enter_showed .connecting
  obtain ⟨met, log₂, -, hall, hwork, hrested⟩ := work_showed (ready_fresh ht .connecting) attempts
  obtain ⟨log₃, hstop⟩ := stop_showed ((t.fresh.enter .connecting).work {} attempts)
  obtain rfl : met = attempts := hall fun a ha => hloud a (List.dropLast_subset attempts ha)
  rw [show (t.fresh.enter .connecting).settings = t.settings from henter.settings] at hwork
  have hshowed := (henter.trans hwork).trans hstop
  rw [List.append_nil, List.nil_append] at hshowed
  rw [start_eq ht]
  exact ⟨⟨_, hshowed⟩, idle_stop hrested⟩

/-- Runs that nobody stops before their end take the lists of their attempts. -/
theorem cycled_reflects (settings : TrackerSettings) (n : Nat) (runs : List (List Attempt))
    (hloud : ∀ attempts ∈ runs, ∀ a ∈ attempts, a.silent = false) :
    let u := cycled { settings, listeners := n } (runs.map fun attempts => { attempts })
    Reflects n (runs.map (·.flatMap (·.lists settings.long))) u ∧ u.settings = settings ∧
      u.Idle := by
  induction runs using List.reverseRecOn with
  | nil => exact ⟨⟨rfl, fun _ _ => rfl, rfl⟩, rfl, idle_new settings n⟩
  | append_singleton runs attempts ih =>
    obtain ⟨hreflects, hsettings, hidle⟩ :=
      ih fun attempts h => hloud attempts (List.mem_append_left _ h)
    obtain ⟨⟨log, hshowed⟩, hidle'⟩ :=
      run_showed hidle (hloud attempts (List.mem_append_right _ List.mem_cons_self))
    rw [hsettings] at hshowed
    simp only [List.map_append, List.map_cons, List.map_nil, cycled_concat]
    exact ⟨hreflects.concat hshowed, hshowed.settings.trans hsettings, hidle'⟩

/-- A connection that brings one list. -/
def oneList (field body : Bytes) : Attempt :=
  .made { inflow := .ofBytes (Reply.okayStatus ++ (field ++ body)) } false

theorem lists_oneList (long : Bool) {field body : Bytes}
    (hfield : Frame.length? field = some body.length) :
    (oneList field body).lists long = [Device.parseList (String.ofList body.latin1)] := by
  have hframes : Frame.bodies ([(field, body)].flatMap (fun frame => frame.1 ++ frame.2) ++ []) =
      [body] :=
    Frame.bodies_frames [(field, body)] (by simpa using hfield) rfl
  rw [List.flatMap_cons, List.flatMap_nil, List.append_nil, List.append_nil] at hframes
  rw [oneList, Attempt.lists_ofBytes, hframes]
  rfl

/-- A device is gone in the second of two runs: only the other one is published, but a listener that
carries out its events has both. -/
theorem two_cycles :
    ∃ cycles : List Cycle, (∀ c ∈ cycles, c.around.Quiet) ∧
      (({} : Tracker).cycled cycles).published.map (·.serial) = ["S1"] ∧
      ((({} : Tracker).cycled cycles).mirror 0).serials = ["S1", "S2"] := by
  obtain ⟨first, hsilent, hfirst⟩ : ∃ a : Attempt, a.silent = false ∧
      a.lists false = [Device.parseList "S1 device\nS2 device"] :=
    ⟨oneList (Utf8.ofString "0013") (Utf8.ofString "S1 device\nS2 device"), rfl,
      (lists_oneList false (by decide)).trans (by decide)⟩
  obtain ⟨second, hsilent', hsecond⟩ : ∃ a : Attempt, a.silent = false ∧
      a.lists false = [Device.parseList "S1 device"] :=
    ⟨oneList (Utf8.ofString "0009") (Utf8.ofString "S1 device"), rfl,
      (lists_oneList false (by decide)).trans (by decide)⟩
  obtain ⟨hreflects, -⟩ := cycled_reflects {} 1 [[first], [second]] (by simp [hsilent, hsilent'])
  refine ⟨[[first], [second]].map fun attempts => { attempts }, ?_, ?_⟩
  · simp [Surroundings.Quiet]
  · rw [hreflects.mirror 0 Nat.one_pos, hreflects.published]
    simp only [List.map_cons, List.map_nil, List.flatMap_cons, List.flatMap_nil, List.append_nil]
    rw [hfirst, hsecond]
    decide

/-- With the device that is gone between two runs there is one that has gone unnoticed. -/
theorem mirror_published_two_cycles :
    0 < 1 ∧ ∃ cycles rows, Took {} cycles rows ∧ DeviceSet.Unnoticed rows "S2" := by
  obtain ⟨cycles, hquiet, hpublished, hmirror⟩ := two_cycles
  obtain ⟨htook, hcame⟩ := mirror_published_iff {} Nat.one_pos
  obtain ⟨rows, hrows⟩ := htook cycles hquiet
  obtain ⟨-, hunnoticed, -⟩ := hcame rows _ (.stopped hrows)
  refine ⟨Nat.one_pos, cycles, rows, hrows, (hunnoticed "S2").mp ⟨?_, ?_⟩⟩
  · intro hnone
    have hmem : "S2" ∈ ((cycled {} cycles).mirror 0).serials := by
      rw [hmirror]
      decide
    obtain ⟨d, hd, hs⟩ := List.mem_map.mp hmem
    exact DeviceSet.get?_eq_none_iff.mp hnone d hd hs
  · intro d hd hs
    have hmem : "S2" ∈ (cycled {} cycles).published.map (·.serial) :=
      List.mem_map.mpr ⟨d, hd, hs⟩
    rw [hpublished] at hmem
    exact absurd hmem (by decide)

/-- A listener that carries out its events does not always have what is published. -/
theorem mirror_exceeds_published :
    ¬ ∀ (settings : TrackerSettings) (listeners i : Nat) (cycles : List Cycle), i < listeners →
      (∀ c ∈ cycles, c.around.Quiet) →
      ((cycled { settings, listeners } cycles).mirror i).toList =
        (cycled { settings, listeners } cycles).published := by
  intro h
  obtain ⟨cycles, hquiet, hpublished, hmirror⟩ := two_cycles
  have heq := h {} 1 0 cycles Nat.one_pos hquiet
  rw [DeviceSet.serials, heq, hpublished] at hmirror
  exact absurd hmirror (by decide)

end Tracker

end DebugBridge
