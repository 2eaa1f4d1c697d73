import DebugBridge.Proofs.Device.Set
import DebugBridge.Proofs.Reply
import DebugBridge.Tracker.Watch

/-!
# One attempt of a tracker

What an attempt brings is decided by the bytes of its connection alone: the lists in the whole
frames behind an acceptance, up to a frame that is cut or malformed. A tracker that nobody stops
takes exactly these lists, one after the other, and tells each listener what each of them changes,
when the list is already published. Nothing else that an attempt does can be told from its outcome.

* `Link.subscribes_iff` — when a connection brings lists at all; `Attempt.lists`, which lists
* `Tracker.Went` — a tracker has taken lists and has done nothing else of consequence
* `Tracker.publish_went`, `Watch.follow_went`, `Watch.subscribe_went` — the steps of an attempt
* `Tracker.attempt_went` — an attempt
-/

namespace DebugBridge

/-! ## What an attempt brings -/

/-- Whether a subscription on a connection comes about: there is a handle, the request is taken,
the server accepts, and reads may wait as long as they need. -/
def Link.subscribes (long : Bool) (link : Link) : Bool :=
  link.interruptible && (Exchange.send (.trackDevices long) link).1.isOk &&
    decide (link.received.take 4 = Reply.okayStatus) && link.deadlineFailure.isNone

/-- On a link that does all that it is asked, a subscription comes about exactly if the server
accepts. -/
theorem Link.subscribes_iff (long : Bool) {link : Link} (hw : link.Writable)
    (hflush : link.flushFailure = none) (hdeadline : link.deadlineFailure = none)
    (hhandle : link.interruptible = true) :
    link.subscribes long = true ↔ link.received.take 4 = Reply.okayStatus := by
  obtain ⟨frame, hframe⟩ : ∃ frame, Frame.encode (Request.trackDevices long).text = .ok frame := by
    cases long <;> exact ⟨_, rfl⟩
  have hsend : (Exchange.send (.trackDevices long) link).1.isOk = true := by
    rw [Exchange.send_writable hframe hw hflush]
    rfl
  rw [subscribes, hhandle, hsend, hdeadline]
  simp

namespace Attempt

/-- The bodies of the whole frames that come behind an acceptance. -/
def bodies (long : Bool) : Attempt → List Bytes
  | .refused => []
  | .made link _ => if link.subscribes long then Frame.bodies (link.received.drop 4) else []

/-- The lists that an attempt brings. -/
def lists (long : Bool) (a : Attempt) : List (List Device) :=
  (a.bodies long).map fun body => Device.parseList (String.ofList body.latin1)

theorem lists_ofBytes (long silent : Bool) {frames : Bytes} :
    (made { inflow := .ofBytes (Reply.okayStatus ++ frames) } silent).lists long =
      (Frame.bodies frames).map fun body => Device.parseList (String.ofList body.latin1) := by
  have hcalm := Link.calm_ofBytes (Reply.okayStatus ++ frames)
  have hreceived : ({ inflow := .ofBytes (Reply.okayStatus ++ frames) } : Link).received =
      Reply.okayStatus ++ frames :=
    hcalm.received.trans (List.append_nil _)
  have hsubscribes := Link.subscribes_iff long hcalm.toWritable rfl rfl rfl
  rw [lists, bodies, if_pos (hsubscribes.mpr (by rw [hreceived]; rfl)), hreceived]
  rfl

/-- Whether the connection falls silent after its last byte. -/
def silent : Attempt → Bool
  | .refused => false
  | .made _ silent => silent

/-- Whether there is a connection. -/
def accepted : Attempt → Bool
  | .refused => false
  | .made _ _ => true

end Attempt

/-! ## What listeners hear -/

/-- What a listener is told in a happening, and the devices that are published then. -/
def Happening.heardBy? (listener : Nat) (h : Happening) : Option (DeviceEvent × List Device) :=
  match h.sight with
  | .event e _ => if h.listener = listener then some (e, h.shown) else none
  | _ => none

/-- What a listener hears of a tracker. -/
def heardBy (listener : Nat) (log : List Happening) : List (DeviceEvent × List Device) :=
  log.filterMap (·.heardBy? listener)

/-- What there is to hear of lists that are taken one after the other: the events of each, with the
devices of that list. -/
def DeviceSet.told (set : DeviceSet) (lists : List (List Device)) :
    List (DeviceEvent × List Device) :=
  (set.course lists).flatMap fun (events, after) => events.map (·, after.toList)

theorem heardBy_append (listener : Nat) (log more : List Happening) :
    heardBy listener (log ++ more) = heardBy listener log ++ heardBy listener more :=
  List.filterMap_append

theorem DeviceSet.told_append (set : DeviceSet) (lists more : List (List Device)) :
    set.told (lists ++ more) = set.told lists ++ (set.latest lists).told more := by
  rw [told, course_append, List.flatMap_append]
  rfl

/-- Whether a sight is one of an attempt itself, not of what the tracker does at its end. -/
def Sight.isPlain : Sight → Bool
  | .entered | .attempt _ | .event .. => true
  | .restart _ | .pause _ => false

namespace Tracker

/-! ## What lasts of a tracker -/

/-- A tracker without its clock, what can be seen of it, and what it is doing at the moment. -/
def core (t : Tracker) : Tracker :=
  { t with
    state := .stopped, handled := false, clock := 0, told := 0, happenings := #[], links := #[] }

@[simp] theorem core_tick (t : Tracker) : (t.tick {}).core = t.core := rfl

@[simp] theorem core_record (t : Tracker) (sight : Sight) (listener : Nat) :
    (t.record sight listener).core = t.core := rfl

@[simp] theorem happenings_tick (t : Tracker) : (t.tick {}).happenings = t.happenings := rfl

@[simp] theorem happenings_record (t : Tracker) (sight : Sight) (listener : Nat) :
    (t.record sight listener).happenings.toList =
      t.happenings.toList ++ [⟨sight, t.state, t.published, listener⟩] := Array.toList_push

/-- The tracker with a list in place of its devices. -/
def take (t : Tracker) (devices : List Device) : Tracker :=
  let known := (t.known.update devices).2
  { t with known, published := known.toList, received := true }

theorem foldl_take (lists : List (List Device)) (t : Tracker) :
    lists.foldl take t = { t with
      known := t.known.latest lists
      published := if lists = [] then t.published else (t.known.latest lists).toList
      received := t.received || !lists.isEmpty } := by
  induction lists generalizing t with
  | nil => simp [DeviceSet.latest]
  | cons devices lists ih =>
    rw [List.foldl_cons, ih]
    cases lists with
    | nil => simp [take, DeviceSet.latest]
    | cons next lists => simp [take, DeviceSet.latest]

/-- The tracker `t` has come to `t'` by taking `lists`; `log` is what could be seen of that. -/
structure Went (t t' : Tracker) (lists : List (List Device)) (log : List Happening) : Prop where
  core : t'.core = (lists.foldl take t).core
  happenings : t'.happenings.toList = t.happenings.toList ++ log
  heard : ∀ i < t.listeners, heardBy i log = t.known.told lists
  plain : ∀ h ∈ log, h.sight.isPlain = true

/-- Nobody has told the tracker to stop, and it waits for nothing. -/
structure Free (t : Tracker) : Prop where
  cut : t.cut = false
  stopping : t.stopping = false
  waiting : t.waiting = none

variable {t t' t'' : Tracker} {lists more : List (List Device)} {log log' : List Happening}

theorem Went.refl (t : Tracker) : Went t t [] [] :=
  ⟨rfl, (List.append_nil _).symm, fun _ _ => rfl, fun _ h => absurd h List.not_mem_nil⟩

theorem Went.settings (h : Went t t' lists log) : t'.settings = t.settings := by
  have := congrArg Tracker.settings h.core
  rwa [foldl_take] at this

theorem Went.listeners (h : Went t t' lists log) : t'.listeners = t.listeners := by
  have := congrArg Tracker.listeners h.core
  rwa [foldl_take] at this

theorem Went.known (h : Went t t' lists log) : t'.known = t.known.latest lists := by
  have := congrArg Tracker.known h.core
  rwa [foldl_take] at this

theorem Went.failed (h : Went t t' lists log) : t'.failed = t.failed := by
  have := congrArg Tracker.failed h.core
  rwa [foldl_take] at this

theorem Went.restarts (h : Went t t' lists log) : t'.restarts = t.restarts := by
  have := congrArg Tracker.restarts h.core
  rwa [foldl_take] at this

theorem Went.free (h : Went t t' lists log) (ht : t.Free) : t'.Free := by
  have hcore := h.core
  rw [foldl_take] at hcore
  exact ⟨(congrArg Tracker.cut hcore).trans ht.cut,
    (congrArg Tracker.stopping hcore).trans ht.stopping,
    (congrArg Tracker.waiting hcore).trans ht.waiting⟩

theorem core_foldl_take (lists : List (List Device)) (t : Tracker) :
    (lists.foldl take t).core = lists.foldl take t.core := by
  rw [foldl_take, foldl_take]
  rfl

theorem Went.trans (h : Went t t' lists log) (h' : Went t' t'' more log') :
    Went t t'' (lists ++ more) (log ++ log') where
  core := by
    rw [h'.core, core_foldl_take, h.core, core_foldl_take, core_foldl_take, List.foldl_append]
  happenings := by rw [h'.happenings, h.happenings, List.append_assoc]
  heard := by
    intro i hi
    have hi' : i < t'.listeners := h.listeners ▸ hi
    rw [heardBy_append, h.heard i hi, h'.heard i hi', DeviceSet.told_append, h.known]
  plain := by
    intro h₁ hmem
    rcases List.mem_append.mp hmem with hmem | hmem
    · exact h.plain h₁ hmem
    · exact h'.plain h₁ hmem

/-- A step that leaves the devices alone. -/
theorem Went.step (h : Went t t' [] log) (h' : Went t' t'' more log') :
    Went t t'' more (log ++ log') := h.trans h'

/-- A change of what does not last is no change. -/
theorem went_of_core (hcore : t'.core = t.core) (hseen : t'.happenings = t.happenings) :
    Went t t' [] [] :=
  ⟨hcore, by rw [hseen, List.append_nil], fun _ _ => rfl, fun _ h => absurd h List.not_mem_nil⟩

/-! ## Steps -/

theorem tick_went (t : Tracker) : Went t (t.tick {}) [] [] := went_of_core rfl rfl

theorem enter_went (t : Tracker) (state : TrackerState) :
    ∃ log, Went t (t.enter state) [] log := by
  unfold enter
  by_cases h : t.state = state
  · rw [if_pos h]
    exact ⟨[], .refl t⟩
  · rw [if_neg h]
    refine ⟨_, rfl, happenings_record _ _ _, fun _ _ => rfl, ?_⟩
    intro h hmem
    rw [List.mem_singleton.mp hmem]
    rfl

/-- What listeners in a row can be seen to be told. -/
theorem foldl_call (t : Tracker) (e : DeviceEvent) (who : List Nat) :
    (who.foldl (call {} e) t).core = t.core ∧
      (who.foldl (call {} e) t).happenings.toList = t.happenings.toList ++
        who.map fun i => ⟨.event e t.published.length, t.state, t.published, i⟩ := by
  induction who generalizing t with
  | nil => exact ⟨rfl, (List.append_nil _).symm⟩
  | cons i who ih =>
    obtain ⟨hcore, hseen⟩ := ih (call {} e t i)
    have hcall : (call {} e t i).happenings.toList =
        t.happenings.toList ++ [⟨.event e t.published.length, t.state, t.published, i⟩] :=
      happenings_record (t.tick {}) _ i
    refine ⟨hcore, ?_⟩
    rw [List.foldl_cons, hseen, hcall, List.append_assoc]
    rfl

/-- A listener hears of its own calls only. -/
theorem heardBy_map (e : DeviceEvent) (known : Nat) (state : TrackerState) (shown : List Device)
    {i n : Nat} (hi : i < n) :
    heardBy i ((List.range n).map fun j => ⟨.event e known, state, shown, j⟩) =
      [(e, shown)] := by
  have hfilter : ∀ who : List Nat,
      heardBy i (who.map fun j => ⟨.event e known, state, shown, j⟩) =
        (who.filter (· = i)).map fun _ => (e, shown) := by
    intro who
    induction who with
    | nil => rfl
    | cons j who ih =>
      rw [List.map_cons, heardBy, List.filterMap_cons, List.filter_cons]
      by_cases hj : j = i
      · simp only [Happening.heardBy?, hj, if_true, decide_true, List.map_cons]
        rw [← ih]
        rfl
      · simp only [Happening.heardBy?, hj, if_false, decide_false]
        exact ih
  rw [hfilter, List.filter_eq, List.count_range, if_pos hi]
  rfl

/-- Every listener of `t` was told `heard`, and nothing else has come of that. -/
structure Told (t t' : Tracker) (heard : List (DeviceEvent × List Device))
    (log : List Happening) : Prop where
  core : t'.core = t.core
  happenings : t'.happenings.toList = t.happenings.toList ++ log
  heard : ∀ i < t.listeners, heardBy i log = heard
  plain : ∀ h ∈ log, h.sight.isPlain = true

/-- **Each listener is told of an event once.** -/
theorem tell_told (t : Tracker) (e : DeviceEvent) :
    ∃ log, Told t (t.tell {} e) [(e, t.published)] log := by
  obtain ⟨hcore, hseen⟩ := foldl_call t e (List.range t.listeners)
  refine ⟨_, hcore, hseen, fun i hi => heardBy_map e _ _ _ hi, ?_⟩
  intro h hmem
  obtain ⟨j, -, rfl⟩ := List.mem_map.mp hmem
  rfl

theorem foldl_tell_told (t : Tracker) (events : List DeviceEvent) :
    ∃ log, Told t (events.foldl (tell {}) t) (events.map (·, t.published)) log := by
  induction events generalizing t with
  | nil =>
    exact ⟨[], rfl, (List.append_nil _).symm, fun _ _ => rfl, fun _ h => absurd h List.not_mem_nil⟩
  | cons e events ih =>
    obtain ⟨log, h⟩ := tell_told t e
    obtain ⟨log', h'⟩ := ih (t.tell {} e)
    have hlisteners : (t.tell {} e).core.listeners = t.core.listeners := by rw [h.core]
    have hpublished : (t.tell {} e).core.published = t.core.published := by rw [h.core]
    refine ⟨log ++ log', h'.core.trans h.core, ?_, ?_, ?_⟩
    · rw [List.foldl_cons, h'.happenings, h.happenings, List.append_assoc]
    · intro i hi
      have hi' : i < (t.tell {} e).listeners := Nat.lt_of_lt_of_eq hi hlisteners.symm
      rw [heardBy_append, h.heard i hi, h'.heard i hi']
      exact congrArg (fun shown => (e, t.published) :: events.map (·, shown)) hpublished
    · intro seen hmem
      rcases List.mem_append.mp hmem with hmem | hmem
      · exact h.plain seen hmem
      · exact h'.plain seen hmem

/-- **A list is published before its events are told.** -/
theorem publish_went (t : Tracker) (devices : List Device) :
    ∃ log, Went t (t.publish {} devices) [devices] log := by
  obtain ⟨log, h⟩ := foldl_tell_told (t.take devices) (t.known.update devices).1
  refine ⟨log, h.core, h.happenings, fun i hi => ?_, h.plain⟩
  rw [h.heard i hi, DeviceSet.told, DeviceSet.course, DeviceSet.course, List.flatMap_cons,
    List.flatMap_nil, List.append_nil]
  rfl

end Tracker

/-! ## A connection -/

namespace Watch

open Tracker (Went Free)

/-- A step on the connection of a tracker that nobody stops. -/
theorem step_went {α : Type} (x : Exchange α) {w : Watch} (hw : w.tracker.Free) :
    ∃ t, Went w.tracker t [] [] ∧ step {} x w = ((x w.link).1, ⟨t, (x w.link).2⟩) := by
  refine ⟨w.tracker.tick {}, w.tracker.tick_went, ?_⟩
  have hsealed : (w.tracker.tick {}).sealed w.link = w.link := by
    have hcut : (w.tracker.tick {}).cut = false := hw.cut
    rw [Tracker.sealed, hcut]
    rfl
  rw [step, hsealed]
  rfl

/-- The part of a subscription that the server sees. -/
def ask (around : Surroundings) (long : Bool) : Run Watch Unit := do
  step around (Exchange.send (.trackDevices long))
  step around Exchange.okay
  step around (Exchange.setDeadline .reading none)
  change (·.enter .tracking)

theorem ask_went (long : Bool) {t : Tracker} (ht : t.Free) {link : Link}
    (hhandle : link.interruptible = true) :
    ∃ t' link' log, Went t t' [] log ∧
      ((link.subscribes long = true ∧ link'.received = link.received.drop 4 ∧
          ask {} long ⟨t, link⟩ = (.ok (), ⟨t', link'⟩)) ∨
        (link.subscribes long = false ∧
          ∃ e, ask {} long ⟨t, link⟩ = (.error e, ⟨t', link'⟩))) := by
  unfold ask
  unfold Link.subscribes
  have hkept := Exchange.send_kept (.trackDevices long) link
  obtain ⟨t₁, h₁, hsend⟩ :=
    step_went (Exchange.send (.trackDevices long)) (w := ⟨t, link⟩) ht
  rw [Run.bind_apply, hsend]
  simp only
  cases hs : Exchange.send (.trackDevices long) link with
  | mk result link₁ =>
    rw [hs] at hkept
    cases result with
    | error e => exact ⟨t₁, link₁, [], h₁, .inr ⟨by simp [Except.isOk, Except.toBool], e, rfl⟩⟩
    | ok u =>
      obtain ⟨t₂, h₂, hokay⟩ := step_went Exchange.okay (w := ⟨t₁, link₁⟩) (h₁.free ht)
      simp only
      rw [Run.bind_apply, hokay]
      simp only
      rw [← hkept.received]
      rcases Exchange.okay_received link₁ with ⟨hs, inflow, hr, hleft⟩ | ⟨hs, e, hr⟩
      · rw [hr]
        obtain ⟨t₃, h₃, hdeadline⟩ := step_went (Exchange.setDeadline .reading none)
          (w := ⟨t₂, { link₁ with inflow }⟩) ((h₁.step h₂).free ht)
        simp only
        rw [Run.bind_apply, hdeadline]
        have hpatient : link₁.deadlineFailure = link.deadlineFailure := hkept.deadlineFailure
        simp only [Exchange.setDeadline, Exchange.call, Link.setDeadline, hpatient]
        cases hd : link.deadlineFailure with
        | none =>
          obtain ⟨log, h₄⟩ := t₃.enter_went .tracking
          refine ⟨_, _, _, ((h₁.step h₂).step h₃).step h₄, .inl ⟨?_, ?_, rfl⟩⟩
          · simp [hhandle, hs, Except.isOk, Except.toBool]
          · exact hleft
        | some e =>
          refine ⟨t₃, _, _, (h₁.step h₂).step h₃, .inr ⟨?_, _, rfl⟩⟩
          simp
      · have hr : Exchange.okay link₁ = (.error e, (Exchange.okay link₁).2) := Prod.ext hr rfl
        rw [hr]
        refine ⟨t₂, _, _, h₁.step h₂, .inr ⟨?_, e, rfl⟩⟩
        simp [hs]

/-- **A subscription comes about, or fails, as the connection says.** -/
theorem subscribe_went (long : Bool) {t : Tracker} (ht : t.Free) (link : Link) :
    ∃ t' link' log, Went t t' [] log ∧
      ((link.subscribes long = true ∧ link'.received = link.received.drop 4 ∧
          subscribe {} long ⟨t, link⟩ = (.ok (), ⟨t', link'⟩)) ∨
        (link.subscribes long = false ∧
          ∃ e, subscribe {} long ⟨t, link⟩ = (.error e, ⟨t', link'⟩))) := by
  obtain ⟨t₁, h₁, hneed⟩ := step_went Exchange.needHandle (w := ⟨t, link⟩) ht
  unfold subscribe
  rw [Run.bind_apply, hneed]
  by_cases hhandle : link.interruptible = true
  · let t₂ : Tracker := Tracker.tick {} { t₁ with handled := true }
    have h₂ : Went t t₂ [] [] := h₁.step (Tracker.went_of_core rfl rfl)
    obtain ⟨log, h₃⟩ := t₂.enter_went .subscribing
    have h₃ := h₂.step h₃
    obtain ⟨t', link', log', h₄, hcases⟩ := ask_went long (h₃.free ht) hhandle
    refine ⟨t', link', log ++ log', h₃.step h₄, ?_⟩
    have hrunning : t₂.stopping = false := (h₂.free ht).stopping
    have hgoes : needRunning ⟨t₂, link⟩ = (.ok (), ⟨t₂, link⟩) := by
      rw [needRunning, if_neg (by rw [hrunning]; exact Bool.false_ne_true)]
    have hneed : Exchange.needHandle link = (.ok (), link) := by
      rw [Exchange.needHandle, if_pos hhandle]
    have hask : (needRunning >>= fun _ => change (·.enter .subscribing) >>= fun _ =>
        ask {} long : Run Watch Unit) ⟨t₂, link⟩ = ask {} long ⟨t₂.enter .subscribing, link⟩ := by
      rw [Run.bind_apply, hgoes]
      rfl
    rw [← hask] at hcases
    rw [hneed]
    exact hcases
  · have hneed : Exchange.needHandle link = (.error (.connection Link.noHandle), link) := by
      rw [Exchange.needHandle, if_neg hhandle]
    rw [hneed]
    refine ⟨t₁, link, [], h₁, .inr ⟨?_, _, rfl⟩⟩
    simp [Link.subscribes, hhandle]

/-- **The lists behind an acceptance are taken to the last one.** -/
theorem follow_went (lists : Nat) {w : Watch} (hw : w.tracker.Free) :
    ∃ e w' log, follow {} lists w =
        (lists + (Frame.bodies w.link.received).length, some e, w') ∧
      Went w.tracker w'.tracker
        ((Frame.bodies w.link.received).map fun body =>
          Device.parseList (String.ofList body.latin1)) log := by
  generalize haround : ({} : Surroundings) = around
  fun_induction follow around lists w with
  | case1 lists w e w' h =>
    subst haround
    obtain ⟨t, hwent, hstep⟩ := step_went Exchange.text hw
    rw [hstep] at h
    rcases Exchange.text_received w.link with ⟨body, rest, -, inflow, hr, -⟩ | ⟨hnone, _, _, hr⟩
    · rw [hr] at h
      cases h
    · rw [hr] at h
      cases h
      rw [Frame.bodies_of_none hnone]
      exact ⟨_, _, [], rfl, hwent⟩
  | case2 lists w body w' h hstop =>
    subst haround
    obtain ⟨t, hwent, hstep⟩ := step_went Exchange.text hw
    rw [hstep] at h
    obtain ⟨-, rfl⟩ := Prod.mk.inj h
    rw [(hwent.free hw).stopping] at hstop
    cases hstop
  | case3 lists w body w' h hstop _ ih =>
    subst haround
    obtain ⟨t, hwent, hstep⟩ := step_went Exchange.text hw
    rw [hstep] at h
    rcases Exchange.text_received w.link with ⟨body', rest, hsome, inflow, hr, hleft⟩ | ⟨-, _, _, hr⟩
    · rw [hr] at h
      cases h
      obtain ⟨log, hpublish⟩ := t.publish_went (Device.parseList (String.ofList body'.latin1))
      obtain ⟨e, w'', log', hfollow, hrest⟩ := ih (hpublish.free (hwent.free hw))
      rw [hleft] at hfollow hrest
      rw [Frame.bodies_of_some hsome]
      refine ⟨e, w'', _, ?_, (hwent.step hpublish).trans hrest⟩
      rw [hfollow, List.length_cons, Nat.add_assoc, Nat.add_comm 1]
    · rw [hr] at h
      cases h

end Watch

namespace Tracker

open Watch (subscribe_went follow_went)

/-- The work on a connection, until it is lost or falls silent. -/
theorem connection_went {t : Tracker} (ht : t.Free) (link : Link) (silent : Bool) :
    ∃ (failure : Option Failure) (w : Watch) (log : List Happening),
      Went t w.tracker ((Attempt.made link silent).lists t.settings.long) log ∧
      ((∃ w', Watch.subscribe {} t.settings.long ⟨t, link⟩ = (.ok (), w') ∧ w'.follow {} 0 =
          (((Attempt.made link silent).lists t.settings.long).length, failure, w)) ∨
        ∃ e, Watch.subscribe {} t.settings.long ⟨t, link⟩ = (.error e, w) ∧ failure = some e ∧
          ((Attempt.made link silent).lists t.settings.long).length = 0) := by
  obtain ⟨t₁, link₁, log, h₁, hcases⟩ := subscribe_went t.settings.long ht link
  rw [Attempt.lists, Attempt.bodies]
  rcases hcases with ⟨hsub, hleft, hok⟩ | ⟨hsub, e, herror⟩
  · obtain ⟨e, w, log', hfollow, hwent⟩ := follow_went 0 (w := ⟨t₁, link₁⟩) (h₁.free ht)
    simp only [hleft] at hfollow hwent
    rw [if_pos hsub]
    rw [Nat.zero_add] at hfollow
    refine ⟨some e, w, _, h₁.step hwent, .inl ⟨_, hok, ?_⟩⟩
    rw [hfollow, List.length_map]
  · rw [if_neg (by rw [hsub]; exact Bool.false_ne_true)]
    exact ⟨some e, ⟨t₁, link₁⟩, log, h₁, .inr ⟨e, herror, rfl, rfl⟩⟩

/-- **An attempt brings the lists of its connection**, after which the tracker goes on or waits on a
connection that has fallen silent. -/
theorem attempt_went {t : Tracker} (ht : t.Free) (a : Attempt) :
    ∃ t' log, Went t t' (a.lists t.settings.long) log ∧
      ((t.attempt {} a = ((a.lists t.settings.long).length, t') ∧
          (t.handled = false → t'.handled = false)) ∨
        (a.silent = true ∧ ∃ link, t.attempt {} a =
          ((a.lists t.settings.long).length, { t' with waiting := some link }))) := by
  have hrecord : ∀ accepted, Went t (t.record (.attempt accepted)) []
      [⟨.attempt accepted, t.state, t.published, 0⟩] := by
    intro accepted
    refine ⟨core_record _ _ _, happenings_record _ _ _, fun _ _ => rfl, ?_⟩
    intro h hmem
    rw [List.mem_singleton.mp hmem]
    rfl
  cases a with
  | refused =>
    let t' := t.record (.attempt false)
    have haway : Went t' { t' with links := t'.links.push none } [] [] := went_of_core rfl rfl
    exact ⟨_, _, (hrecord false).step haway, .inl ⟨rfl, id⟩⟩
  | made link silent =>
    have hwent := hrecord true
    obtain ⟨failure, w, log, hlists, hconnection⟩ := connection_went (hwent.free ht) link silent
    have hlists := hwent.step hlists
    have hattempt : t.attempt {} (.made link silent) =
        if silent && w.waits failure then
          (((Attempt.made link silent).lists t.settings.long).length,
            { w.tracker with waiting := some w.link })
        else
          (((Attempt.made link silent).lists t.settings.long).length,
            w.tracker.putAway w.link) := by
      unfold attempt
      rcases hconnection with ⟨w', hok, hfollow⟩ | ⟨e, herror, rfl, hnone⟩
      · simp only [hok, hfollow]
        rfl
      · have hnone : ((Attempt.made link silent).lists t.settings.long).length = 0 := hnone
        simp only [herror, hnone]
    by_cases hwait : (silent && w.waits failure) = true
    · rw [if_pos hwait] at hattempt
      obtain ⟨hsilent, -⟩ := Bool.and_eq_true_iff.mp hwait
      exact ⟨w.tracker, _, hlists, .inr ⟨hsilent, w.link, hattempt⟩⟩
    · rw [if_neg hwait] at hattempt
      have hcut := (hlists.free ht).cut
      have haway : Went w.tracker (w.tracker.putAway w.link) [] [] := by
        refine went_of_core ?_ rfl
        show { w.tracker.core with cut := false } = w.tracker.core
        rw [← hcut]
        rfl
      have hall := hlists.trans haway
      rw [List.append_nil] at hall
      exact ⟨_, _, hall, .inl ⟨hattempt, fun _ => rfl⟩⟩

end Tracker

end DebugBridge
