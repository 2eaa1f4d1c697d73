import DebugBridge.Proofs.Tracker.States

/-!
# A run goes from state to state as it may

What every step keeps to holds for a whole run, with the connection that a subscription came about
on, and with what is left to be seen once the flag was found raised.

* `Moment.Tried` — the attempts that were made are those in front, in order
* `Moment.raised_ends` — what is left to do when the flag was found raised
* `run_orderly` — a run from its start to its stop
-/

namespace DebugBridge

/-- The attempts to connect, in order, and whether each was accepted. -/
def triesOf (log : List Happening) : List Bool :=
  log.filterMap fun h => match h.sight with
    | .attempt accepted => some accepted
    | _ => none

theorem triesOf_eq_nil {log : List Happening} (h : ∀ x ∈ log, ¬ x.IsAttempt) :
    triesOf log = [] := by
  rw [triesOf, List.filterMap_eq_nil_iff]
  intro x hx
  cases hs : x.sight with
  | attempt accepted => exact absurd ⟨accepted, hs⟩ (h x hx)
  | entered | event | restart | pause => rfl

namespace Tracker

/-- Whether an attempt is made next. -/
def Stage.attempts : Stage → Bool
  | .connecting _ => true
  | _ => false

/-- Whether the connection of a stage is the one of the attempt that was made last, apart from a
stop that may have closed it. -/
def Stage.Serves (made : List Attempt) : Stage → Prop
  | .handling link silent => made.getLast? = some (.made link silent)
  | .looking (.subscribe link silent) | .asking link silent =>
    ∃ link₀, made.getLast? = some (.made link₀ silent) ∧ (link = link₀ ∨ link = link₀.close)
  | _ => True

namespace Moment

variable {around : Surroundings} {m m' : Moment} {attempts made : List Attempt}
  {log : List Happening} {delay : Nat} {last x : Happening}

/-! ## The attempts that were made -/

/-- Neither an attempt nor the entrance into the state of tracking. -/
def Plain (x : Happening) : Prop := ¬ x.IsAttempt ∧ (x.sight = .entered → x.state ≠ .tracking)

theorem plain_of_mem_entrance {t : Tracker} (state : TrackerState) (hstate : state ≠ .tracking)
    (hx : x ∈ t.entrance state) : Plain x := by
  unfold entrance at hx
  split at hx
  · cases hx
  · obtain rfl := List.mem_singleton.mp hx
    exact ⟨nofun, fun _ => hstate⟩

theorem plain_of_mem_seenOnward {t : Tracker} {aim : Aim} (hx : x ∈ seenOnward t aim) :
    Plain x := by
  cases aim with
  | connect a => exact plain_of_mem_entrance .connecting nofun hx
  | subscribe link silent => exact plain_of_mem_entrance .subscribing nofun hx
  | take devices lists link silent =>
    obtain ⟨e, -, hx⟩ := List.mem_flatMap.mp hx
    obtain ⟨i, -, rfl⟩ := List.mem_map.mp hx
    exact ⟨nofun, nofun⟩
  | count lists =>
    rcases List.mem_append.mp hx with hx | hx
    · rcases List.mem_append.mp hx with hx | hx
      · obtain ⟨n, -, rfl⟩ := List.mem_map.mp hx
        exact ⟨nofun, nofun⟩
      · exact plain_of_mem_entrance .reconnecting nofun hx
    · obtain rfl := List.mem_singleton.mp hx
      exact ⟨nofun, nofun⟩
  | again => cases hx

/-- **An attempt is seen of a tracker that connects, and the entrance into the state of tracking of
one whose subscription has come about.** -/
theorem mem_seen (hx : x ∈ m.seen around) :
    Plain x ∨ (∃ a, m.stage = .connecting a) ∨
      ∃ link silent w, m.stage = .asking link silent ∧
        Watch.ask around m.tracker.settings.long ⟨m.tracker, link⟩ = (.ok (), w) ∧
        m.seen around = m.tracker.entrance .tracking := by
  obtain ⟨stage, t, rest, taken⟩ := m
  cases stage with
  | looking aim =>
    dsimp only [seen] at hx
    split at hx
    · refine .inl ?_
      cases aim with
      | connect a | count lists | again => exact plain_of_mem_entrance .stopped nofun hx
      | subscribe link silent | take devices lists link silent => cases hx
    · exact .inl (plain_of_mem_seenOnward hx)
  | connecting a => exact .inr (.inl ⟨a, rfl⟩)
  | asking link silent =>
    cases hask : Watch.ask around t.settings.long ⟨t, link⟩ with
    | mk result w =>
      cases result with
      | ok u =>
        refine .inr (.inr ⟨link, silent, w, rfl, hask, ?_⟩)
        dsimp only [seen]
        rw [hask]
      | error e =>
        dsimp only [seen] at hx
        rw [hask] at hx
        cases hx
  | done => exact .inl (plain_of_mem_entrance .stopped nofun hx)
  | ahead | handling | following | lost | stopped => cases hx

/-- The attempts that are still to be made. -/
def pending (m : Moment) : List Attempt :=
  match m.stage with
  | .looking (.connect a) | .connecting a => a :: m.rest
  | _ => m.rest

/-- Of all attempts `made` are those that were made, as `log` shows, and the connection that the
tracker is about to subscribe on is the one of the last of them. -/
structure Tried (attempts made : List Attempt) (m : Moment) (log : List Happening) : Prop where
  tries : made.map (·.accepted) = triesOf log
  all : attempts = made ++ m.pending
  serves : m.stage.Serves made

theorem triesOf_seen (hstage : m.stage.attempts = false) : triesOf (m.seen around) = [] := by
  refine triesOf_eq_nil fun x hx => ?_
  rcases mem_seen hx with ⟨hplain, -⟩ | ⟨a, hconnecting⟩ | ⟨link, silent, w, -, -, hseen⟩
  · exact hplain
  · rw [hconnecting] at hstage
    cases hstage
  · rw [hseen, entrance] at hx
    split at hx
    · cases hx
    · obtain rfl := List.mem_singleton.mp hx
      rintro ⟨accepted, hsight⟩
      cases hsight

/-- A step that makes no attempt. -/
theorem Tried.step (hm : Tried attempts made m log) (hstage : m.stage.attempts = false)
    (hpending : m'.pending = m.pending) (hserves : m'.stage.Serves made) :
    ∃ made', Tried attempts made' m' (log ++ m.seen around) := by
  refine ⟨made, ?_, ?_, hserves⟩
  · rw [hm.tries, triesOf, triesOf, List.filterMap_append]
    exact ((congrArg (_ ++ ·) (triesOf_seen hstage)).trans (List.append_nil _)).symm
  · rw [hpending]
    exact hm.all

/-- A step that makes an attempt. -/
theorem Tried.attempt {a : Attempt} (hm : Tried attempts made m log)
    (hstage : m.stage = .connecting a) (hpending : m'.pending = m.rest)
    (hserves : m'.stage.Serves (made ++ [a])) :
    ∃ made', Tried attempts made' m' (log ++ m.seen around) := by
  refine ⟨made ++ [a], ?_, ?_, hserves⟩
  · rw [seen, hstage, List.map_append, hm.tries, triesOf, triesOf, List.filterMap_append]
    rfl
  · have hall := hm.all
    rw [pending, hstage] at hall
    rw [hall, hpending, List.append_assoc]
    rfl

/-- The attempts that were made stay those in front. -/
theorem next_tried (hm : Tried attempts made m log) (h : m.next around = some m') :
    ∃ made', Tried attempts made' m' (log ++ m.seen around) := by
  have hserves : m.stage.Serves made := hm.serves
  cases next_goes h with
  | raised aim =>
    cases aim with
    | connect | subscribe | take | count | again => exact hm.step rfl rfl True.intro
  | onward aim =>
    cases aim with
    | subscribe link silent => exact hm.step rfl rfl hserves
    | connect | take | count | again => exact hm.step rfl rfl True.intro
  | refused => exact hm.attempt rfl rfl True.intro
  | made => exact hm.attempt rfl rfl List.getLast?_concat
  | @handled t rest taken link silent w hstep =>
    obtain ⟨link', hlink, hneed⟩ := Watch.step_link hstep
    obtain rfl : link' = w.link := (Prod.mk.inj hneed).2
    exact hm.step rfl rfl ⟨link, hserves, hlink⟩
  | exhausted | upcoming | unhandled | unsubscribed | subscribed | unread | read | waits | away
  | ended => exact hm.step rfl rfl True.intro

/-! ## A whole run -/

variable {t : Tracker} {before after : List Happening}

/-- What is seen first of a run. -/
def opening (t : Tracker) : Happening := ⟨.entered, .connecting, t.published, 0⟩

/-- When `x` is seen behind `before`, the tracker has subscribed just now on the connection of the
attempt that was made last. -/
def SubscribedBehind (around : Surroundings) (t : Tracker) (attempts : List Attempt)
    (before : List Happening) (x : Happening) : Prop :=
  ∃ made link silent link' m, made <+: attempts ∧ made.map (·.accepted) = triesOf before ∧
    made.getLast? = some (.made link silent) ∧ link.Subscribed t.settings.long link' ∧
    Reaches around (.first t attempts) m ∧ m.stage = .following 0 link' silent ∧
    m.tracker.happenings.toList = t.happenings.toList ++ (before ++ [x])

/-- What holds at every moment of a run of `t`, when `log` was seen since the start. -/
structure Kept (around : Surroundings) (t : Tracker) (attempts : List Attempt) (m : Moment)
    (log : List Happening) : Prop where
  reached : Reaches around (.first t attempts) m
  happenings : m.tracker.happenings.toList = t.happenings.toList ++ log
  settings : m.tracker.settings = t.settings
  passage : ∃ rest last, log = opening t :: rest ∧
    Passage t.settings.delay (opening t) rest last ∧ At t.settings.delay m last
  tried : ∃ made, Tried attempts made m log
  tracking : ∀ before x after, log = before ++ x :: after → x.sight = .entered →
    x.state = .tracking → SubscribedBehind around t attempts before x

theorem first_kept (hstate : t.state = .stopped) (attempts : List Attempt) :
    Kept around t attempts (.first t attempts) [opening t] := by
  have hsaw := enter_saw t.fresh .connecting
  have hentrance : t.fresh.entrance .connecting = [opening t] := by
    refine if_neg ?_
    show t.state ≠ .connecting
    rw [hstate]
    exact nofun
  rw [hentrance] at hsaw
  refine ⟨.refl _, hsaw.happenings, hsaw.settings, ⟨[], opening t, rfl, .nil _, ?_⟩, ?_, ?_⟩
  · exact ⟨hsaw.state, .inl ⟨rfl, rfl⟩, congrArg (·.delay) hsaw.settings⟩
  · exact ⟨[], rfl, rfl, True.intro⟩
  · intro before x after hlog _ hx
    cases before with
    | nil =>
      obtain ⟨rfl, -⟩ := List.cons.inj hlog
      cases hx
    | cons y before => cases before <;> cases hlog

/-- Behind a subscription that has come about. -/
theorem Kept.subscribed (hquiet : around.Quiet) (hm : Kept around t attempts m log)
    (h : m.next around = some m') (hx : x ∈ m.seen around) (hsight : x.sight = .entered)
    (hstate : x.state = .tracking) :
    m.seen around = [x] ∧ SubscribedBehind around t attempts log x := by
  rcases mem_seen hx with ⟨-, hplain⟩ | ⟨a, hconnecting⟩ | ⟨link, silent, w, hasking, hask, hseen⟩
  · exact absurd hstate (hplain hsight)
  · rw [seen, hconnecting] at hx
    rw [List.mem_singleton.mp hx] at hsight
    cases hsight
  · have hone : m.seen around = [x] := by
      rw [hseen, entrance] at hx ⊢
      split at hx
      · cases hx
      · next hne => rw [if_neg hne, List.mem_singleton.mp hx]
    obtain ⟨made, htries, hall, hserves⟩ := hm.tried
    rw [hasking] at hserves
    obtain ⟨link₀, hlast, hlink⟩ := hserves
    have hsubscribed := Watch.ask_subscribed hask
    -- had a stop closed the connection, the server could not have been heard on it
    obtain rfl : link = link₀ := by
      rcases hlink with h | rfl
      · exact h
      · exact absurd hsubscribed.accepted (Link.not_accepted_close link₀)
    rw [hm.settings] at hsubscribed
    have hstage : m'.stage = .following 0 w.link silent := by
      obtain ⟨stage, u, rest, taken⟩ := m
      obtain rfl : stage = .asking link silent := hasking
      rw [next_asking, show Watch.ask around u.settings.long ⟨u, link⟩ = (.ok (), w) from hask] at h
      cases h
      rfl
    refine ⟨hone, made, link, silent, w.link, m', ⟨m.pending, hall.symm⟩, htries, hlast,
      hsubscribed, hm.reached.trans (.step h (.refl _)), hstage, ?_⟩
    rw [(next_adds hquiet h).happenings, hm.happenings, hone, List.append_assoc]

theorem next_kept (hquiet : around.Quiet) (hm : Kept around t attempts m log)
    (h : m.next around = some m') : Kept around t attempts m' (log ++ m.seen around) := by
  obtain ⟨rest, last, hlog, hpassage, hat⟩ := hm.passage
  obtain ⟨last', hgoes, hat'⟩ := next_at hquiet hat h
  obtain ⟨made, htried⟩ := hm.tried
  have hadds := next_adds hquiet h
  refine ⟨hm.reached.trans (.step h (.refl _)), ?_, hadds.settings.trans hm.settings,
    ⟨rest ++ m.seen around, last', ?_, hpassage.append hgoes, hat'⟩, next_tried htried h, ?_⟩
  · rw [hadds.happenings, hm.happenings, List.append_assoc]
  · rw [hlog, List.cons_append]
  · intro before x after hsplit hsight hstate
    -- the entrance is seen of this step, or was seen before
    rcases List.append_eq_append_iff.mp hsplit with ⟨front, rfl, hseen⟩ | ⟨back, hback, hseen⟩
    · have hx : x ∈ m.seen around := by
        rw [hseen]
        exact List.mem_append_right _ List.mem_cons_self
      obtain ⟨hone, hsubscribed⟩ := hm.subscribed hquiet h hx hsight hstate
      rw [hone] at hseen
      obtain rfl : front = [] := by
        cases front with
        | nil => rfl
        | cons y front => cases front <;> cases hseen
      rwa [List.append_nil]
    · cases back with
      | nil =>
        rw [List.nil_append] at hseen
        rw [List.append_nil] at hback
        have hx : x ∈ m.seen around := by
          rw [← hseen]
          exact List.mem_cons_self
        rw [← hback]
        exact (hm.subscribed hquiet h hx hsight hstate).2
      | cons y back =>
        obtain ⟨rfl, -⟩ := List.cons.inj hseen
        exact hm.tracking before x back hback hsight hstate

theorem Reaches.kept (hquiet : around.Quiet) (hstate : t.state = .stopped)
    (h : Reaches around (.first t attempts) m) : ∃ log, Kept around t attempts m log := by
  refine h.keeps (P := fun m => ∃ log, Kept around t attempts m log)
    ⟨_, first_kept hstate attempts⟩ ?_
  rintro m₁ m₂ ⟨log, hlog⟩ hnext
  exact ⟨_, next_kept hquiet hlog hnext⟩

/-! ## Once the flag was found raised -/

/-- At `m` there is nothing more to do than to enter the state of being stopped. -/
def Ends (around : Surroundings) (m : Moment) : Prop :=
  ∃ m', Reaches around m m' ∧ m'.stage = .stopped ∧
    m'.tracker.happenings.toList =
      m.tracker.happenings.toList ++ m.tracker.entrance .stopped ∧
    m'.tracker.published = m.tracker.published

/-- The flag was found raised, and there is no connection. -/
theorem ends_of_over {aim : Aim} (hstage : m.stage = .looking aim)
    (hstop : m.tracker.stopping = true) (hover : (m.giveUp aim).stage = .done)
    (htracker : (m.giveUp aim).tracker = { m.tracker with isRunning := false }.enter .stopped) :
    Ends around m := by
  have hsaw := enter_saw { m.tracker with isRunning := false } .stopped
  have hstop' := stop_adds (m.giveUp aim).tracker
  have hend : (m.giveUp aim).next around =
      some { m.giveUp aim with stage := .stopped, tracker := (m.giveUp aim).tracker.stop } := by
    simp only [next, hover]
  obtain ⟨hseen, -, hpublished, -⟩ := hstop'
  have hnone : (m.giveUp aim).tracker.entrance .stopped = [] := by
    refine if_pos ?_
    rw [htracker]
    exact hsaw.state
  refine ⟨_, .step (next_raised hstage hstop) (.step hend (.refl _)), rfl, ?_, ?_⟩
  · show (m.giveUp aim).tracker.stop.happenings.toList = _
    rw [hseen, hnone, List.append_nil, htracker]
    exact hsaw.happenings
  · show (m.giveUp aim).tracker.stop.published = _
    rw [hpublished, htracker]
    exact hsaw.published

/-- **When the flag was found raised, nothing more is to be seen but the end.** -/
theorem raised_ends {aim : Aim} (hstage : m.stage = .looking aim)
    (hstop : m.tracker.stopping = true) : Ends around m := by
  obtain ⟨stage, t, rest, taken⟩ := m
  obtain rfl : stage = .looking aim := hstage
  -- a connection is put away first
  have hlost : ∀ lists failure link silent, Watch.waits ⟨t, link⟩ failure = false →
      next around ⟨.looking aim, t, rest, taken⟩ =
        some ⟨.lost lists failure link silent, t, rest, taken⟩ →
      Ends around ⟨.looking aim, t, rest, taken⟩ := by
    intro lists failure link silent hwaits hgiveUp
    have haway : next around ⟨.lost lists failure link silent, t, rest, taken⟩ =
        some ⟨.looking (.count lists), t.putAway link, rest, taken⟩ := by
      simp only [next, hwaits, Bool.and_false, Bool.false_eq_true, if_false]
    obtain ⟨m', hreaches, hends⟩ : Ends around
        ⟨.looking (.count lists), t.putAway link, rest, taken⟩ :=
      ends_of_over rfl hstop rfl rfl
    exact ⟨m', .step hgiveUp (.step haway hreaches), hends⟩
  cases aim with
  | connect a => exact ends_of_over rfl hstop rfl rfl
  | count lists => exact ends_of_over rfl hstop rfl rfl
  | again => exact ends_of_over rfl hstop rfl rfl
  | subscribe link silent =>
    exact hlost 0 (some .cancelled) link.close silent rfl (next_raised rfl hstop)
  | take devices lists link silent =>
    exact hlost lists none link silent rfl (next_raised rfl hstop)

/-- A tracker that is about to look at the flag is not stopped yet. -/
theorem At.not_stopped {aim : Aim} (hm : At delay m last) (hstage : m.stage = .looking aim) :
    m.tracker.state ≠ .stopped := by
  have hfits := hm.fits
  rw [hstage] at hfits
  rw [hm.state]
  intro hlast
  rw [hlast] at hfits
  cases aim with
  | connect a => rcases hfits with ⟨-, h⟩ | ⟨-, h⟩ <;> cases h
  | subscribe link silent => cases hfits.2
  | take devices lists link silent => cases hfits.state
  | count lists => exact (Spent.next hfits).1
  | again => cases hfits.2

/-- The states that were entered at a moment, and the one in which the tracker is. -/
theorem Kept.states (hm : Kept around t attempts m log) :
    ∃ more, statesOf log = .connecting :: more ∧
      List.IsChain TrackerState.Next (.connecting :: more) ∧
      (TrackerState.connecting :: more).getLast? = some m.tracker.state := by
  obtain ⟨rest, last, rfl, hpassage, hat⟩ := hm.passage
  obtain ⟨hchain, hlast⟩ := hpassage.states
  rw [← hat.state] at hlast
  exact ⟨statesOf rest, rfl, hchain, hlast⟩

theorem Kept.paced {mid : List Happening} {y : Happening} (hm : Kept around t attempts m log)
    (hlog : log = before ++ x :: (mid ++ y :: after)) (hx : x.IsAttempt) (hy : y.IsAttempt)
    (hmid : ∀ z ∈ mid, ¬ z.IsAttempt) : pausesOf mid = [t.settings.delay] := by
  obtain ⟨rest, last, hrest, hpassage, -⟩ := hm.passage
  rw [hrest] at hlog
  cases before with
  | nil =>
    -- the first that is seen is no attempt
    obtain ⟨rfl, -⟩ := List.cons.inj hlog
    obtain ⟨accepted, hx⟩ := hx
    cases hx
  | cons z before =>
    obtain ⟨-, rfl⟩ := List.cons.inj hlog
    exact hpassage.paced hx hy hmid

theorem Reaches.grows (hquiet : around.Quiet) (h : Reaches around m m') :
    ∃ more, m'.tracker.happenings.toList = m.tracker.happenings.toList ++ more := by
  refine h.keeps (P := fun m' => ∃ more, m'.tracker.happenings.toList =
    m.tracker.happenings.toList ++ more) ⟨[], (List.append_nil _).symm⟩ ?_
  rintro m₁ m₂ ⟨more, hmore⟩ hnext
  exact ⟨more ++ m₁.seen around, by
    rw [(next_adds hquiet hnext).happenings, hmore, List.append_assoc]⟩

end Moment

/-! ## From the start to the end -/

/-- A run of `t` with these attempts, of which `log` is seen and which ends as `u`, goes from state
to state as it may. -/
structure Orderly (around : Surroundings) (attempts : List Attempt) (t u : Tracker)
    (log : List Happening) : Prop where
  seen : u.happenings.toList = t.happenings.toList ++ log
  /-- The states. -/
  states : ∃ more, statesOf log = .connecting :: more ∧
    List.IsChain TrackerState.Next (.connecting :: more) ∧
    (TrackerState.connecting :: more).getLast? = some .stopped
  stopped : u.state = .stopped
  /-- At every moment the tracker is in the state that was entered last. -/
  current : ∀ m, Moment.Reaches around (.first t attempts) m → ∃ front, front <+: log ∧
    m.tracker.happenings.toList = t.happenings.toList ++ front ∧
    (statesOf front).getLast? = some m.tracker.state
  /-- The state of tracking is entered right behind a subscription on the connection of the attempt
  that was made last. -/
  tracking : ∀ before x after, log = before ++ x :: after → x.sight = .entered →
    x.state = .tracking → Moment.SubscribedBehind around t attempts before x
  /-- There is one pause between an attempt and the next one. -/
  paced : ∀ before x mid y after, log = before ++ x :: (mid ++ y :: after) → x.IsAttempt →
    y.IsAttempt → (∀ z ∈ mid, ¬ z.IsAttempt) → pausesOf mid = [t.settings.delay]
  /-- Once the flag was found raised, only the end is to be seen. -/
  ended : ∀ m aim, Moment.Reaches around (.first t attempts) m → m.stage = .looking aim →
    m.tracker.stopping = true →
    u.happenings.toList =
        m.tracker.happenings.toList ++ [⟨.entered, .stopped, m.tracker.published, 0⟩] ∧
      u.published = m.tracker.published

/--
**A run goes from state to state as it may, and keeps its pace.**

The tracker is new or was stopped before. Its attempts come to whatever they may, and a stop comes
from outside at any step: when the flag is raised, the connection may be closed later only, and the
last stop comes after all attempts. Then the states that it enters begin with connecting and end
with stopped, and each may come behind the one before. It is tracking only on a connection on which
it has subscribed, between two attempts it pauses once, and when it has found the flag raised, it
connects no more and tells nobody anything.
-/
theorem run_orderly {t : Tracker} (hrunning : t.isRunning = false) (hwaiting : t.waiting = none)
    (hstate : t.state = .stopped) {around : Surroundings} (hquiet : around.Quiet)
    (attempts : List Attempt) :
    ∃ log, Orderly around attempts t (t.start around attempts).stop log := by
  obtain ⟨rest, taken, hend⟩ : ∃ rest taken, Moment.Reaches around (.first t attempts)
      ⟨.stopped, (t.start around attempts).stop, rest, taken⟩ :=
    Moment.reaches_stop attempts hrunning hwaiting
  obtain ⟨log, hkept⟩ := hend.kept hquiet hstate
  have hfront : ∀ m, Moment.Reaches around (.first t attempts) m → ∃ front,
      Moment.Kept around t attempts m front ∧ front <+: log := by
    intro m hm
    obtain ⟨front, hfront⟩ := hm.kept hquiet hstate
    obtain ⟨more, hmore⟩ := (hm.before_end hend rfl).grows hquiet
    rw [hkept.happenings, hfront.happenings, List.append_assoc] at hmore
    exact ⟨front, hfront, more, (List.append_cancel_left hmore).symm⟩
  have hstopped : (t.start around attempts).stop.state = .stopped := by
    obtain ⟨rest, last, -, -, hat⟩ := hkept.passage
    exact hat.state.trans hat.fits.2
  obtain ⟨more, hmore, hchain, hlast⟩ := hkept.states
  refine ⟨log, hkept.happenings, ⟨more, hmore, hchain, ?_⟩, hstopped, fun m hm => ?_,
    hkept.tracking,
    fun before x mid y after hlog hx hy hmid => hkept.paced hlog hx hy hmid,
    fun m aim hm hstage hstop => ?_⟩
  · rw [hlast]
    exact congrArg some hstopped
  · obtain ⟨front, hkept', hprefix⟩ := hfront m hm
    obtain ⟨more, hmore, -, hlast⟩ := hkept'.states
    refine ⟨front, hprefix, hkept'.happenings, ?_⟩
    rw [hmore]
    exact hlast
  · -- the end that this moment leads to is the end of the run
    obtain ⟨m', hreaches, hover, hseen, hpublished⟩ := Moment.raised_ends hstage hstop
    obtain rfl := (hm.trans hreaches).end_unique hend hover rfl
    obtain ⟨front, hkept', -⟩ := hfront m hm
    obtain ⟨rest, last, -, -, hat⟩ := hkept'.passage
    have hentrance : m.tracker.entrance .stopped =
        [⟨.entered, .stopped, m.tracker.published, 0⟩] := if_neg (hat.not_stopped hstage)
    rw [hentrance] at hseen
    exact ⟨hseen, hpublished⟩

/-- All connections are refused, and the stop comes during the second pause: the third attempt is
not made. -/
theorem run_orderly_refused :
    let around : Surroundings := { stops := fun n => n = 5 }
    let attempts : List Attempt := [.refused, .refused, .refused]
    let t : Tracker := {}
    t.isRunning = false ∧ t.waiting = none ∧ t.state = .stopped ∧ around.Quiet ∧
      ∃ log, Orderly around attempts t (t.start around attempts).stop log ∧
        triesOf log = [false, false] ∧ pausesOf log = [1000, 1000] ∧
        statesOf log = [.connecting, .reconnecting, .connecting, .reconnecting, .stopped] := by
  intro around attempts t
  have hquiet : around.Quiet := fun _ => rfl
  obtain ⟨log, hlog⟩ : ∃ log, Orderly around attempts t (t.start around attempts).stop log :=
    run_orderly rfl rfl rfl hquiet attempts
  have hseen : log = (t.start around attempts).stop.happenings.toList := hlog.seen.symm
  refine ⟨rfl, rfl, rfl, hquiet, log, hlog, ?_⟩
  rw [hseen]
  decide

end Tracker

end DebugBridge
