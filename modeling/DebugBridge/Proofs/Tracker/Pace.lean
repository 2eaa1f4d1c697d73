import DebugBridge.Tracker.Basic
import Mathlib.Data.List.Chain

/-!
# What may follow what

Of all that can be seen of a tracker only some things may follow each other: an attempt comes behind
the entrance into the state of connecting, an entrance into the state of reconnecting is followed by
a pause, and behind a pause the tracker connects again or stops. A row of happenings that keeps to
this goes through the states as it may, and has one pause between two attempts.

* `Follows` — what may come directly behind what
* `Passage` — a row in which everything follows what stands in front of it
* `Passage.states` — the states in such a row
* `Passage.paced` — its pauses
-/

namespace DebugBridge

/-- The states that may come directly behind a state, once a tracker was started. -/
def TrackerState.Next : TrackerState → TrackerState → Prop
  | .connecting, s => s = .subscribing ∨ s = .reconnecting ∨ s = .stopped
  | .subscribing, s => s = .tracking ∨ s = .reconnecting ∨ s = .stopped
  | .tracking, s => s = .reconnecting ∨ s = .stopped
  | .reconnecting, s => s = .connecting ∨ s = .stopped
  | .stopped, _ => False

theorem TrackerState.Next.ne {s s' : TrackerState} (h : s.Next s') : s ≠ s' := by
  rintro rfl
  cases s with
  | connecting | subscribing => rcases h with h | h | h <;> cases h
  | tracking | reconnecting => rcases h with h | h <;> cases h
  | stopped => exact h

/-- The states that were entered, in order. -/
def statesOf (log : List Happening) : List TrackerState :=
  log.filterMap fun h => if h.sight = .entered then some h.state else none

/-- The pauses, in order, by their milliseconds. -/
def pausesOf (log : List Happening) : List Nat :=
  log.filterMap fun h => match h.sight with
    | .pause milliseconds => some milliseconds
    | _ => none

/-- Whether a connection is attempted. -/
def Happening.IsAttempt (h : Happening) : Prop := ∃ accepted, h.sight = .attempt accepted

namespace Tracker

/-- What an attempt may end behind. -/
inductive Spent : Sight → TrackerState → Prop
  | attempt (accepted : Bool) : Spent (.attempt accepted) .connecting
  | subscribing : Spent .entered .subscribing
  | tracking : Spent .entered .tracking
  | event (e : DeviceEvent) (known : Nat) : Spent (.event e known) .tracking

/-- What listeners may be told behind. -/
inductive Open : Sight → TrackerState → Prop
  | tracking : Open .entered .tracking
  | event (e : DeviceEvent) (known : Nat) : Open (.event e known) .tracking

/-- What an attempt may begin behind, when the tracker pauses for `delay`. -/
def Upcoming (delay : Nat) (s : Sight) (state : TrackerState) : Prop :=
  (s = .entered ∧ state = .connecting) ∨ (s = .pause delay ∧ state = .reconnecting)

/-- What may come directly behind what, when the tracker pauses for `delay`. -/
inductive Follows (delay : Nat) : Sight → TrackerState → Sight → TrackerState → Prop
  | attempt (accepted : Bool) : Follows delay .entered .connecting (.attempt accepted) .connecting
  | abandon : Follows delay .entered .connecting .entered .stopped
  | subscribe : Follows delay (.attempt true) .connecting .entered .subscribing
  | track : Follows delay .entered .subscribing .entered .tracking
  | tell {s} (h : Open s .tracking) (e : DeviceEvent) (known : Nat) :
    Follows delay s .tracking (.event e known) .tracking
  | restart {s state} (h : Spent s state) (count : Nat) :
    Follows delay s state (.restart count) state
  | reconnect {s state} (h : Spent s state) : Follows delay s state .entered .reconnecting
  | stop {s state} (h : Spent s state) : Follows delay s state .entered .stopped
  | restarted {s state} (h : Spent s state) (count : Nat) :
    Follows delay (.restart count) state .entered .reconnecting
  | pause : Follows delay .entered .reconnecting (.pause delay) .reconnecting
  | again : Follows delay (.pause delay) .reconnecting .entered .connecting
  | leave : Follows delay (.pause delay) .reconnecting .entered .stopped

theorem Open.state {s : Sight} {state : TrackerState} (h : Open s state) : state = .tracking := by
  cases h with
  | tracking => rfl
  | event => rfl

theorem Open.spent {s : Sight} {state : TrackerState} (h : Open s state) : Spent s state := by
  cases h with
  | tracking => exact .tracking
  | event e known => exact .event e known

theorem Upcoming.leaves {delay : Nat} {s : Sight} {state : TrackerState}
    (h : Upcoming delay s state) : Follows delay s state .entered .stopped := by
  rcases h with ⟨rfl, rfl⟩ | ⟨rfl, rfl⟩
  · exact .abandon
  · exact .leave

/-- From a happening to another one through a row in which each follows the one in front of it. -/
inductive Passage (delay : Nat) : Happening → List Happening → Happening → Prop
  | nil (h : Happening) : Passage delay h [] h
  | cons {h h' h'' log} (first : Follows delay h.sight h.state h'.sight h'.state)
    (rest : Passage delay h' log h'') : Passage delay h (h' :: log) h''

variable {delay : Nat} {h h' h'' : Happening} {log log' : List Happening}

theorem Passage.single (hfollows : Follows delay h.sight h.state h'.sight h'.state) :
    Passage delay h [h'] h' := .cons hfollows (.nil h')

theorem Passage.append (hlog : Passage delay h log h') (hlog' : Passage delay h' log' h'') :
    Passage delay h (log ++ log') h'' := by
  induction hlog with
  | nil => exact hlog'
  | cons first _ ih => exact .cons first (ih hlog')

/-- A row that goes through a happening follows to it and goes on from it. -/
theorem Passage.through {x : Happening} {before after : List Happening}
    (hlog : Passage delay h (before ++ x :: after) h') :
    (∃ z : Happening, Follows delay z.sight z.state x.sight x.state) ∧
      Passage delay x after h' := by
  induction before generalizing h with
  | nil =>
    cases hlog with
    | cons first rest => exact ⟨⟨h, first⟩, rest⟩
  | cons _ before ih =>
    cases hlog with
    | cons _ rest => exact ih rest

/-- Listeners may be told one event after the other. -/
theorem Passage.told (hopen : Open h.sight h.state)
    (hlog : ∀ x ∈ log, ∃ e known, x.sight = .event e known ∧ x.state = .tracking) :
    ∃ h', Passage delay h log h' ∧ Open h'.sight h'.state := by
  induction log generalizing h with
  | nil => exact ⟨h, .nil h, hopen⟩
  | cons x log ih =>
    obtain ⟨e, known, hsight, hstate⟩ := hlog x List.mem_cons_self
    have hx : Open x.sight x.state := by
      rw [hsight, hstate]
      exact .event e known
    have hfollows : Follows delay h.sight h.state x.sight x.state := by
      rw [hsight, hstate]
      generalize h.sight = s at hopen
      generalize h.state = state at hopen
      cases hopen with
      | tracking => exact .tell .tracking e known
      | event e' known' => exact .tell (.event e' known') e known
    obtain ⟨h', hrest, hopen'⟩ := ih hx fun y hy => hlog y (List.mem_cons_of_mem _ hy)
    exact ⟨h', .cons hfollows hrest, hopen'⟩

theorem not_follows_stopped {s : Sight} {state : TrackerState} :
    ¬ Follows delay .entered .stopped s state := by
  rintro (_ | _ | _ | _ | ⟨⟨⟩⟩ | ⟨⟨⟩⟩ | ⟨⟨⟩⟩ | ⟨⟨⟩⟩ | _ | _ | _ | _)

/-! ## The states -/

theorem Spent.next {s : Sight} {state : TrackerState} (h : Spent s state) :
    state.Next .reconnecting ∧ state.Next .stopped := by
  cases h with
  | attempt accepted => exact ⟨.inr (.inl rfl), .inr (.inr rfl)⟩
  | subscribing => exact ⟨.inr (.inl rfl), .inr (.inr rfl)⟩
  | tracking => exact ⟨.inl rfl, .inr rfl⟩
  | event e known => exact ⟨.inl rfl, .inr rfl⟩

/-- A state that is entered may come behind the one in which the tracker was; anything else leaves
the state as it is. -/
theorem Follows.state {s s' : Sight} {state state' : TrackerState}
    (hfollows : Follows delay s state s' state') :
    (s' = .entered → state.Next state') ∧ (s' ≠ .entered → state' = state) := by
  cases hfollows with
  | attempt | tell | restart | pause => exact ⟨nofun, fun _ => rfl⟩
  | abandon => exact ⟨fun _ => .inr (.inr rfl), fun hne => absurd rfl hne⟩
  | subscribe | track | again => exact ⟨fun _ => .inl rfl, fun hne => absurd rfl hne⟩
  | reconnect h | restarted h => exact ⟨fun _ => h.next.1, fun hne => absurd rfl hne⟩
  | stop h => exact ⟨fun _ => h.next.2, fun hne => absurd rfl hne⟩
  | leave => exact ⟨fun _ => .inr rfl, fun hne => absurd rfl hne⟩

/-- **The states in a row go on as they may.** -/
theorem Passage.states (hlog : Passage delay h log h') :
    List.IsChain TrackerState.Next (h.state :: statesOf log) ∧
      (h.state :: statesOf log).getLast? = some h'.state := by
  induction hlog with
  | nil h => exact ⟨List.IsChain.singleton _, rfl⟩
  | @cons h h' h'' log first _ ih =>
    obtain ⟨hentered, hstays⟩ := first.state
    by_cases hsight : h'.sight = .entered
    · have hstates : statesOf (h' :: log) = h'.state :: statesOf log := by
        rw [statesOf, List.filterMap_cons, if_pos hsight]
        rfl
      rw [hstates]
      exact ⟨List.IsChain.cons_cons (hentered hsight) ih.1, ih.2⟩
    · have hstates : statesOf (h' :: log) = statesOf log := by
        rw [statesOf, List.filterMap_cons, if_neg hsight]
        rfl
      rw [hstates, ← hstays hsight]
      exact ih

/-! ## The pauses -/

/-- What stands between an attempt and the pause behind it. -/
inductive Unpaused : Sight → TrackerState → Prop
  | spent {s state} (h : Spent s state) : Unpaused s state
  | restart (count : Nat) (state : TrackerState) : Unpaused (.restart count) state
  | reconnecting : Unpaused .entered .reconnecting

/-- What comes behind something unpaused is such again, or the pause, or the end. -/
theorem Unpaused.follows {s s' : Sight} {state state' : TrackerState} (h : Unpaused s state)
    (hfollows : Follows delay s state s' state') :
    (Unpaused s' state' ∧ (∀ accepted, s' ≠ .attempt accepted) ∧ ∀ n, s' ≠ .pause n) ∨
      (s' = .pause delay ∧ state' = .reconnecting) ∨ (s' = .entered ∧ state' = .stopped) := by
  cases hfollows with
  | attempt | abandon =>
    cases h with
    | spent h => cases h
  | subscribe => exact .inl ⟨.spent .subscribing, nofun, nofun⟩
  | track => exact .inl ⟨.spent .tracking, nofun, nofun⟩
  | tell h e known => exact .inl ⟨.spent (.event e known), nofun, nofun⟩
  | restart h count => exact .inl ⟨.restart count state, nofun, nofun⟩
  | reconnect h => exact .inl ⟨.reconnecting, nofun, nofun⟩
  | stop h => exact .inr (.inr ⟨rfl, rfl⟩)
  | restarted h count => exact .inl ⟨.reconnecting, nofun, nofun⟩
  | pause => exact .inr (.inl ⟨rfl, rfl⟩)
  | again | leave =>
    cases h with
    | spent h => cases h

variable {x y : Happening} {before mid after : List Happening}

theorem pausesOf_cons_of_ne (hno : ∀ n, h.sight ≠ .pause n) :
    pausesOf (h :: log) = pausesOf log := by
  rw [pausesOf, List.filterMap_cons]
  cases hs : h.sight with
  | pause n => exact absurd hs (hno n)
  | entered | attempt | event | restart => rfl

theorem Passage.not_behind_stop (hsight : h.sight = .entered) (hstate : h.state = .stopped)
    (hlog : Passage delay h log h') : log = [] := by
  cases hlog with
  | nil => rfl
  | cons first _ =>
    rw [hsight, hstate] at first
    exact absurd first not_follows_stopped

/-- Behind the entrance into the state of connecting comes the attempt, if there is one. -/
theorem Passage.connects (hsight : h.sight = .entered) (hstate : h.state = .connecting)
    (hlog : Passage delay h (mid ++ y :: after) h') (hmid : ∀ x ∈ mid, ¬ x.IsAttempt) :
    mid = [] := by
  cases mid with
  | nil => rfl
  | cons x mid =>
    obtain ⟨sight, state, shown, listener⟩ := x
    cases hlog with
    | cons first rest =>
      rw [hsight, hstate] at first
      cases first with
      | attempt accepted => exact absurd ⟨accepted, rfl⟩ (hmid _ List.mem_cons_self)
      | abandon => exact absurd (rest.not_behind_stop rfl rfl) (by simp)
      | restart h | reconnect h | stop h => cases h

/-- Behind a pause the next attempt comes without a second one. -/
theorem Passage.paused (hsight : h.sight = .pause delay) (hstate : h.state = .reconnecting)
    (hlog : Passage delay h (mid ++ y :: after) h') (hmid : ∀ x ∈ mid, ¬ x.IsAttempt) :
    pausesOf mid = [] := by
  cases mid with
  | nil => rfl
  | cons x mid =>
    obtain ⟨sight, state, shown, listener⟩ := x
    cases hlog with
    | cons first rest =>
      rw [hsight, hstate] at first
      cases first with
      | again =>
        rw [rest.connects rfl rfl fun x hx => hmid x (List.mem_cons_of_mem _ hx)]
        rfl
      | leave => exact absurd (rest.not_behind_stop rfl rfl) (by simp)
      | restart h | reconnect h | stop h => cases h

/-- Until the pause has come, it is still to come before the next attempt. -/
theorem Passage.unpaused (hunpaused : Unpaused h.sight h.state)
    (hlog : Passage delay h (mid ++ y :: after) h') (hy : y.IsAttempt)
    (hmid : ∀ x ∈ mid, ¬ x.IsAttempt) : pausesOf mid = [delay] := by
  induction mid generalizing h with
  | nil =>
    obtain ⟨accepted, hy⟩ := hy
    cases hlog with
    | cons first _ =>
      rcases hunpaused.follows first with ⟨-, hno, -⟩ | ⟨hpause, -⟩ | ⟨hentered, -⟩
      · exact absurd hy (hno accepted)
      · rw [hy] at hpause
        cases hpause
      · rw [hy] at hentered
        cases hentered
  | cons x mid ih =>
    have hmid' : ∀ x ∈ mid, ¬ x.IsAttempt := fun x hx => hmid x (List.mem_cons_of_mem _ hx)
    cases hlog with
    | cons first rest =>
      rcases hunpaused.follows first with ⟨hx, -, hno⟩ | ⟨hpause, hstate⟩ | ⟨hentered, hstopped⟩
      · rw [pausesOf_cons_of_ne hno]
        exact ih hx rest hmid'
      · have hpauses : pausesOf (x :: mid) = delay :: pausesOf mid := by
          rw [pausesOf, List.filterMap_cons, hpause]
          rfl
        rw [hpauses, rest.paused hpause hstate hmid']
      · exact absurd (rest.not_behind_stop hentered hstopped) (by simp)

/-- **Between an attempt and the next one there is exactly one pause.** -/
theorem Passage.paced (hlog : Passage delay h (before ++ x :: (mid ++ y :: after)) h')
    (hx : x.IsAttempt) (hy : y.IsAttempt) (hmid : ∀ z ∈ mid, ¬ z.IsAttempt) :
    pausesOf mid = [delay] := by
  obtain ⟨⟨⟨_, _, _, _⟩, hz⟩, hrest⟩ := hlog.through
  obtain ⟨accepted, hx⟩ := hx
  have hspent : Spent x.sight x.state := by
    obtain ⟨sight, state, shown, listener⟩ := x
    obtain rfl : sight = .attempt accepted := hx
    cases hz with
    | attempt => exact .attempt accepted
  exact hrest.unpaused (.spent hspent) hy hmid

end Tracker

end DebugBridge
