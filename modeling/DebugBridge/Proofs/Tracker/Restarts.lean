import DebugBridge.Proofs.Tracker.Run

/-!
# When a tracker asks for a restart

A tracker counts the attempts in a row that brought no list, and asks for a restart of the server
when there are as many of them as its settings say. It counts an attempt at its end, whatever the
attempt has brought: one that brought lists and was lost later sets the count back to nothing and
then counts itself. So a row that starts behind such an attempt is one attempt too short.

* `Turn`, `turnsOf` — the attempts of a run, and the restarts that are asked for at the end of each
* `turnsOf_split` — a restart comes after as many attempts as the settings say, as they are counted
* `asPromised_iff` — when that comes to the same as counting the attempts without a list only
* `work_turns` — the attempts of a run are such turns; `run_restarts`, from its start to its end
* `restart_after_list` — a restart that is asked for at the end of an attempt that brought a list
-/

namespace DebugBridge

/-! ## Turns -/

/-- Whether an attempt brings a list. -/
def Attempt.delivers (long : Bool) (a : Attempt) : Bool := !(a.lists long).isEmpty

/-- An attempt that is over: whether it brought a list, and the restarts that were asked for at its
end, by their numbers. -/
structure Turn where
  delivered : Bool
  calls : List Nat
  deriving DecidableEq, Repr

/-- The restarts that are asked for between the pauses of a run, in rows up to the next pause. -/
def callsBetween (pending : List Nat) : List Sight → List (List Nat)
  | [] => [pending]
  | sight :: sights =>
    match sight with
    | .restart n => callsBetween (pending ++ [n]) sights
    | .pause _ => pending :: callsBetween [] sights
    | _ => callsBetween pending sights

theorem callsBetween_plain {plain : List Sight} (h : ∀ s ∈ plain, s.isPlain = true)
    (pending : List Nat) (more : List Sight) :
    callsBetween pending (plain ++ more) = callsBetween pending more := by
  induction plain with
  | nil => rfl
  | cons s plain ih =>
    obtain ⟨hs, hplain⟩ := List.forall_mem_cons.mp h
    rw [← ih hplain]
    cases s with
    | entered => rfl
    | attempt accepted => rfl
    | event e known => rfl
    | restart n => cases hs
    | pause n => cases hs

theorem callsBetween_append {plain : List Sight} (h : ∀ s ∈ plain, s.isPlain = true)
    (pending : List Nat) (sights : List Sight) :
    callsBetween pending (sights ++ plain) = callsBetween pending sights := by
  induction sights generalizing pending with
  | nil =>
    have hplain := callsBetween_plain h pending []
    rwa [List.append_nil] at hplain
  | cons s sights ih =>
    cases s with
    | entered => exact ih pending
    | attempt accepted => exact ih pending
    | event e known => exact ih pending
    | restart n => exact ih (pending ++ [n])
    | pause n => exact congrArg (pending :: ·) (ih [])

theorem callsBetween_restarts (calls pending : List Nat) (more : List Sight) :
    callsBetween pending (calls.map .restart ++ more) = callsBetween (pending ++ calls) more := by
  induction calls generalizing pending with
  | nil => rw [List.map_nil, List.nil_append, List.append_nil]
  | cons n calls ih =>
    rw [List.map_cons, List.cons_append, callsBetween, ih, List.append_assoc]
    rfl

/-! ## What counts -/

/-- How many attempts count after a turn, if `failed` counted before it. -/
def tally (failed : Nat) (turn : Turn) : Nat :=
  if turn.calls = [] then (if turn.delivered then 0 else failed) + 1 else 0

/-- The turn of a tracker that restarts after `n` attempts, when `failed` attempts count before it
and `restarts` restarts were asked for. -/
def turnOf (n failed restarts : Nat) (delivered : Bool) : Turn where
  delivered
  calls := if 0 < n ∧ n ≤ (if delivered then 0 else failed) + 1 then [restarts + 1] else []

/-- The turns of a tracker, from whether each of its attempts brought a list. -/
def turnsOf (n failed restarts : Nat) : List Bool → List Turn
  | [] => []
  | delivered :: flags =>
    let turn := turnOf n failed restarts delivered
    turn :: turnsOf n (tally failed turn) (restarts + turn.calls.length) flags

theorem delivered_turnsOf (n failed restarts : Nat) (flags : List Bool) :
    (turnsOf n failed restarts flags).map (·.delivered) = flags := by
  induction flags generalizing failed restarts with
  | nil => rfl
  | cons delivered flags ih => rw [turnsOf, List.map_cons, ih, turnOf]

/-- At the end of an attempt there is one restart at most. -/
theorem length_calls_turnsOf {n failed restarts : Nat} {flags : List Bool} {turn : Turn}
    (h : turn ∈ turnsOf n failed restarts flags) : turn.calls.length ≤ 1 := by
  induction flags generalizing failed restarts with
  | nil => cases h
  | cons delivered flags ih =>
    rcases List.mem_cons.mp h with rfl | h
    · rw [turnOf]
      by_cases hdue : 0 < n ∧ n ≤ (if delivered then 0 else failed) + 1
      · rw [if_pos hdue]
        exact Nat.le_refl 1
      · rw [if_neg hdue]
        exact Nat.zero_le 1
    · exact ih h

/-- Restarts are numbered in order. -/
theorem calls_turnsOf (n failed restarts : Nat) (flags : List Bool) :
    (turnsOf n failed restarts flags).flatMap (·.calls) =
      List.range' (restarts + 1) ((turnsOf n failed restarts flags).flatMap (·.calls)).length := by
  induction flags generalizing failed restarts with
  | nil => rfl
  | cons delivered flags ih =>
    rw [turnsOf, List.flatMap_cons, List.length_append, ih, List.length_range']
    by_cases hdue : 0 < n ∧ n ≤ (if delivered then 0 else failed) + 1
    · have hcalls : (turnOf n failed restarts delivered).calls = [restarts + 1] := if_pos hdue
      rw [hcalls, List.length_singleton, Nat.add_comm 1, List.range'_succ]
      rfl
    · have hcalls : (turnOf n failed restarts delivered).calls = [] := if_neg hdue
      rw [hcalls, List.length_nil, Nat.zero_add]
      rfl

/-- How many attempts count after some turns of a run: those since a restart was asked for, or since
one that brought a list, and this one with them. -/
def countedRow (past : List Turn) : Nat := past.foldl tally 0

/-- How many attempts without a list stand at the end of some turns of a run, with no restart
between them. -/
def failedRow (past : List Turn) : Nat :=
  (past.reverse.takeWhile fun turn => !turn.delivered && turn.calls.isEmpty).length

/-- What the settings promise: a restart is asked for after an attempt without a list that is the
`n`-th in a row, and after no other. -/
def AsPromised (n : Nat) (turns : List Turn) : Prop :=
  ∀ past turn rest, turns = past ++ turn :: rest →
    (turn.calls ≠ [] ↔ turn.delivered = false ∧ failedRow past + 1 = n)

/-- A restart is asked for after the `n`-th attempt that counts, and after no other. -/
def AsCounted (n : Nat) (turns : List Turn) : Prop :=
  ∀ past turn rest, turns = past ++ turn :: rest →
    (turn.calls ≠ [] ↔ (if turn.delivered then 1 else countedRow past + 1) = n)

theorem failedRow_append (past : List Turn) (turn : Turn) :
    failedRow (past ++ [turn]) =
      if turn.delivered = false ∧ turn.calls = [] then failedRow past + 1 else 0 := by
  unfold failedRow
  rw [List.reverse_append, List.reverse_singleton, List.singleton_append, List.takeWhile_cons]
  by_cases h : turn.delivered = false ∧ turn.calls = []
  · rw [if_pos h, if_pos (by simp [h.1, h.2]), List.length_cons]
  · have hno : (!turn.delivered && turn.calls.isEmpty) = false := by
      cases hd : turn.delivered with
      | true => rfl
      | false =>
        have : turn.calls ≠ [] := fun hc => h ⟨hd, hc⟩
        simpa using this
    rw [if_neg h, if_neg (by rw [hno]; exact Bool.false_ne_true)]
    rfl

theorem countedRow_append (past : List Turn) (turn : Turn) :
    countedRow (past ++ [turn]) = tally (countedRow past) turn := List.foldl_append

/-- What counts stays below the number at which a restart sets it back. -/
theorem tally_turnOf_lt {n failed : Nat} (hfailed : failed < n) (restarts : Nat) (delivered : Bool) :
    tally failed (turnOf n failed restarts delivered) < n := by
  rw [tally, turnOf]
  by_cases hdue : 0 < n ∧ n ≤ (if delivered then 0 else failed) + 1
  · rw [if_neg (by simp [hdue])]
    exact hdue.1
  · rw [if_pos (if_neg hdue)]
    show (if delivered then 0 else failed) + 1 < n
    omega

/-- **The turns of a tracker are as it counts**, whatever counted before them. -/
theorem turnsOf_split {n failed : Nat} (hfailed : failed < n) (restarts : Nat) (flags : List Bool)
    {past rest : List Turn} {turn : Turn}
    (h : turnsOf n failed restarts flags = past ++ turn :: rest) :
    turn.calls ≠ [] ↔ (if turn.delivered then 1 else past.foldl tally failed + 1) = n := by
  induction past generalizing failed restarts flags with
  | nil =>
    cases flags with
    | nil => cases h
    | cons delivered flags =>
      obtain ⟨rfl, -⟩ := List.cons.inj h
      rw [turnOf, List.foldl_nil]
      cases delivered <;> simp <;> omega
  | cons first past ih =>
    cases flags with
    | nil => cases h
    | cons delivered flags =>
      obtain ⟨rfl, hrest⟩ := List.cons.inj h
      exact ih (tally_turnOf_lt hfailed restarts delivered) _ _ hrest

/-- Without a number of attempts there is never a restart. -/
theorem calls_turnsOf_zero {failed restarts : Nat} {flags : List Bool} {turn : Turn}
    (h : turn ∈ turnsOf 0 failed restarts flags) : turn.calls = [] := by
  induction flags generalizing failed restarts with
  | nil => cases h
  | cons delivered flags ih =>
    rcases List.mem_cons.mp h with rfl | h
    · simp [turnOf]
    · exact ih h

theorem asCounted_turnsOf (n restarts : Nat) (flags : List Bool) :
    AsCounted n (turnsOf n 0 restarts flags) := by
  intro past turn rest h
  cases n with
  | zero =>
    have hmem : turn ∈ turnsOf 0 0 restarts flags := by
      rw [h]
      exact List.mem_append_right _ List.mem_cons_self
    have hcalls := calls_turnsOf_zero hmem
    cases turn.delivered <;> simp [hcalls]
  | succ n => exact turnsOf_split (Nat.succ_pos n) restarts flags h

/-! ## Rows that are too short -/

/-- Behind an attempt that brought a list, `n - 1` attempts in a row brought none. -/
def HasShortRow (n : Nat) (turns : List Turn) : Prop :=
  ∃ past turn between rest, turns = past ++ turn :: (between ++ rest) ∧ turn.delivered = true ∧
    (∀ turn ∈ between, turn.delivered = false) ∧ between.length + 1 = n

/-- What counts are the attempts of the row without a list, and perhaps one that brought a list in
front of them. -/
theorem countedRow_eq (past : List Turn) :
    countedRow past = failedRow past ∨
      ∃ early turn between, past = early ++ turn :: between ∧ turn.delivered = true ∧
        (∀ turn ∈ between, turn.delivered = false) ∧ failedRow past = between.length ∧
        countedRow past = between.length + 1 := by
  -- by induction on the turns from the latest one on
  obtain ⟨back, rfl⟩ : ∃ back, past = back.reverse := ⟨past.reverse, past.reverse_reverse.symm⟩
  induction back with
  | nil => exact .inl rfl
  | cons last back ih =>
    rw [List.reverse_cons, countedRow_append, failedRow_append, tally]
    by_cases hcalls : last.calls = []
    · rw [if_pos hcalls]
      cases hd : last.delivered with
      | true =>
        refine .inr ⟨back.reverse, last, [], rfl, hd, fun _ h => absurd h List.not_mem_nil, ?_, rfl⟩
        exact if_neg fun h => by cases h.1
      | false =>
        rw [if_pos (show false = false ∧ last.calls = [] from ⟨rfl, hcalls⟩)]
        rcases ih with ih | ⟨early, turn, between, hback, hturn, hbetween, hfailed, hcounted⟩
        · exact .inl (congrArg (· + 1) ih)
        · refine .inr ⟨early, turn, between ++ [last], ?_, hturn, ?_, ?_, ?_⟩
          · rw [hback, List.append_assoc, List.cons_append]
          · intro turn' hmem
            rcases List.mem_append.mp hmem with hmem | hmem
            · exact hbetween turn' hmem
            · rw [List.mem_singleton.mp hmem, hd]
          · rw [hfailed, List.length_append, List.length_singleton]
          · rw [List.length_append, List.length_singleton]
            exact congrArg (· + 1) hcounted
    · rw [if_neg hcalls, if_neg fun h => hcalls h.2]
      exact .inl rfl

/-- No restart is asked for behind a list before as many attempts have counted. -/
theorem AsCounted.behind_list {n : Nat} {turns past : List Turn} {turn : Turn}
    (h : AsCounted n turns) (hturn : turn.delivered = true) {between rest : List Turn}
    (hturns : turns = past ++ turn :: (between ++ rest))
    (hbetween : ∀ turn ∈ between, turn.delivered = false) (hn : between.length + 1 < n) :
    countedRow (past ++ turn :: between) = between.length + 1 ∧
      failedRow (past ++ turn :: between) = between.length := by
  obtain ⟨back, rfl⟩ : ∃ back, between = back.reverse :=
    ⟨between.reverse, between.reverse_reverse.symm⟩
  induction back generalizing rest with
  | nil =>
    have hcalls : turn.calls = [] := by
      have hlaw := h past turn _ hturns
      rw [if_pos hturn] at hlaw
      refine Classical.byContradiction fun hne => ?_
      have := hlaw.mp hne
      omega
    rw [List.reverse_nil, countedRow_append, failedRow_append, tally, if_pos hcalls, if_pos hturn,
      if_neg fun hno => by rw [hturn] at hno; cases hno.1]
    exact ⟨rfl, rfl⟩
  | cons last back ih =>
    rw [List.reverse_cons, List.append_assoc] at hturns
    rw [List.length_reverse, List.length_cons] at hn
    obtain ⟨hcounted, hfailed⟩ := ih hturns
      (fun turn' hmem => hbetween turn' (by simpa using .inl (List.mem_reverse.mp hmem)))
      (by rw [List.length_reverse]; omega)
    have hlast : last.delivered = false := hbetween last (by simp)
    have hcalls : last.calls = [] := by
      have hlaw := h (past ++ turn :: back.reverse) last rest (by rw [hturns]; simp)
      rw [if_neg (by rw [hlast]; exact Bool.false_ne_true), hcounted] at hlaw
      refine Classical.byContradiction fun hne => ?_
      have := hlaw.mp hne
      rw [List.length_reverse] at this
      omega
    rw [List.reverse_cons, ← List.cons_append, ← List.append_assoc, countedRow_append,
      failedRow_append, tally, if_pos hcalls, if_neg (by rw [hlast]; exact Bool.false_ne_true),
      if_pos ⟨hlast, hcalls⟩, hcounted, hfailed, List.length_append, List.length_singleton]
    exact ⟨rfl, rfl⟩

/-- **Restarts come as promised exactly if there is no short row.** -/
theorem asPromised_iff {n : Nat} {turns : List Turn} (h : AsCounted n turns) :
    AsPromised n turns ↔ ¬ HasShortRow n turns := by
  constructor
  · rintro hpromise ⟨past, turn, between, rest, hturns, hturn, hbetween, hlength⟩
    rcases List.eq_nil_or_concat between with rfl | ⟨init, last, hconcat⟩
    · -- the attempt that brought the list counts itself, and that is one too many already
      have hlaw := h past turn _ hturns
      rw [if_pos hturn] at hlaw
      have hcalls := (hpromise past turn _ hturns).mp (hlaw.mpr hlength)
      rw [hturn] at hcalls
      cases hcalls.1
    · rw [List.concat_eq_append] at hconcat
      subst hconcat
      rw [List.append_assoc] at hturns
      rw [List.length_append, List.length_singleton] at hlength
      obtain ⟨hcounted, hfailed⟩ := h.behind_list hturn hturns
        (fun turn' hmem => hbetween turn' (List.mem_append_left _ hmem)) (by omega)
      have hlast : last.delivered = false := hbetween last (by simp)
      have hsplit : turns = (past ++ turn :: init) ++ last :: rest := by
        rw [hturns]
        simp
      have hlaw := h _ last rest hsplit
      rw [if_neg (by rw [hlast]; exact Bool.false_ne_true), hcounted] at hlaw
      have hcalls := (hpromise _ last rest hsplit).mp (hlaw.mpr (by omega))
      omega
  · intro hno past turn rest hturns
    rw [h past turn rest hturns]
    cases hd : turn.delivered with
    | true =>
      have hn : ¬ 1 = n := fun hn =>
        hno ⟨past, turn, [], rest, hturns, hd, fun _ h => absurd h List.not_mem_nil, hn⟩
      simp [hn]
    | false =>
      rcases countedRow_eq past with heq | ⟨early, first, between, hpast, hfirst, hbetween, hf, hc⟩
      · simp [heq]
      · -- one more than the row would make it short, and so would the row itself
        have hlong : ¬ between.length + 2 = n := by
          intro hn
          refine hno ⟨early, first, between ++ [turn], rest, ?_, hfirst, ?_, ?_⟩
          · rw [hturns, hpast]
            simp
          · intro turn' hmem
            rcases List.mem_append.mp hmem with hmem | hmem
            · exact hbetween turn' hmem
            · rw [List.mem_singleton.mp hmem, hd]
          · rw [List.length_append, List.length_singleton]
            omega
        have hshort : ¬ between.length + 1 = n := by
          intro hn
          refine hno ⟨early, first, between, turn :: rest, ?_, hfirst, hbetween, hn⟩
          rw [hturns, hpast]
          simp
        rw [hf, hc]
        simp [hlong, hshort]

namespace Tracker

variable {t t' : Tracker} {lists : List (List Device)} {log : List Happening}

/-! ## The restarts of a run -/

/-- A tracker counts an attempt by whether it brought a list. -/
theorem counted_turnOf (hcan : t.settings.canRestart = true) (lists : List (List Device)) :
    let turn := turnOf t.settings.restartAfter t.failed t.restarts !lists.isEmpty
    t.calls lists.length = turn.calls ∧
      (t.counted lists.length).failed = tally t.failed turn ∧
      (t.counted lists.length).restarts = t.restarts + turn.calls.length := by
  have hpos : lists.length > 0 ↔ (!lists.isEmpty) = true := by
    cases lists <;> simp
  have hcalls : t.calls lists.length =
      (turnOf t.settings.restartAfter t.failed t.restarts !lists.isEmpty).calls := by
    simp only [calls, due, turnOf, hcan, Bool.and_true, hpos, Bool.and_eq_true, decide_eq_true_eq]
  refine ⟨hcalls, ?_, by rw [counted, hcalls]⟩
  rw [tally, ← hcalls, counted, calls, hcan, Bool.and_true, turnOf]
  cases t.due lists.length with
  | true => rfl
  | false => simp only [hpos, Bool.false_eq_true, if_false, if_true]

theorem plain_sights {part : List Happening} (h : ∀ h ∈ part, h.sight.isPlain = true) :
    ∀ s ∈ part.map (·.sight), s.isPlain = true := by
  intro s hs
  obtain ⟨seen, hmem, rfl⟩ := List.mem_map.mp hs
  exact h seen hmem

/-- **An attempt that is over is a turn**: its restarts stand before its pause. -/
theorem settle_turn (hcan : t.settings.canRestart = true) (hwent : Went t t' lists log) :
    let u := t'.settle lists.length
    let turn := turnOf t.settings.restartAfter t.failed t.restarts !lists.isEmpty
    u.settings = t.settings ∧ u.failed = tally t.failed turn ∧
      u.restarts = t.restarts + turn.calls.length ∧
      ∃ round, u.happenings.toList = t.happenings.toList ++ round ∧
        ∀ more : List Happening, callsBetween [] ((round ++ more).map (·.sight)) =
          turn.calls :: callsBetween [] (more.map (·.sight)) := by
  have hcan' : t'.settings.canRestart = true := by rw [hwent.settings, hcan]
  obtain ⟨hcalls, hfailed, hrestarts⟩ := counted_turnOf hcan' lists
  rw [hwent.settings, hwent.failed, hwent.restarts] at hcalls hfailed hrestarts
  obtain ⟨entered, hentered, -, hcore, pause, hpause, hseen⟩ := t'.settle_eq lists.length
  have hsettings := congrArg settings hcore
  have hfailed' := congrArg failed hcore
  have hrestarts' := congrArg restarts hcore
  refine ⟨hsettings.trans hwent.settings, hfailed'.trans hfailed, hrestarts'.trans hrestarts, _,
    by rw [hseen, hwent.happenings, List.append_assoc], fun more => ?_⟩
  have hsights (numbers : List Nat) :
      (numbers.map fun n => (⟨.restart n, t'.state, t'.published, 0⟩ : Happening)).map (·.sight) =
        numbers.map .restart := by
    rw [List.map_map]
    rfl
  simp only [List.map_append, List.append_assoc, hsights, hcalls]
  rw [callsBetween_plain (plain_sights hwent.plain), callsBetween_restarts,
    callsBetween_plain (plain_sights hentered), List.nil_append, List.map_cons, hpause]
  rfl

/-- **The attempts of a run that are over are the turns of the tracker**, and nothing else asks for
a restart. -/
theorem work_turns (ht : t.Ready) (hcan : t.settings.canRestart = true) (attempts : List Attempt) :
    ∃ ended log, ended <+: attempts ∧ ((∀ a ∈ attempts, a.silent = false) → ended = attempts) ∧
      (t.work {} attempts).happenings.toList = t.happenings.toList ++ log ∧
      (let turns := turnsOf t.settings.restartAfter t.failed t.restarts
        (ended.map (·.delivers t.settings.long))
       callsBetween [] (log.map (·.sight)) = turns.map (·.calls) ++ [[]] ∧
       (t.work {} attempts).restarts = t.restarts + (turns.flatMap (·.calls)).length) := by
  induction attempts generalizing t with
  | nil => exact ⟨[], [], List.nil_prefix, fun _ => rfl, (List.append_nil _).symm, rfl, rfl⟩
  | cons a rest ih =>
    obtain ⟨t', log, hwent, hcases⟩ := work_cons ht a rest
    rcases hcases with ⟨hsilent, link, hwork⟩ | ⟨hready, hwork⟩
    · -- the attempt is not over, and no restart is asked for
      have hcalls := callsBetween_plain (plain_sights hwent.plain) [] []
      rw [List.append_nil] at hcalls
      rw [hwork]
      refine ⟨[], log, List.nil_prefix, fun hloud => ?_, hwent.happenings, hcalls, hwent.restarts⟩
      have hloud := hloud a List.mem_cons_self
      rw [hsilent] at hloud
      cases hloud
    · obtain ⟨hsettings, hfailed, hrestarts, round, hround, hcalls⟩ := settle_turn hcan hwent
      obtain ⟨ended, more, hended, hall, hhappenings, hmore, hnext⟩ :=
        ih hready (by rw [hsettings, hcan])
      rw [hsettings, hfailed, hrestarts] at hmore hnext
      rw [hwork]
      refine ⟨a :: ended, round ++ more, List.cons_prefix_cons.mpr ⟨rfl, hended⟩, fun hloud => ?_,
        ?_, ?_, ?_⟩
      · rw [hall fun a' ha' => hloud a' (List.mem_cons_of_mem _ ha')]
      · rw [hhappenings, hround, List.append_assoc]
      · rw [hcalls, hmore]
        rfl
      · rw [hnext, Nat.add_assoc, ← List.length_append]
        rfl

theorem stop_plain (t : Tracker) :
    ∃ log, t.stop.happenings.toList = t.happenings.toList ++ log ∧
      (∀ h ∈ log, h.sight.isPlain = true) ∧ t.stop.restarts = t.restarts := by
  obtain ⟨log, henter⟩ := t.halted.enter_went .stopped
  have hhalted : t.halted.happenings = t.happenings ∧ t.halted.restarts = t.restarts := by
    unfold halted
    cases t.waiting with
    | none => exact ⟨rfl, rfl⟩
    | some link => exact ⟨rfl, rfl⟩
  rw [stop_eq]
  exact ⟨log, hhalted.1 ▸ henter.happenings, henter.plain, henter.restarts.trans hhalted.2⟩

/-- The turns of a run from its start to its end. -/
theorem run_turns (ht : t.Idle) (hcan : t.settings.canRestart = true) (attempts : List Attempt) :
    ∃ ended log, ended <+: attempts ∧ ((∀ a ∈ attempts, a.silent = false) → ended = attempts) ∧
      (t.start {} attempts).stop.happenings.toList = t.happenings.toList ++ log ∧
      (let turns := turnsOf t.settings.restartAfter 0 t.restarts
        (ended.map (·.delivers t.settings.long))
       callsBetween [] (log.map (·.sight)) = turns.map (·.calls) ++ [[]] ∧
       (t.start {} attempts).stop.restarts =
        t.restarts + (turns.flatMap (·.calls)).length) := by
  obtain ⟨log₁, henter⟩ := t.fresh.enter_went .connecting
  have hsettings : (t.fresh.enter .connecting).settings = t.settings := henter.settings
  have hfailed : (t.fresh.enter .connecting).failed = 0 := henter.failed
  have hrestarts : (t.fresh.enter .connecting).restarts = t.restarts := henter.restarts
  obtain ⟨ended, log₂, hended, hall, hwork, hcalls, hcount⟩ :=
    work_turns (ready_fresh ht .connecting) (by rw [hsettings, hcan]) attempts
  rw [hsettings, hfailed, hrestarts] at hcalls hcount
  obtain ⟨log₃, hstop, hplain, hlast⟩ := stop_plain ((t.fresh.enter .connecting).work {} attempts)
  rw [start_eq ht]
  refine ⟨ended, log₁ ++ log₂ ++ log₃, hended, hall, ?_, ?_, ?_⟩
  · have hstart : t.fresh.happenings = t.happenings := rfl
    rw [hstop, hwork, henter.happenings, hstart, List.append_assoc, List.append_assoc,
      List.append_assoc]
  · rw [List.map_append, List.map_append, callsBetween_append (plain_sights hplain),
      callsBetween_plain (plain_sights henter.plain), hcalls]
  · rw [hlast, hcount]

/--
**A run asks for a restart after every so many attempts that count.**

The turns are the attempts of the run that are over: all of them, unless the tracker waits on a
connection that has fallen silent. After each of them there is one restart or none, and restarts are
numbered on from those of earlier runs. A restart comes after the attempt that is the `n`-th to
count since the latest of: the start of the run, the last restart, and the last attempt that brought
a list, which counts itself. This is the `n`-th attempt in a row without a list exactly if `n - 1`
of them never stand right behind one that brought a list. If `n` is zero there is no restart.
-/
theorem run_restarts (ht : t.Idle) (hcan : t.settings.canRestart = true)
    (attempts : List Attempt) :
    ∃ ended turns log, ended <+: attempts ∧
      ((∀ a ∈ attempts, a.silent = false) → ended = attempts) ∧
      (let u := (t.start {} attempts).stop
       let n := t.settings.restartAfter
       u.happenings.toList = t.happenings.toList ++ log ∧
       turns.map (·.delivered) = ended.map (·.delivers t.settings.long) ∧
       callsBetween [] (log.map (·.sight)) = turns.map (·.calls) ++ [[]] ∧
       (∀ turn ∈ turns, turn.calls.length ≤ 1) ∧
       turns.flatMap (·.calls) = List.range' (t.restarts + 1) (u.restarts - t.restarts) ∧
       u.restarts = t.restarts + (turns.flatMap (·.calls)).length ∧
       AsCounted n turns ∧ (AsPromised n turns ↔ ¬ HasShortRow n turns) ∧
       (n = 0 → u.restarts = t.restarts)) := by
  obtain ⟨ended, log, hended, hall, hseen, hcalls, hcount⟩ := run_turns ht hcan attempts
  have hcounted := asCounted_turnsOf t.settings.restartAfter t.restarts
    (ended.map (·.delivers t.settings.long))
  refine ⟨ended, _, log, hended, hall, hseen, delivered_turnsOf _ _ _ _, hcalls,
    fun _ => length_calls_turnsOf, ?_, hcount, hcounted, asPromised_iff hcounted, fun hn => ?_⟩
  · rw [hcount, Nat.add_sub_cancel_left]
    exact calls_turnsOf _ _ _ _
  · rw [hcount, hn]
    have hnone : (turnsOf 0 0 t.restarts
        (ended.map (·.delivers t.settings.long))).flatMap (·.calls) = [] := by
      rw [List.flatMap_eq_nil_iff]
      exact fun _ => calls_turnsOf_zero
    rw [hnone]
    rfl

/-- If all attempts are refused, then restarts come as promised. -/
theorem run_restarts_refused :
    ∃ (t : Tracker) (turns : List Turn) (log : List Happening),
      let u := (t.start {} [.refused, .refused, .refused]).stop
      t.Idle ∧ t.settings.canRestart = true ∧ t.settings.restartAfter = 2 ∧
        u.happenings.toList = log ∧ turns.map (·.delivered) = [false, false, false] ∧
        callsBetween [] (log.map (·.sight)) = turns.map (·.calls) ++ [[]] ∧
        AsPromised 2 turns := by
  let settings : TrackerSettings := { restartAfter := 2, canRestart := true }
  obtain ⟨ended, turns, log, -, hall, hseen, hdelivered, hcalls, -, -, -, -, hpromise, -⟩ :=
    run_restarts (idle_new settings 1) rfl [.refused, .refused, .refused]
  rw [hall (by decide)] at hdelivered
  refine ⟨_, turns, log, idle_new settings 1, rfl, rfl, hseen, hdelivered, hcalls,
    hpromise.mpr ?_⟩
  rintro ⟨past, turn, between, rest, hturns, hturn, -⟩
  have hmem : turn.delivered ∈ turns.map (·.delivered) :=
    List.mem_map_of_mem (by rw [hturns]; exact List.mem_append_right _ List.mem_cons_self)
  rw [hdelivered, hturn] at hmem
  exact absurd hmem (by decide)

/-- After the first attempt a restart is asked for, although it brought a list. -/
theorem restart_after_list :
    ∃ (t : Tracker) (link : Link) (log : List Happening),
      let u := (t.start {} [.made link false]).stop
      let turns : List Turn := [⟨true, [1]⟩]
      t.Idle ∧ t.settings.canRestart = true ∧ t.settings.restartAfter = 1 ∧
        u.happenings.toList = log ∧ u.restarts = 1 ∧
        turns.map (·.delivered) = [Attempt.made link false].map (·.delivers t.settings.long) ∧
        callsBetween [] (log.map (·.sight)) = turns.map (·.calls) ++ [[]] ∧
        ¬ AsPromised 1 turns := by
  let settings : TrackerSettings := { restartAfter := 1, canRestart := true }
  let body : Bytes := Utf8.ofString "S1 device"
  let frames : Bytes := Utf8.ofString "0009" ++ body ++ []
  let link : Link := { inflow := .ofBytes (Reply.okayStatus ++ frames) }
  have hbodies : Frame.bodies frames = [body] :=
    Frame.bodies_frames [(Utf8.ofString "0009", body)] (by decide) rfl
  have hflags : [Attempt.made link false].map (·.delivers settings.long) = [true] := by
    simp only [List.map_cons, List.map_nil, link, Attempt.delivers, Attempt.lists_ofBytes, hbodies]
    rfl
  obtain ⟨ended, log, -, hall, hseen, hcalls, hcount⟩ :=
    run_turns (idle_new settings 1) rfl [.made link false]
  rw [hall (by decide)] at hcalls hcount
  rw [hflags] at hcalls hcount
  refine ⟨_, link, log, idle_new settings 1, rfl, rfl, hseen, hcount, hflags.symm, hcalls,
    fun hpromise => ?_⟩
  have hlaw := (hpromise [] ⟨true, [1]⟩ [] rfl).mp (List.cons_ne_nil 1 [])
  cases hlaw.1

end Tracker

end DebugBridge
