import Horst.Satellite.Coverage

/-!
What a callback leaves behind in the state, and whether it started a trigger
outside normal operation: for facts, for the requests of the operator, and for
every pattern of failing `uv_spawn`s.
-/

set_option autoImplicit false
set_option relaxedAutoImplicit false

namespace Horst

open Foundation Foundation.Nested Foundation.Outcomes

/-- A trigger that was started in safemode or in manualmode. -/
def Launch.Stray (l : Launch) : Prop := l.action.isTrigger = true ∧ ¬ l.state.Normal

namespace Satellite

variable (uvSpawn : Script → ℕ → Bool)

/-- A pass over the state `s` starts a stray trigger: an ADCS rule matches along
with the emergency, or does so once a failed `enter_safemode.sh` runs the table again. -/
def PassStrays (s : State) (k : ℕ) : Prop :=
  s.Urgent ∧ s.adcsDue ≠ [] ∧ (s.maneuvermode = false ∨ enterOutcomes uvSpawn k = false)

/-- A request for safemode in the state `s` starts a stray trigger. -/
def EntryStrays (s : State) (k : ℕ) : Prop :=
  if s.Normal then
    if s.emergency = 0 then enterOutcomes uvSpawn k = true ∧ s.dueTriggers s ≠ []
    else s.adcsDue ≠ [] ∧ (s.maneuvermode = false ∨ enterOutcomes uvSpawn k = false ∨
      enterOutcomes uvSpawn (k + 1) = false)
  else enterOutcomes uvSpawn k = false ∧ (s.enter 0).Urgent ∧ s.adcsDue ≠ []

def entryState (s : State) (k : ℕ) : State :=
  if enterOutcomes uvSpawn k = true ∧ ¬ s.Urgent then s.enter 3 else (s.enter 0).settle

/-- The state that leaving manualmode in the state `s` ends in; `started` tells
whether `leave_manualmode.sh` could be started. -/
def leaveState (s : State) (k : ℕ) (started : Bool) : State :=
  if started = false ∧ s.safemode ≠ 0 then
    entryState uvSpawn { s with manualmode := false, safemode := 0 } k
  else
    State.settle { s with manualmode := false }

def LeaveStrays (s : State) (k : ℕ) (started : Bool) : Prop :=
  PassStrays uvSpawn { s with manualmode := false } k ∨
    (started = false ∧
      ((s.safemode = 0 ∧ s.emergency ≠ 0 ∧ s.adcsDue ≠ []) ∨
        (s.safemode ≠ 0 ∧ EntryStrays uvSpawn { s with manualmode := false, safemode := 0 } k)))

/-- A computation that appends to the ledger: the state it ends in, and whether
one of the scripts it started is a stray trigger. -/
structure Left (s' : State) (strays : Prop) (sat sat' : Satellite) : Prop where
  state : sat'.currentState = s'
  launches : ∃ ls, sat'.launches = sat.launches ++ ls ∧ ((∃ l ∈ ls, l.Stray) ↔ strays)

variable {uvSpawn} {onEvent : Handler Event Satellite} {s s₁ s₂ : State} {P Q : Prop}
  {sat sat₁ sat' : Satellite}

theorem Left.refl (sat : Satellite) : Left sat.currentState False sat sat :=
  ⟨rfl, [], by simp, by simp⟩

theorem Left.trans (first : Left s₁ P sat sat₁) (second : Left s₂ Q sat₁ sat') :
    Left s₂ (P ∨ Q) sat sat' := by
  obtain ⟨ls₁, append₁, strays₁⟩ := first.launches
  obtain ⟨ls₂, append₂, strays₂⟩ := second.launches
  refine ⟨second.state, ls₁ ++ ls₂, ?_, ?_⟩
  · rw [append₂, append₁, List.append_assoc]
  · rw [← strays₁, ← strays₂]
    simp only [List.mem_append, or_and_right, exists_or]

theorem Left.congr (h : Left s P sat sat') {sat₀ sat₀' : Satellite}
    (launches : sat₀.launches = sat.launches) (state : sat₀'.currentState = sat'.currentState)
    (launches' : sat₀'.launches = sat'.launches) : Left s P sat₀ sat₀' := by
  obtain ⟨ls, append, strays⟩ := h.launches
  exact ⟨state.trans h.state, ls, by rw [launches', append, launches], strays⟩

theorem Left.of_iff (h : Left s P sat sat') (state : s = s₁) (iff : P ↔ Q) :
    Left s₁ Q sat sat' := by
  obtain ⟨ls, append, strays⟩ := h.launches
  exact ⟨h.state.trans state, ls, append, strays.trans iff⟩

private theorem passStrays_enter_zero (s : State) (k : ℕ) :
    PassStrays uvSpawn (s.enter 0) k ↔ (s.enter 0).Urgent ∧ s.adcsDue ≠ [] := by
  have off : (s.enter 0).maneuvermode = false := rfl
  have due : (s.enter 0).adcsDue = s.adcsDue := rfl
  simp only [PassStrays, off, due, true_or, and_true]

/-- The triggers of an urgent pass are started in the safemode it entered. -/
theorem Passed.left (h : Passed uvSpawn s sat sat') :
    Left s.settle (PassStrays uvSpawn s sat.enterAttempts) sat sat' := by
  obtain ⟨ls, append, each, reach⟩ := h.launches
  refine ⟨h.state, ls, append, ?_⟩
  by_cases urgent : s.Urgent
  · have safe : ¬ s.settle.Normal := by
      rw [State.settle_of_urgent urgent]
      exact State.not_normal_enter urgent.2
    have stray : (∃ l ∈ ls, l.Stray) ↔ ∃ l ∈ ls, l.action.isTrigger = true := by
      constructor
      · rintro ⟨l, mem, trigger, _⟩
        exact ⟨l, mem, trigger⟩
      · rintro ⟨l, mem, trigger⟩
        exact ⟨l, mem, trigger, by rwa [(each l mem).1]⟩
    rw [stray, reach, passTriggers_of_urgent urgent]
    simp only [PassStrays, urgent, true_and]
  · have settled : s.settle = s := State.settle_of_not_urgent urgent
    constructor
    · rintro ⟨l, mem, _, modes⟩
      have launched := each l mem
      rw [launched.1, settled] at modes
      exact absurd launched.2.1 modes
    · intro strays
      exact absurd strays.1 urgent

theorem left_fact (serves : ServesFacts uvSpawn onEvent) {f : Event} (fact : f.isFact = true)
    (idle : sat.currentState.Idle) (h : onEvent f sat = some sat') :
    Left (f.update sat.currentState).settle
      (PassStrays uvSpawn (f.update sat.currentState) sat.enterAttempts) sat sat' :=
  (serves f sat sat' fact idle h).left

private theorem left_created (id : ℕ) (a : Action) (spawned : Bool) (sat : Satellite) :
    Left sat.currentState (a.isTrigger = true ∧ ¬ sat.currentState.Normal) sat
      (sat.created id a spawned) :=
  ⟨rfl, _, launches_created sat id a spawned, by simp [Launch.Stray]⟩

theorem left_script {a : Action} (lenient : a.isLenient = true) {id : ℕ}
    (h : ShellCommand.perform uvSpawn onEvent id a sat = some sat') :
    Left sat.currentState (a.isTrigger = true ∧ ¬ sat.currentState.Normal) sat sat' := by
  obtain ⟨sat₁, run, state, launches⟩ := ShellCommand.perform_lenient uvSpawn id lenient sat
  obtain rfl : sat₁ = sat' := Option.some.inj ((run onEvent).symm.trans h)
  refine ⟨state, _, launches, ?_⟩
  simp [Launch.Stray, launch]

private theorem left_triggers (s target : State)
    (h : performActions uvSpawn onEvent (s.dueTriggers target) sat = some sat') :
    Left sat.currentState (s.dueTriggers target ≠ [] ∧ ¬ sat.currentState.Normal) sat sat' := by
  obtain ⟨sat₁, run, state, _, ls, launches, each, reach⟩ :=
    performActions_triggers uvSpawn s target sat
  obtain rfl : sat₁ = sat' := Option.some.inj ((run onEvent).symm.trans h)
  refine ⟨state, ls, launches, ?_⟩
  constructor
  · rintro ⟨l, mem, trigger, modes⟩
    rw [(each l mem).1] at modes
    exact ⟨reach.mp ⟨l, mem, trigger⟩, modes⟩
  · rintro ⟨due, modes⟩
    obtain ⟨l, mem, trigger⟩ := reach.mpr due
    exact ⟨l, mem, trigger, by rwa [(each l mem).1]⟩

theorem left_rules (covered : s.Covered) (target : State)
    (h : performActions uvSpawn onEvent (s.autonomousRules target) sat = some sat') :
    Left sat.currentState
      (s.Normal ∧ s.dueTriggers target ≠ [] ∧ ¬ sat.currentState.Normal) sat sat' := by
  by_cases normal : s.Normal
  · rw [State.autonomousRules_of_calm target normal (covered.emergency_of_normal normal)] at h
    exact (left_triggers s target h).of_iff rfl (by simp only [normal, true_and])
  · rw [State.autonomousRules_of_not_normal target normal] at h
    obtain rfl : sat = sat' := Option.some.inj h
    exact (Left.refl sat).of_iff rfl (by simp only [normal, false_and])

theorem left_enterSafeMode (serves : ServesFacts uvSpawn onEvent) {reason : UInt8}
    (nonzero : reason ≠ 0) {id : ℕ} (idle : sat.currentState.Idle)
    (h : EnterSafeMode.perform uvSpawn onEvent id reason sat = some sat') :
    (enterOutcomes uvSpawn sat.enterAttempts = true ∧
      sat'.enterAttempts = sat.enterAttempts + 1 ∧
      Left (sat.currentState.enter reason) False sat sat') ∨
    (enterOutcomes uvSpawn sat.enterAttempts = false ∧
      Left (sat.currentState.enter 0).settle
        ((sat.currentState.enter 0).Urgent ∧ sat.currentState.adcsDue ≠ []) sat sat') := by
  rcases EnterSafeMode.perform_spec uvSpawn serves nonzero id idle h with
    ⟨success, state, launches⟩ | ⟨fail, sat₁, launches, again⟩
  · refine Or.inl ⟨success, ?_, state, _, launches, ?_⟩
    · simp [enterAttempts_append launches, Action.script]
    · simp [Launch.Stray, Action.isTrigger]
  · have first : Left sat₁.currentState False sat sat₁ :=
      ⟨rfl, _, launches, by simp [Launch.Stray, Action.isTrigger]⟩
    refine Or.inr ⟨fail, (first.trans again.left).of_iff rfl ?_⟩
    rw [false_or, passStrays_enter_zero]

private theorem left_urgent (serves : ServesFacts uvSpawn onEvent) (idle : sat.currentState.Idle)
    (urgent : s.Urgent) (same : sat.currentState.enter 0 = s.enter 0)
    (h : performActions uvSpawn onEvent (s.autonomousRules s) sat = some sat') :
    Left s.settle (s.adcsDue ≠ [] ∧
      (s.maneuvermode = false ∨ enterOutcomes uvSpawn sat.enterAttempts = false)) sat sat' := by
  rw [State.autonomousRules_of_urgent s urgent, performActions_cons] at h
  obtain ⟨sat₁, enter, triggers⟩ := Option.bind_eq_some_iff.mp h
  have attempts : (sat.prepared (.enterSafeMode s.emergency)).enterAttempts = sat.enterAttempts :=
    attempts_congr (launches_prepared sat _) _
  have entered := left_enterSafeMode serves urgent.2 (by exact idle) enter
  have target : sat.currentState.enter s.emergency = s.settle := by
    calc sat.currentState.enter s.emergency
        = (sat.currentState.enter 0).enter s.emergency := rfl
      _ = (s.enter 0).enter s.emergency := by rw [same]
      _ = s.settle := (State.settle_of_urgent urgent).symm
  have again : (sat.currentState.enter 0).settle = s.settle := by
    rw [same, settle_enter_zero urgent]
  have due : sat.currentState.adcsDue = s.adcsDue := by
    calc sat.currentState.adcsDue
        = (sat.currentState.enter 0).adcsDue := rfl
      _ = s.adcsDue := by rw [same]; rfl
  have still : (sat.currentState.enter 0).Urgent := by
    rw [same]
    exact urgent_enter_zero urgent
  rw [attempts, currentState_prepared, target, again, due] at entered
  have safe : ¬ s.settle.Normal := by
    rw [State.settle_of_urgent urgent]
    exact State.not_normal_enter urgent.2
  have rest := left_triggers s s triggers
  rw [State.dueTriggers_of_emergency s urgent.2, State.adcsRules_eq] at rest
  rcases entered with ⟨success, _, first⟩ | ⟨fail, first⟩
  · rw [first.state] at rest
    refine ((first.congr (launches_prepared sat _).symm rfl rfl).trans rest).of_iff rfl ?_
    cases s.maneuvermode <;> simp [safe, success]
  · rw [first.state] at rest
    refine ((first.congr (launches_prepared sat _).symm rfl rfl).trans rest).of_iff rfl ?_
    cases s.maneuvermode <;> simp [safe, fail, still]

/-- The table of a request for safemode: `EnterSafeMode(3)` first, and then
whatever the rules asked for in the state before it. -/
theorem left_entry (serves : ServesFacts uvSpawn onEvent) (idle : s.Idle)
    (state : sat.currentState = s)
    (h : performActions uvSpawn onEvent (.enterSafeMode 3 :: s.autonomousRules s) sat =
      some sat') :
    Left (entryState uvSpawn s sat.enterAttempts) (EntryStrays uvSpawn s sat.enterAttempts)
      sat sat' := by
  rw [performActions_cons] at h
  obtain ⟨sat₁, enter, rules⟩ := Option.bind_eq_some_iff.mp h
  have entered := left_enterSafeMode serves (by decide) (by exact state ▸ idle) enter
  have launches : sat.launches = (sat.prepared (.enterSafeMode 3)).launches :=
    (launches_prepared sat _).symm
  have attempts : (sat.prepared (.enterSafeMode 3)).enterAttempts = sat.enterAttempts :=
    attempts_congr (launches_prepared sat _) _
  rw [attempts, currentState_prepared, state] at entered
  rcases entered with ⟨success, attempts₁, first⟩ | ⟨fail, first⟩
  · replace first := first.congr launches rfl rfl
    by_cases urgent : s.Urgent
    · have rest := left_urgent serves (by rw [first.state]; exact idle.enter 3) urgent
        (by rw [first.state]; rfl) rules
      rw [attempts₁] at rest
      refine (first.trans rest).of_iff ?_ ?_
      · simp only [entryState, urgent, not_true_eq_false, and_false, if_false,
          settle_enter_zero urgent]
      · simp [EntryStrays, urgent.1, urgent.2, success]
    · have rest := left_rules ((State.covered_iff s).mpr urgent) s rules
      rw [first.state] at rest
      refine (first.trans rest).of_iff ?_ ?_
      · simp only [entryState, success, urgent, not_false_eq_true, and_self, if_true]
      · have safe : ¬ (s.enter 3).Normal := State.not_normal_enter (by decide)
        by_cases normal : s.Normal
        · have calm := ((State.covered_iff s).mpr urgent).emergency_of_normal normal
          simp [EntryStrays, normal, calm, safe, success]
        · simp [EntryStrays, normal, success]
  · replace first := first.congr launches rfl rfl
    have ended : entryState uvSpawn s sat.enterAttempts = (s.enter 0).settle := by
      simp only [entryState, fail, Bool.false_eq_true, false_and, if_false]
    by_cases urgent : s.Urgent
    · have rest := left_urgent serves (by rw [first.state]; exact (idle.enter 0).settle) urgent
        (by
          rw [first.state, settle_enter_zero urgent, State.settle_of_urgent urgent]
          rfl) rules
      refine (first.trans rest).of_iff (ended ▸ (settle_enter_zero urgent).symm) ?_
      have still := urgent_enter_zero urgent
      simp only [EntryStrays, urgent.1, urgent.2, still, fail, if_true, if_false, true_and,
        true_or, or_true, and_true]
      exact or_iff_left_of_imp And.left
    · have rest := left_rules ((State.covered_iff s).mpr urgent) s rules
      rw [first.state] at rest
      refine (first.trans rest).of_iff ended.symm ?_
      by_cases normal : s.Normal
      · have calm := ((State.covered_iff s).mpr urgent).emergency_of_normal normal
        have normal₀ : (s.enter 0).Normal := ⟨rfl, normal.2⟩
        have quiet : ¬ (s.enter 0).Urgent := fun h => h.2 calm
        have settled : (s.enter 0).settle = s.enter 0 := State.settle_of_not_urgent quiet
        simp [EntryStrays, normal, calm, fail, quiet, settled, normal₀]
      · simp [EntryStrays, normal, fail]

private theorem entryState_urgent (urgent : s.Urgent) (k : ℕ) :
    entryState uvSpawn (s.enter 0) k = s.settle := by
  have still := urgent_enter_zero urgent
  simp only [entryState, still, not_true_eq_false, and_false, if_false]
  exact settle_enter_zero urgent

private theorem entryStrays_urgent (urgent : s.Urgent) (k : ℕ) :
    EntryStrays uvSpawn (s.enter 0) k ↔ s.adcsDue ≠ [] := by
  have still := urgent_enter_zero urgent
  have off : (s.enter 0).maneuvermode = false := rfl
  have due : (s.enter 0).adcsDue = s.adcsDue := rfl
  simp only [EntryStrays, still.1, still.2, off, due, if_true, if_false, true_or, and_true]

theorem left_safeModeReq {n : ℕ} (idle : sat.currentState.Idle)
    (h : Satellite.onEvent uvSpawn n (.safeModeReq true) sat = some sat') :
    Left (entryState uvSpawn sat.currentState sat.enterAttempts)
      (EntryStrays uvSpawn sat.currentState sat.enterAttempts) sat sat' := by
  cases n with
  | zero => cases h
  | succ n =>
    replace h := performs_request rfl idle h
    set sat₀ := (sat.record (.event (.safeModeReq true) sat.currentState)).setState
      (sat.currentState.requestState (.safeModeReq true)) with hsat₀
    have launches₀ : sat₀.launches = sat.launches := by simp [hsat₀, LogEntry.launch?]
    have attempts₀ : sat₀.enterAttempts = sat.enterAttempts := attempts_congr launches₀ _
    have entry := left_entry (servesFacts_onEvent n) idle (by exact rfl) h
    rw [attempts₀] at entry
    exact entry.congr launches₀.symm rfl rfl

theorem left_signal (serves : ServesFacts uvSpawn onEvent) {f : Event} (fact : f.isFact = true)
    {a : Action} (lenient : a.isLenient = true) (mode : a.isTrigger = false) {id : ℕ}
    (idle : sat.currentState.Idle)
    (h : (onEvent f sat).bind (ShellCommand.perform uvSpawn onEvent id a) = some sat') :
    Left (f.update sat.currentState).settle
      (PassStrays uvSpawn (f.update sat.currentState) sat.enterAttempts) sat sat' := by
  obtain ⟨sat₁, signal, script⟩ := Option.bind_eq_some_iff.mp h
  have first := left_fact serves fact idle signal
  have second := left_script lenient script
  rw [first.state] at second
  refine (first.trans second).of_iff rfl ?_
  simp only [mode, Bool.false_eq_true, false_and, or_false]

theorem left_leaveManualMode_done {n : ℕ} (idle : sat.currentState.Idle)
    (h : LeaveManualMode.done (Satellite.onEvent uvSpawn n) sat = some sat') :
    Left
      (if sat.currentState.safemode ≠ 0 then
        entryState uvSpawn { sat.currentState with safemode := 0 } sat.enterAttempts
      else sat.currentState)
      (sat.currentState.safemode ≠ 0 ∧
        EntryStrays uvSpawn { sat.currentState with safemode := 0 } sat.enterAttempts)
      sat sat' := by
  unfold LeaveManualMode.done at h
  split_ifs at h with safe
  · have entry := left_safeModeReq (by exact ⟨idle.enforced, idle.commands⟩) h
    replace entry : Left _ _ sat sat' := entry.congr rfl rfl rfl
    refine entry.of_iff ?_ ?_
    · rw [if_pos safe]
      rfl
    · simp only [safe, ne_eq, not_false_eq_true, true_and]
      rfl
  · obtain rfl := Option.some.inj h
    refine (Left.refl sat).of_iff ?_ ?_
    · rw [if_neg safe]
    · simp only [safe, false_and]

theorem Passed.attempts_leaveManualmode (h : Passed uvSpawn s sat sat') :
    sat'.attempts .leaveManualmode = sat.attempts .leaveManualmode := by
  obtain ⟨ls, append, each, _⟩ := h.launches
  rw [attempts_of_launches append, Nat.add_eq_left, List.countP_eq_zero]
  intro l mem
  rcases (each l mem).2.2 with trigger | ⟨entry, _⟩
  · cases ha : l.action <;> simp_all [Action.isTrigger, Action.script]
  · simp [entry, Action.script]

private theorem leaveState_failed {k k' : ℕ}
    (kept : ¬ (Event.update (.manualModeSignal false) s).Urgent → k' = k) :
    (if (Event.update (.manualModeSignal false) s).settle.safemode ≠ 0 then
      entryState uvSpawn
        { (Event.update (.manualModeSignal false) s).settle with safemode := 0 } k'
    else (Event.update (.manualModeSignal false) s).settle) = leaveState uvSpawn s k false := by
  set s₁ := Event.update (.manualModeSignal false) s with hs₁
  by_cases urgent : s₁.Urgent
  · obtain ⟨safe, cleared⟩ := State.cleared_of_urgent urgent
    have off : s.safemode = 0 := urgent.1.1
    rw [if_pos safe, cleared, entryState_urgent urgent, leaveState, if_neg fun h => h.2 off]
    rfl
  · have settled : s₁.settle = s₁ := State.settle_of_not_urgent urgent
    have safe₁ : s₁.safemode = s.safemode := rfl
    rw [settled, kept urgent, safe₁]
    by_cases off : s.safemode = 0
    · rw [leaveState, if_neg fun h => h off, if_neg fun h => h.2 off]
      exact settled.symm
    · rw [leaveState, if_pos off, if_pos ⟨rfl, off⟩]
      rfl

private theorem leaveStrays_failed {k k' : ℕ}
    (kept : ¬ (Event.update (.manualModeSignal false) s).Urgent → k' = k) :
    PassStrays uvSpawn (Event.update (.manualModeSignal false) s) k ∨
        (Event.update (.manualModeSignal false) s).settle.safemode ≠ 0 ∧
          EntryStrays uvSpawn
            { (Event.update (.manualModeSignal false) s).settle with safemode := 0 } k' ↔
      LeaveStrays uvSpawn s k false := by
  set s₁ := Event.update (.manualModeSignal false) s with hs₁
  have passes : PassStrays uvSpawn { s with manualmode := false } k ↔ PassStrays uvSpawn s₁ k :=
    Iff.rfl
  rw [LeaveStrays, passes]
  by_cases urgent : s₁.Urgent
  · obtain ⟨safe, cleared⟩ := State.cleared_of_urgent urgent
    have off : s.safemode = 0 := urgent.1.1
    have due : s₁.adcsDue = s.adcsDue := rfl
    have reason : s.emergency ≠ 0 := urgent.2
    have again : s.safemode = 0 ∧ s.emergency ≠ 0 ∧ s.adcsDue ≠ [] ↔ s.adcsDue ≠ [] :=
      ⟨fun h => h.2.2, fun h => ⟨off, reason, h⟩⟩
    have leaves (Q : Prop) : ¬ (s.safemode ≠ 0 ∧ Q) := fun h => h.1 off
    rw [cleared, entryStrays_urgent urgent, again, due]
    simp only [safe, leaves, ne_eq, not_false_eq_true, true_and, or_false]
  · have settled : s₁.settle = s₁ := State.settle_of_not_urgent urgent
    have calm : ¬ (s.safemode = 0 ∧ s.emergency ≠ 0 ∧ s.adcsDue ≠ []) :=
      fun h => urgent ⟨⟨h.1, rfl⟩, h.2.1⟩
    have quiet : ¬ PassStrays uvSpawn s₁ k := fun h => urgent h.1
    rw [settled, kept urgent]
    simp only [calm, quiet, true_and, false_or]
    rfl

theorem left_leaveManualMode {n : ℕ} (idle : sat.currentState.Idle) {id : ℕ}
    (h : LeaveManualMode.perform uvSpawn (Satellite.onEvent uvSpawn n) id sat = some sat') :
    Left
      (leaveState uvSpawn sat.currentState sat.enterAttempts
        (uvSpawn .leaveManualmode (sat.attempts .leaveManualmode)))
      (LeaveStrays uvSpawn sat.currentState sat.enterAttempts
        (uvSpawn .leaveManualmode (sat.attempts .leaveManualmode))) sat sat' := by
  obtain ⟨sat₁, signal, script⟩ := Option.bind_eq_some_iff.mp h
  have passed := servesFacts_onEvent n _ _ _ rfl idle signal
  have first := passed.left
  have attempts := passed.attempts_leaveManualmode
  set s := sat.currentState with hs
  set s₁ := Event.update (.manualModeSignal false) s with hs₁
  have idle₁ : s₁.Idle := idle.update rfl
  have second := left_created id .leaveManualMode
    (uvSpawn .leaveManualmode (sat.attempts .leaveManualmode)) sat₁
  rw [first.state] at second
  simp only [ShellCommand.perform, Action.script, attempts] at script
  cases started : uvSpawn .leaveManualmode (sat.attempts .leaveManualmode) with
  | true =>
    rw [started] at script second
    obtain rfl := Option.some.inj script
    have whole : Left _ _ sat ((sat₁.created id .leaveManualMode true).started id
        .leaveManualMode) := (first.trans second).congr rfl rfl rfl
    refine whole.of_iff ?_ ?_
    · simp only [leaveState, Bool.true_eq_false, false_and, if_false]
      rfl
    · simp only [LeaveStrays, Action.isTrigger, Bool.true_eq_false, Bool.false_eq_true, false_and,
        or_false]
      rfl
  | false =>
    rw [started] at script second
    obtain ⟨sat₂, done, last⟩ := Option.bind_eq_some_iff.mp script
    obtain rfl := Option.some.inj last
    set failed := (sat₁.created id .leaveManualMode false).record
      (.exited id .leaveManualMode (-1)) with hfailed
    have state : failed.currentState = s₁.settle := first.state
    have kept : failed.enterAttempts = sat₁.enterAttempts := by
      have launches : failed.launches =
          sat₁.launches ++ [⟨.leaveManualMode, sat₁.currentState, false⟩] := by
        simp [hfailed, LogEntry.launch?]
      simp [enterAttempts_append launches, Action.script]
    have third := left_leaveManualMode_done (by rw [state]; exact idle₁.settle) done
    rw [state, kept] at third
    replace third : Left _ _ (sat₁.created id .leaveManualMode false)
        ((sat₂.record (.finished id false)).removeAction id) :=
      third.congr (by simp [hfailed, LogEntry.launch?]) rfl (by simp [LogEntry.launch?])
    have kept : ¬ s₁.Urgent → sat₁.enterAttempts = sat.enterAttempts := by
      intro calm
      have attempts₁ := passed.attempts
      rwa [if_neg calm] at attempts₁
    refine ((first.trans second).trans third).of_iff (leaveState_failed kept) ?_
    refine Iff.trans ?_ (leaveStrays_failed kept)
    simp only [Action.isTrigger, Bool.false_eq_true, false_and, or_false]
    rfl

end Satellite

end Horst
