import Horst.Satellite.Passes

/-!
When the calls nested in `on_event` come to an end. Only a failing
`enter_safemode.sh` calls `on_event` on an emergency again, so a pass over an
emergency returns exactly if the script can be started at some later attempt.
-/

set_option autoImplicit false
set_option relaxedAutoImplicit false

namespace Horst

open Foundation.Nested Foundation.Outcomes

variable {uvSpawn : Script → ℕ → Bool}

/-! No body can tell a nested call that was cut off from one that returns nothing. -/

theorem Action.done_below {f g : Handler Event Satellite} (below : Below f g) (a : Action)
    (success : Bool) (sat sat' : Satellite) (h : a.done f success sat = some sat') :
    a.done g success sat = some sat' := by
  cases a <;>
    simp only [Action.done, EnterSafeMode.done, LeaveManualMode.done, TriggerDetumbling.done,
      TriggerSunpointing.done, TriggerMeasuring.done] at h ⊢ <;>
    first
      | exact h
      | (split_ifs at h ⊢ <;> first
          | exact h
          | exact below _ _ _ h)

variable (uvSpawn) in
private theorem ShellCommand.perform_below
    {f g : Handler Event Satellite} (below : Below f g) (id : ℕ)
    (a : Action) (sat sat' : Satellite)
    (h : ShellCommand.perform uvSpawn f id a sat = some sat') :
    ShellCommand.perform uvSpawn g id a sat = some sat' := by
  simp only [ShellCommand.perform, ShellCommand.exited] at h ⊢
  split_ifs at h ⊢ with spawned
  · exact h
  · obtain ⟨sat₁, done, rest⟩ := Option.bind_eq_some_iff.mp h
    rw [Action.done_below below a _ _ _ done]
    exact rest

private theorem signal_below {f g : Handler Event Satellite} (below : Below f g) {e : Event}
    {k l : Satellite → Option Satellite} (rest : ∀ s r, k s = some r → l s = some r)
    (sat sat' : Satellite) (h : (f e sat).bind k = some sat') : (g e sat).bind l = some sat' := by
  obtain ⟨sat₁, call, tail⟩ := Option.bind_eq_some_iff.mp h
  rw [below _ _ _ call]
  exact rest _ _ tail

variable (uvSpawn) in
private theorem Action.perform_below {f g : Handler Event Satellite} (below : Below f g) (id : ℕ)
    (a : Action) (sat sat' : Satellite) (h : a.perform uvSpawn f id sat = some sat') :
    a.perform uvSpawn g id sat = some sat' := by
  have script := ShellCommand.perform_below uvSpawn below id
  cases a with
  | enterSafeMode reason =>
    exact signal_below below (fun _ _ => signal_below below (script _) _ _) _ _ h
  | enterManualMode | leaveManualMode | leaveSafeMode | finishLEOP =>
    exact signal_below below (script _) _ _ h
  | shellCommand | triggerMeasuring | triggerDetumbling | triggerSunpointing =>
    exact script _ _ _ h

private theorem performActions_below {f g : Handler Event Satellite} (below : Below f g)
    (as : List Action) (sat sat' : Satellite) (h : performActions uvSpawn f as sat = some sat') :
    performActions uvSpawn g as sat = some sat' := by
  induction as generalizing sat with
  | nil => exact h
  | cons a as ih =>
    rw [performActions_cons] at h ⊢
    obtain ⟨sat₁, head, tail⟩ := Option.bind_eq_some_iff.mp h
    rw [Action.perform_below uvSpawn below _ a _ _ head]
    exact ih _ tail

theorem Satellite.onEventBody_monotone : Monotone (Satellite.onEventBody uvSpawn) :=
  fun _ _ below _ _ _ h => performActions_below below _ _ _ h

namespace Satellite

/-- A call whose nested computations come to an end. -/
abbrev Ends (uvSpawn : Script → ℕ → Bool) (c : Handler Event Satellite → Option Satellite) : Prop :=
  ∃ sat', Computes (onEventBody uvSpawn) c sat'

private theorem passed_of_computes {f : Event} (fact : f.isFact = true) {sat sat' : Satellite}
    (idle : sat.currentState.Idle)
    (h : Computes (onEventBody uvSpawn) (fun g => g f sat) sat') :
    Passed uvSpawn (f.update sat.currentState) sat sat' := by
  obtain ⟨n, hn⟩ := h.returns
  exact servesFacts_onEvent n f sat sat' fact idle hn

variable (uvSpawn) in
private theorem ends_fact_calm {f : Event} (fact : f.isFact = true) {sat : Satellite}
    (idle : sat.currentState.Idle) (calm : ¬ (f.update sat.currentState).Urgent) :
    Ends uvSpawn fun g => g f sat := by
  set s := f.update sat.currentState with hs
  have body := fun g => onEventBody_fact uvSpawn g fact idle
  by_cases normal : s.Normal
  · have noEmergency : s.emergency = 0 := by
      by_contra nonzero
      exact calm ⟨normal, nonzero⟩
    obtain ⟨sat', run, _⟩ := performActions_triggers uvSpawn s s
      ((sat.record (.event f sat.currentState)).setState s)
    refine ⟨sat', computes_call ((computes_pure sat').congr fun g => ?_)⟩
    rw [body g, ← hs, State.autonomousRules_of_calm s normal noEmergency, run g]
  · refine ⟨_, computes_call ((computes_pure ((sat.record
      (.event f sat.currentState)).setState s)).congr fun g => ?_)⟩
    rw [body g, ← hs, State.autonomousRules_of_not_normal s normal]
    rfl

theorem ends_enterSafeMode {reason : UInt8} (nonzero : reason ≠ 0) (id : ℕ) {sat : Satellite}
    (idle : sat.currentState.Idle)
    (again : enterOutcomes uvSpawn sat.enterAttempts = false → ∀ sat₁ : Satellite,
      sat₁.currentState = sat.currentState.enter reason →
      sat₁.enterAttempts = sat.enterAttempts + 1 →
      Ends uvSpawn fun g => g (.safeModeSignal 0) sat₁) :
    Ends uvSpawn fun g => EnterSafeMode.perform uvSpawn g id reason sat := by
  obtain ⟨sat₁, signal⟩ := ends_fact_calm uvSpawn (f := .safeModeSignal reason) rfl idle
    fun urgent => nonzero urgent.1.1
  obtain ⟨state₁, launches₁⟩ :=
    (passed_of_computes rfl idle signal).unchanged fun n => nonzero n.1
  have idle₁ : sat₁.currentState.Idle := by
    rw [state₁]
    exact idle.update rfl
  have safe : ∀ b, ¬ ((Event.maneuverModeSignal b).update sat₁.currentState).Normal := by
    intro b normal
    rw [state₁] at normal
    exact nonzero normal.1
  obtain ⟨sat₂, maneuver⟩ := ends_fact_calm uvSpawn (f := .maneuverModeSignal false) rfl idle₁
    (State.not_urgent_of_not_normal (safe false))
  obtain ⟨state₂, launches₂⟩ := (passed_of_computes rfl idle₁ maneuver).unchanged (safe false)
  have entered : sat₂.currentState = sat.currentState.enter reason := by
    rw [state₂, state₁]
    rfl
  have attempts : sat₂.attempts .enterSafemode = sat.enterAttempts :=
    attempts_congr (launches₂.trans launches₁) _
  have script : Ends uvSpawn fun g =>
      ShellCommand.perform uvSpawn g id (.enterSafeMode reason) sat₂ := by
    cases spawned : uvSpawn .enterSafemode sat.enterAttempts with
    | true =>
      refine ⟨_, (computes_pure ((sat₂.created id (.enterSafeMode reason) true).started id
        (.enterSafeMode reason))).congr fun g => ?_⟩
      simp only [ShellCommand.perform, Action.script, attempts, spawned, if_true]
    | false =>
      set failed := (sat₂.created id (.enterSafeMode reason) false).record
        (.exited id (.enterSafeMode reason) (-1)) with hfailed
      have launches : failed.launches = sat₂.launches ++
          [⟨.enterSafeMode reason, sat₂.currentState, false⟩] := by
        simp [hfailed, LogEntry.launch?]
      have attempts' : failed.enterAttempts = sat.enterAttempts + 1 := by
        rw [enterAttempts_append launches, enterAttempts, attempts]
        simp [Action.script]
      obtain ⟨sat₃, undo⟩ := again spawned failed entered attempts'
      have close := undo.bind_pure
        (k := fun sat => some ((sat.record (.finished id false)).removeAction id)) rfl
      refine ⟨_, close.congr fun g => ?_⟩
      simp only [ShellCommand.perform, Action.script, attempts, spawned, Bool.false_eq_true,
        if_false, ShellCommand.exited]
      rfl
  obtain ⟨sat', script⟩ := script
  exact ⟨sat', signal.bind (maneuver.bind script)⟩

theorem ends_fact {f : Event} (fact : f.isFact = true) {sat : Satellite}
    (idle : sat.currentState.Idle)
    (supply : (f.update sat.currentState).Urgent →
      Supplies (enterOutcomes uvSpawn) 1 sat.enterAttempts) :
    Ends uvSpawn fun g => g f sat := by
  by_cases urgent : (f.update sat.currentState).Urgent
  swap
  · exact ends_fact_calm uvSpawn fact idle urgent
  obtain ⟨m, first⟩ := exists_firstSuccess (supply urgent)
  -- every failed attempt nests one more pass, up to the first success
  induction hd : m - sat.enterAttempts using Nat.strong_induction_on generalizing f sat with
  | _ d ih =>
    set s := f.update sat.currentState with hs
    have idle' : s.Idle := idle.update fact
    set sat₀ := (sat.record (.event f sat.currentState)).setState s with hsat₀
    have launches₀ : (sat₀.prepared (.enterSafeMode s.emergency)).launches = sat.launches := by
      simp [hsat₀, LogEntry.launch?]
    have attempts₀ := attempts_congr launches₀ .enterSafemode
    obtain ⟨sat₁, enter⟩ : Ends uvSpawn fun g => EnterSafeMode.perform uvSpawn g sat₀.nextId
        s.emergency (sat₀.prepared (.enterSafeMode s.emergency)) := by
      apply ends_enterSafeMode urgent.2 sat₀.nextId (by exact idle')
      intro fail sat₁ state₁ attempts₁
      replace attempts₁ : sat₁.enterAttempts = sat.enterAttempts + 1 := by
        rw [attempts₁, enterAttempts, attempts₀]
      rw [enterAttempts, attempts₀] at fail
      have later : sat.enterAttempts ≠ m := by
        rintro rfl
        rw [first.2.1] at fail
        cases fail
      have bound := first.1
      have idle₁ : sat₁.currentState.Idle := state₁ ▸ idle'.enter _
      have again : (Event.update (.safeModeSignal 0) sat₁.currentState).Urgent := by
        rw [state₁]
        change (s.enter 0).Urgent
        exact urgent_enter_zero urgent
      have first₁ : FirstSuccess (enterOutcomes uvSpawn) sat₁.enterAttempts m := by
        rw [attempts₁]
        exact ⟨by omega, first.2.1, fun j hj => first.2.2 j (by omega)⟩
      exact ih (m - sat₁.enterAttempts) (by omega) rfl idle₁
        (fun _ => supplies_one_iff.mpr ⟨m, first₁.1, first₁.2.1⟩) again first₁ rfl
    obtain ⟨sat₂, run, _⟩ := performActions_triggers uvSpawn s s sat₁
    have pure : Computes (onEventBody uvSpawn) (fun _ => some sat₂) sat₂ := computes_pure sat₂
    have rest := pure.congr run
    refine ⟨sat₂, computes_call ((enter.bind rest).congr fun g => ?_)⟩
    rw [onEventBody_fact uvSpawn g fact idle, ← hs, ← hsat₀,
      State.autonomousRules_of_urgent s urgent, performActions_cons]
    rfl

/-- If no attempt at the script succeeds any more, entering safemode in an
emergency nests passes without end. -/
theorem enterSafeMode_cut_off (n : ℕ)
    (fact_cut_off : ∀ sat : Satellite, sat.currentState.Idle →
      (Event.update (.safeModeSignal 0) sat.currentState).Urgent →
      ¬ Supplies (enterOutcomes uvSpawn) 1 sat.enterAttempts →
      onEvent uvSpawn n (.safeModeSignal 0) sat = none)
    {reason : UInt8} (nonzero : reason ≠ 0) (id : ℕ) {sat : Satellite}
    (idle : sat.currentState.Idle) (urgent : (sat.currentState.enter 0).Urgent)
    (starved : ¬ Supplies (enterOutcomes uvSpawn) 1 sat.enterAttempts) :
    EnterSafeMode.perform uvSpawn (onEvent uvSpawn n) id reason sat = none := by
  have serves : ServesFacts uvSpawn (onEvent uvSpawn n) := servesFacts_onEvent n
  rw [EnterSafeMode.perform, Option.bind_eq_none_iff]
  intro sat₁ signal
  rw [Option.bind_eq_none_iff]
  intro sat₂ maneuver
  obtain ⟨entered, launches₂⟩ :=
    EnterSafeMode.signals_spec uvSpawn serves nonzero idle signal maneuver
  have attempts : sat₂.attempts .enterSafemode = sat.enterAttempts := attempts_congr launches₂ _
  have fail : uvSpawn .enterSafemode sat.enterAttempts = false :=
    not_supplies_one_iff.mp starved _ le_rfl
  set failed := (sat₂.created id (.enterSafeMode reason) false).record
    (.exited id (.enterSafeMode reason) (-1)) with hfailed
  have launches : failed.launches =
      sat.launches ++ [⟨.enterSafeMode reason, sat₂.currentState, false⟩] := by
    simp [hfailed, LogEntry.launch?, launches₂]
  have state : failed.currentState = sat.currentState.enter reason := entered
  have stuck := fact_cut_off failed (state ▸ idle.enter reason) (by
    rw [state]
    exact urgent) (by
    rw [enterAttempts_append launches]
    exact fun supply => starved (supply.of_le (by omega)))
  simp only [ShellCommand.perform, Action.script, attempts, fail, Bool.false_eq_true, if_false,
    ShellCommand.exited, Option.bind_eq_none_iff]
  intro sat₃ undo
  cases stuck.symm.trans undo

theorem fact_cut_off {f : Event} (fact : f.isFact = true) (n : ℕ) {sat : Satellite}
    (idle : sat.currentState.Idle) (urgent : (f.update sat.currentState).Urgent)
    (starved : ¬ Supplies (enterOutcomes uvSpawn) 1 sat.enterAttempts) :
    onEvent uvSpawn n f sat = none := by
  induction n generalizing f sat with
  | zero => rfl
  | succ n ih =>
    change onEventBody uvSpawn (onEvent uvSpawn n) f sat = none
    rw [onEventBody_fact uvSpawn _ fact idle, State.autonomousRules_of_urgent _ urgent,
      performActions_cons]
    set sat₀ := ((sat.record (.event f sat.currentState)).setState
      (f.update sat.currentState)).prepared (.enterSafeMode (f.update sat.currentState).emergency)
      with hsat₀
    have launches₀ : sat₀.launches = sat.launches := by simp [hsat₀, LogEntry.launch?]
    have starved₀ : ¬ Supplies (enterOutcomes uvSpawn) 1 sat₀.enterAttempts := by
      rw [enterAttempts, attempts_congr launches₀]
      exact starved
    have stuck := enterSafeMode_cut_off n (fun _ idle urgent starved => ih rfl idle urgent starved)
      urgent.2 sat.nextId (by exact idle.update fact) (urgent_enter_zero urgent) starved₀
    exact congrArg (Option.bind · _) stuck

end Satellite

end Horst
