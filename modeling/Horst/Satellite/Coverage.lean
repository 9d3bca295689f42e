import Horst.Satellite.Returns

/-!
The invariant between two callbacks of the event loop: no request is pending in
the state, and every emergency is met by safemode or left to the operator. It
does not depend on which scripts can be started.
-/

set_option autoImplicit false
set_option relaxedAutoImplicit false

namespace Horst

open Foundation Foundation.Nested Foundation.Outcomes

structure State.Steady (s : State) : Prop where
  idle : s.Idle
  covered : s.Covered

private theorem State.steady_settle {s : State} (idle : s.Idle) : s.settle.Steady :=
  ⟨idle.settle, State.covered_settle s⟩

/-- Only `EnterSafeMode` comes with a reason, and the table never passes zero. -/
def Action.HasReason : Action → Prop
  | .enterSafeMode reason => reason ≠ 0
  | .shellCommand _ _ | .enterManualMode | .leaveManualMode | .leaveSafeMode | .finishLEOP
  | .triggerMeasuring | .triggerDetumbling | .triggerSunpointing => True

private theorem State.hasReason_of_mem_requestActions {s : State} {e : Event} {a : Action}
    (mem : a ∈ s.requestActions e) : a.HasReason := by
  unfold requestActions at mem
  cases e <;> simp only [List.not_mem_nil] at mem <;> (try split_ifs at mem) <;>
    simp only [List.mem_singleton, List.not_mem_nil] at mem <;> subst mem <;>
    simp [Action.HasReason]

theorem State.hasReason_of_mem_autonomousRules {s target : State} {a : Action}
    (mem : a ∈ s.autonomousRules target) : a.HasReason := by
  have trigger : a ∈ s.dueTriggers target → a.HasReason := by
    intro mem
    have := State.isTrigger_of_mem_dueTriggers mem
    cases a <;> simp_all [Action.isTrigger, Action.HasReason]
  by_cases normal : s.Normal
  · by_cases calm : s.emergency = 0
    · exact trigger (s.autonomousRules_of_calm target normal calm ▸ mem)
    · rw [State.autonomousRules_of_urgent target ⟨normal, calm⟩] at mem
      rcases List.mem_cons.mp mem with rfl | mem
      · exact calm
      · exact trigger mem
  · simp [State.autonomousRules_of_not_normal target normal] at mem

namespace Satellite

variable {uvSpawn : Script → ℕ → Bool} {onEvent : Handler Event Satellite}

/-- A handler that leaves a steady state when it is told to enter safemode again. -/
def ServesReentry (onEvent : Handler Event Satellite) : Prop :=
  ∀ sat sat' : Satellite, sat.currentState.Idle →
    onEvent (.safeModeReq true) sat = some sat' → sat'.currentState.Steady

private theorem signal_perform_state (serves : ServesFacts uvSpawn onEvent) {f : Event}
    (fact : f.isFact = true) {a : Action} (lenient : a.isLenient = true) {id : ℕ}
    {sat sat' : Satellite} (idle : sat.currentState.Idle)
    (h : (onEvent f sat).bind (ShellCommand.perform uvSpawn onEvent id a) = some sat') :
    sat'.currentState = (f.update sat.currentState).settle := by
  obtain ⟨sat₁, signal, script⟩ := Option.bind_eq_some_iff.mp h
  obtain ⟨sat₂, run, state, _⟩ := ShellCommand.perform_lenient uvSpawn id lenient sat₁
  obtain rfl : sat₂ = sat' := Option.some.inj ((run onEvent).symm.trans script)
  rw [state, (serves f sat sat₁ fact idle signal).state]

private theorem enterSafeMode_steady (serves : ServesFacts uvSpawn onEvent) {reason : UInt8}
    (nonzero : reason ≠ 0) {id : ℕ} {sat sat' : Satellite} (idle : sat.currentState.Idle)
    (h : EnterSafeMode.perform uvSpawn onEvent id reason sat = some sat') :
    sat'.currentState.Steady := by
  rcases EnterSafeMode.perform_spec uvSpawn serves nonzero id idle h with
    ⟨_, state, _⟩ | ⟨_, sat₁, _, again⟩
  · rw [state]
    exact ⟨idle.enter reason, State.covered_enter nonzero⟩
  · rw [again.state]
    exact State.steady_settle (idle.enter 0)

private theorem leaveManualMode_done_steady (reentry : ServesReentry onEvent) {sat sat' : Satellite}
    (steady : sat.currentState.Steady) (h : LeaveManualMode.done onEvent sat = some sat') :
    sat'.currentState.Steady := by
  unfold LeaveManualMode.done at h
  split_ifs at h
  · exact reentry (sat.setState { sat.currentState with safemode := 0 }) sat'
      ⟨steady.idle.enforced, steady.idle.commands⟩ h
  · obtain rfl := Option.some.inj h
    exact steady

private theorem leaveManualMode_steady (serves : ServesFacts uvSpawn onEvent)
    (reentry : ServesReentry onEvent) {id : ℕ} {sat sat' : Satellite}
    (idle : sat.currentState.Idle)
    (h : LeaveManualMode.perform uvSpawn onEvent id sat = some sat') :
    sat'.currentState.Steady := by
  obtain ⟨sat₁, signal, script⟩ := Option.bind_eq_some_iff.mp h
  have steady₁ : sat₁.currentState.Steady := by
    rw [(serves _ _ _ rfl idle signal).state]
    exact State.steady_settle (idle.update rfl)
  simp only [ShellCommand.perform] at script
  split_ifs at script
  · obtain rfl := Option.some.inj script
    exact steady₁
  · obtain ⟨sat₂, done, last⟩ := Option.bind_eq_some_iff.mp script
    obtain rfl := Option.some.inj last
    change sat₂.currentState.Steady
    exact leaveManualMode_done_steady reentry (by exact steady₁) done

private theorem perform_plain_state {a : Action} (plain : a.isPlain = true) {id : ℕ}
    {sat sat' : Satellite} (h : a.perform uvSpawn onEvent id sat = some sat') :
    sat'.currentState = sat.currentState := by
  rw [Action.perform_of_isPlain uvSpawn onEvent id plain] at h
  obtain ⟨sat₁, run, state, _⟩ :=
    ShellCommand.perform_lenient uvSpawn id (Action.isLenient_of_isPlain plain) sat
  obtain rfl := Option.some.inj ((run onEvent).symm.trans h)
  exact state

private theorem perform_steady
    (serves : ServesFacts uvSpawn onEvent) (reentry : ServesReentry onEvent)
    {a : Action} (reason : a.HasReason) {id : ℕ} {sat sat' : Satellite}
    (steady : sat.currentState.Steady) (h : a.perform uvSpawn onEvent id sat = some sat') :
    sat'.currentState.Steady := by
  have idle := steady.idle
  cases a with
  | enterSafeMode r => exact enterSafeMode_steady serves reason idle h
  | leaveManualMode => exact leaveManualMode_steady serves reentry idle h
  | enterManualMode | leaveSafeMode | finishLEOP =>
    rw [signal_perform_state serves rfl rfl idle h]
    exact State.steady_settle (idle.update rfl)
  | shellCommand | triggerMeasuring | triggerDetumbling | triggerSunpointing =>
    rw [perform_plain_state rfl h]
    exact steady

private theorem performActions_steady (serves : ServesFacts uvSpawn onEvent)
    (reentry : ServesReentry onEvent) {as : List Action} (reasons : ∀ a ∈ as, a.HasReason)
    {sat sat' : Satellite} (steady : sat.currentState.Steady)
    (h : performActions uvSpawn onEvent as sat = some sat') : sat'.currentState.Steady := by
  induction as generalizing sat with
  | nil =>
    obtain rfl := Option.some.inj h
    exact steady
  | cons a as ih =>
    rw [performActions_cons] at h
    obtain ⟨sat₁, head, tail⟩ := Option.bind_eq_some_iff.mp h
    exact ih (fun b hb => reasons b (by simp [hb]))
      (perform_steady serves reentry (reasons a (by simp)) (by exact steady) head) tail

private theorem servesReentry_onEvent (n : ℕ) : ServesReentry (Satellite.onEvent uvSpawn n) := by
  induction n with
  | zero =>
    intro sat sat' _ h
    cases h
  | succ n ih =>
    intro sat sat' idle h
    have serves : ServesFacts uvSpawn (Satellite.onEvent uvSpawn n) := servesFacts_onEvent n
    replace h := performs_request rfl idle h
    -- the first action of the list enters safemode, whatever the state was
    obtain ⟨sat₁, enter, rest⟩ := Option.bind_eq_some_iff.mp h
    have steady₁ : sat₁.currentState.Steady :=
      enterSafeMode_steady serves (by decide) (by exact idle) enter
    exact performActions_steady serves ih
      (fun a mem => State.hasReason_of_mem_autonomousRules mem) steady₁ rest

private theorem onEvent_steady {n : ℕ} {e : Event} {sat sat' : Satellite}
    (steady : sat.currentState.Steady) (h : Satellite.onEvent uvSpawn n e sat = some sat') :
    sat'.currentState.Steady := by
  cases hf : e.isFact with
  | true =>
    rw [(servesFacts_onEvent n e sat sat' hf steady.idle h).state]
    exact State.steady_settle (steady.idle.update hf)
  | false =>
    cases n with
    | zero => cases h
    | succ n =>
      replace h := performs_request hf steady.idle h
      refine performActions_steady (servesFacts_onEvent n) (servesReentry_onEvent n) ?_ ?_ h
      · intro a mem
        rcases List.mem_append.mp mem with mem | mem
        · exact State.hasReason_of_mem_requestActions mem
        · exact State.hasReason_of_mem_autonomousRules mem
      · exact ⟨steady.idle.requestState e, steady.covered.requestState e⟩

private theorem exited_steady {n : ℕ} {id : ℕ} {a : Action} {exitCode : Int} {sat sat' : Satellite}
    (steady : sat.currentState.Steady)
    (h : ShellCommand.exited (Satellite.onEvent uvSpawn n) id a exitCode sat = some sat') :
    sat'.currentState.Steady := by
  obtain ⟨sat₁, done, last⟩ := Option.bind_eq_some_iff.mp h
  obtain rfl := Option.some.inj last
  change sat₁.currentState.Steady
  cases a with
  | leaveManualMode =>
    exact leaveManualMode_done_steady (servesReentry_onEvent n) (by exact steady) done
  | enterSafeMode | triggerDetumbling | triggerSunpointing | triggerMeasuring =>
    simp only [Action.done, EnterSafeMode.done, TriggerDetumbling.done, TriggerSunpointing.done,
      TriggerMeasuring.done] at done
    split_ifs at done
    all_goals first
      | exact onEvent_steady (by exact steady) done
      | (obtain rfl := Option.some.inj done
         exact steady)
  | shellCommand | enterManualMode | leaveSafeMode | finishLEOP =>
    obtain rfl := Option.some.inj done
    exact steady

theorem step_steady (sat : Satellite) (input : Input) (sat' : Satellite)
    (steady : sat.currentState.Steady) (h : Step uvSpawn sat input sat') :
    sat'.currentState.Steady := by
  obtain ⟨_, n, call⟩ := h
  cases input with
  | event e => exact onEvent_steady (by exact steady) call
  | exited child exitStatus termSignal =>
    simp only [callback] at call
    split_ifs at call
    · exact exited_steady (by exact steady) call
    · obtain rfl := Option.some.inj call
      exact steady

theorem new_steady (args : Arguments) : (Satellite.new args false).currentState.Steady :=
  ⟨⟨rfl, rfl⟩, Or.inr (Or.inr ⟨nofun, UInt16.le_refl _⟩)⟩

theorem run_steady {args : Arguments} {ts : List (Transition Satellite Input)} {sat : Satellite}
    (run : Run (Step uvSpawn) (Satellite.new args false) ts sat) : sat.currentState.Steady :=
  run.invariant (I := fun sat => sat.currentState.Steady) (new_steady args) step_steady

/-- Whenever the event loop waits, an emergency is met by safemode or left to the operator. -/
theorem emergency_coverage (uvSpawn : Script → ℕ → Bool) (args : Arguments)
    {ts : List (Transition Satellite Input)} {sat : Satellite}
    (run : Run (Step uvSpawn) (Satellite.new args false) ts sat) :
    sat.currentState.safemode ≠ 0 ∨ sat.currentState.manualmode = true ∨
      (sat.currentState.thm.allTemp ≠ .alarm ∧
        sat.currentState.batteryTreshold ≤ sat.currentState.eps.batteryLevel) :=
  (run_steady run).covered

/-- The coverage in a run with an alarm whose script fails. -/
theorem emergency_coverage_alarm :
    ∃ ts sat, Run (Step fun _ _ => true) (Satellite.new {} false) ts sat ∧
      ts.map Transition.label =
        [.event (.thmSignal .alarm), .exited ⟨0, .enterSafeMode 1⟩ 1 0] ∧
      (sat.currentState.safemode ≠ 0 ∨ sat.currentState.manualmode = true ∨
        (sat.currentState.thm.allTemp ≠ .alarm ∧
          sat.currentState.batteryTreshold ≤ sat.currentState.eps.batteryLevel)) := by
  obtain ⟨ts, sat, run, labels, _⟩ := exists_run (fun _ _ => true) 5 (Satellite.new {} false)
    [.event (.thmSignal .alarm), .exited ⟨0, .enterSafeMode 1⟩ 1 0] (fun _ => true) (by decide +kernel)
  exact ⟨ts, sat, run, labels, emergency_coverage _ _ run⟩

end Satellite

end Horst
