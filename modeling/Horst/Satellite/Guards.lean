import Horst.Satellite.Scope

/-!
Conditions under which actions are performed. The table evaluates them once for a whole
list; by the time a script is launched, the actions before it and their nested passes
have changed the state.
-/

set_option autoImplicit false
set_option relaxedAutoImplicit false

namespace Horst

open Foundation Foundation.Nested

/-- The events that the actions and their callbacks send themselves. -/
inductive Event.Internal : Event → Prop
  | manualModeSignal (manualmode : Bool) : Internal (.manualModeSignal manualmode)
  | safeModeSignal (safemode : UInt8) : Internal (.safeModeSignal safemode)
  | maneuverModeSignal : Internal (.maneuverModeSignal false)
  | leopSignal : Internal (.leopSignal .done)
  | safeModeReq : Internal (.safeModeReq true)
  | adcsReqSignal (adcsStatus : AdcsState) : Internal (.adcsReqSignal adcsStatus)
  | payloadSignal : Internal (.payloadSignal .measuring)

private theorem Action.internal_of_mem_signals {a : Action} {e : Event} (mem : e ∈ a.signals) :
    e.Internal := by
  cases a with
  | enterManualMode | leaveManualMode =>
    rw [List.mem_singleton.mp mem]
    exact .manualModeSignal _
  | enterSafeMode reason =>
    rcases List.mem_cons.mp mem with rfl | rest
    · exact .safeModeSignal reason
    · rw [List.mem_singleton.mp rest]
      exact .maneuverModeSignal
  | leaveSafeMode =>
    rw [List.mem_singleton.mp mem]
    exact .safeModeSignal 0
  | finishLEOP =>
    rw [List.mem_singleton.mp mem]
    exact .leopSignal
  | shellCommand | triggerMeasuring | triggerDetumbling | triggerSunpointing => cases mem

private theorem Action.internal_of_report {a : Action} {e : Event} (report : a.report = some e) :
    e.Internal := by
  cases a with
  | triggerDetumbling | triggerSunpointing =>
    rw [← Option.some.inj report]
    exact .adcsReqSignal _
  | triggerMeasuring =>
    rw [← Option.some.inj report]
    exact .payloadSignal
  | shellCommand | enterManualMode | leaveManualMode | enterSafeMode | leaveSafeMode
  | finishLEOP => cases report

theorem Event.Internal.isFact {e : Event} (internal : e.Internal) :
    e = .safeModeReq true ∨ e.isFact = true := by
  cases internal with
  | safeModeReq => exact Or.inl rfl
  | manualModeSignal | safeModeSignal | maneuverModeSignal | leopSignal | adcsReqSignal
  | payloadSignal => exact Or.inr rfl

private theorem State.pass_internal {e : Event} (internal : e.Internal) (s : State) :
    (s.pass e).1 = if e.isFact = true then e.update s else s := by
  rcases internal.isFact with rfl | fact
  · have same : (Event.update (.safeModeReq true) s).leop = s.leop := rfl
    rw [State.pass_request rfl, State.transformTo_eq, State.leopRules_same same]
    rfl
  · rw [State.pass_fact fact, State.transformTo_eq, State.leopRules_same rfl, if_pos fact]

namespace Satellite

/-- A condition on actions that no internal event ends, and that holds of all the actions a
pass over such an event asks for; `I` is what the state between them satisfies. -/
structure Guards (I : State → Prop) (G : Action → State → Prop) : Prop where
  invariant : ∀ e s, Event.Internal e → I s → I (s.pass e).1
  kept : ∀ e s a, Event.Internal e → I s → G a s → G a (s.pass e).1
  granted : ∀ e s, Event.Internal e → I s → ∀ a ∈ (s.pass e).2, G a (s.pass e).1
  invariant_unsafe : ∀ s : State, I s → I { s with safemode := 0 }
  kept_unsafe : ∀ (s : State) a, I s → G a s → G a { s with safemode := 0 }

/-- A computation that ends no condition and launches what its condition allows. -/
structure Watched (I : State → Prop) (G : Action → State → Prop) (sat sat' : Satellite) :
    Prop where
  invariant : I sat'.currentState
  kept : ∀ a, G a sat.currentState → G a sat'.currentState
  launches : ∃ ls, sat'.launches = sat.launches ++ ls ∧ ∀ l ∈ ls, G l.action l.state

variable {uvSpawn : Script → ℕ → Bool} {onEvent : Handler Event Satellite}
  {I : State → Prop} {G : Action → State → Prop} {sat sat₁ sat' : Satellite}

namespace Watched

theorem of_same (holds : I sat.currentState) (state : sat'.currentState = sat.currentState)
    (launches : sat'.launches = sat.launches) : Watched I G sat sat' where
  invariant := state ▸ holds
  kept a granted := by rwa [state]
  launches := ⟨[], by rw [launches, List.append_nil], fun l mem => absurd mem List.not_mem_nil⟩

theorem refl (holds : I sat.currentState) : Watched I G sat sat := of_same holds rfl rfl

theorem trans (first : Watched I G sat sat₁) (second : Watched I G sat₁ sat') :
    Watched I G sat sat' := by
  obtain ⟨ls₁, append₁, each₁⟩ := first.launches
  obtain ⟨ls₂, append₂, each₂⟩ := second.launches
  refine ⟨second.invariant, fun a granted => second.kept a (first.kept a granted), ?_⟩
  refine ⟨ls₁ ++ ls₂, by rw [append₂, append₁, List.append_assoc], ?_⟩
  intro l mem
  rcases List.mem_append.mp mem with early | late
  · exact each₁ l early
  · exact each₂ l late

theorem created (holds : I sat.currentState) {a : Action} (granted : G a sat.currentState)
    (id : ℕ) (spawned : Bool) : Watched I G sat (sat.created id a spawned) where
  invariant := holds
  kept _ granted := granted
  launches := by
    refine ⟨_, launches_created sat id a spawned, fun l mem => ?_⟩
    rw [List.mem_singleton.mp mem]
    exact granted

end Watched

/-- A handler that serves the internal events without ending a condition. -/
def ServesGuards (I : State → Prop) (G : Action → State → Prop)
    (onEvent : Handler Event Satellite) : Prop :=
  ∀ e sat sat', Event.Internal e → I sat.currentState → onEvent e sat = some sat' →
    Watched I G sat sat'

namespace Guards

theorem sendAll (serves : ServesGuards I G onEvent) {es : List Event}
    (internal : ∀ e ∈ es, Event.Internal e) (holds : I sat.currentState)
    (h : Satellite.sendAll onEvent es sat = some sat') : Watched I G sat sat' := by
  induction es generalizing sat with
  | nil =>
    obtain rfl := Option.some.inj h
    exact Watched.refl holds
  | cons e es ih =>
    obtain ⟨sat₁, first, rest⟩ := Option.bind_eq_some_iff.mp h
    have here := serves e sat sat₁ (internal e List.mem_cons_self) holds first
    have later := ih (fun e' mem => internal e' (List.mem_cons_of_mem e mem)) here.invariant rest
    exact here.trans later

theorem done (guards : Guards I G) (serves : ServesGuards I G onEvent) {a : Action}
    {success : Bool} (holds : I sat.currentState)
    (h : a.done onEvent success sat = some sat') : Watched I G sat sat' := by
  have quiet (same : some sat = some sat') : Watched I G sat sat' := by
    obtain rfl := Option.some.inj same
    exact Watched.refl holds
  have report {e : Event} (reports : a.report = some e) (call : onEvent e sat = some sat') :
      Watched I G sat sat' := serves e sat sat' (Action.internal_of_report reports) holds call
  cases a with
  | enterSafeMode reason =>
    cases success with
    | true => exact quiet h
    | false =>
      exact serves _ _ _ (.safeModeSignal 0) holds h
  | leaveManualMode =>
    change LeaveManualMode.done onEvent sat = some sat' at h
    unfold LeaveManualMode.done at h
    split at h
    · have again := serves _ sat.unsafed _ .safeModeReq (guards.invariant_unsafe _ holds) h
      refine ⟨again.invariant, fun b granted => ?_, again.launches⟩
      exact again.kept b (guards.kept_unsafe _ b holds granted)
    · exact quiet h
  | triggerDetumbling | triggerSunpointing | triggerMeasuring =>
    cases success with
    | true => exact report rfl h
    | false => exact quiet h
  | shellCommand | enterManualMode | leaveSafeMode | finishLEOP => exact quiet h

theorem exited (guards : Guards I G) (serves : ServesGuards I G onEvent) {id : ℕ} {a : Action}
    {exitCode : Int} (holds : I sat.currentState)
    (h : ShellCommand.exited onEvent id a exitCode sat = some sat') : Watched I G sat sat' := by
  obtain ⟨sat₁, done, last⟩ := Option.bind_eq_some_iff.mp h
  obtain rfl := Option.some.inj last
  set woken := sat.record (.exited id a exitCode) with hwoken
  have start : Watched I G sat woken := Watched.of_same holds rfl (by simp [hwoken, LogEntry.launch?])
  have reported : Watched I G woken sat₁ := guards.done serves holds done
  have freed : Watched I G sat₁ (sat₁.freed id (exitCode = 0)) :=
    Watched.of_same reported.invariant rfl (launches_freed sat₁ _ _)
  exact (start.trans reported).trans freed

theorem script (guards : Guards I G) (serves : ServesGuards I G onEvent) {id : ℕ} {a : Action}
    (holds : I sat.currentState) (granted : G a sat.currentState)
    (h : ShellCommand.perform uvSpawn onEvent id a sat = some sat') : Watched I G sat sat' := by
  have created (b : Bool) : Watched I G sat (sat.created id a b) :=
    Watched.created holds granted id b
  rcases ShellCommand.perform_inv h with ⟨_, rfl⟩ | ⟨_, exits⟩
  · exact (created true).trans (Watched.of_same (created true).invariant rfl rfl)
  · exact (created false).trans (guards.exited serves (created false).invariant exits)

theorem perform (guards : Guards I G) (serves : ServesGuards I G onEvent) {id : ℕ} {a : Action}
    (holds : I sat.currentState) (granted : G a sat.currentState)
    (h : a.perform uvSpawn onEvent id sat = some sat') : Watched I G sat sat' := by
  rw [perform_eq] at h
  obtain ⟨sat₁, signals, script⟩ := Option.bind_eq_some_iff.mp h
  have sent : Watched I G sat sat₁ :=
    sendAll serves (fun e mem => Action.internal_of_mem_signals mem) holds signals
  exact sent.trans (guards.script serves sent.invariant (sent.kept a granted) script)

theorem performActions (guards : Guards I G) (serves : ServesGuards I G onEvent)
    {as : List Action} (holds : I sat.currentState) (granted : ∀ a ∈ as, G a sat.currentState)
    (h : performActions uvSpawn onEvent as sat = some sat') : Watched I G sat sat' := by
  induction as generalizing sat with
  | nil =>
    obtain rfl := Option.some.inj h
    exact Watched.refl holds
  | cons a as ih =>
    rw [performActions_cons] at h
    obtain ⟨sat₁, first, rest⟩ := Option.bind_eq_some_iff.mp h
    have prepared : Watched I G sat (sat.prepared a) :=
      Watched.of_same holds rfl (launches_prepared sat a)
    have here := prepared.trans
      (guards.perform serves holds (granted a List.mem_cons_self) first)
    refine here.trans (ih here.invariant (fun b mem => ?_) rest)
    exact here.kept b (granted b (List.mem_cons_of_mem a mem))

/-- A call of `on_event`, from the moment at which the list has been made. -/
theorem heard (guards : Guards I G) (serves : ServesGuards I G onEvent) {e : Event}
    (holds : I (sat.heard e).currentState)
    (granted : ∀ a ∈ (sat.currentState.pass e).2, G a (sat.heard e).currentState)
    (h : onEventBody uvSpawn onEvent e sat = some sat') : Watched I G (sat.heard e) sat' := by
  rw [onEventBody_eq] at h
  exact guards.performActions serves holds granted h

theorem serves (guards : Guards I G) (n : ℕ) :
    ServesGuards I G (Satellite.onEvent uvSpawn n) := by
  refine depth_induction ?_ (fun nested ih => ?_) n
  · intro e sat sat' _ _ h
    cases h
  · intro e sat sat' internal holds h
    have invariant := guards.invariant e _ internal holds
    have watched := guards.heard ih invariant (guards.granted e _ internal holds) h
    refine ⟨watched.invariant, fun a granted => ?_, ?_⟩
    · exact watched.kept a (guards.kept e _ a internal holds granted)
    · rw [← launches_heard sat e]
      exact watched.launches

theorem callback (guards : Guards I G) {input : Input} (holds : I sat.currentState)
    (outside : ∀ e, input = .event e → I (sat.currentState.pass e).1 ∧
      ∀ a ∈ (sat.currentState.pass e).2, G a (sat.currentState.pass e).1)
    (h : Calls uvSpawn sat input sat') :
    I sat'.currentState ∧
      ∃ ls, sat'.launches = sat.launches ++ ls ∧ ∀ l ∈ ls, G l.action l.state := by
  obtain ⟨n, call⟩ := h
  set woken := sat.record (.callback sat.currentState) with hwoken
  have launches : woken.launches = sat.launches := by simp [hwoken, LogEntry.launch?]
  cases input with
  | event e =>
    obtain ⟨invariant, granted⟩ := outside e rfl
    cases n with
    | zero => cases call
    | succ n =>
      have watched : Watched I G (woken.heard e) sat' :=
        guards.heard (guards.serves n) invariant granted call
      obtain ⟨ls, append, each⟩ := watched.launches
      rw [launches_heard, launches] at append
      exact ⟨watched.invariant, ls, append, each⟩
  | exited child exitStatus termSignal =>
    simp only [Satellite.callback] at call
    split at call
    · have watched : Watched I G (woken.ended child) sat' :=
        guards.exited (guards.serves n) holds call
      obtain ⟨ls, append, each⟩ := watched.launches
      rw [launches_ended, launches] at append
      exact ⟨watched.invariant, ls, append, each⟩
    · obtain rfl := Option.some.inj call
      refine ⟨holds, [], ?_, fun l mem => absurd mem List.not_mem_nil⟩
      rw [List.append_nil]
      exact launches

theorem launched (guards : Guards I G) {start : Satellite} (holds : I start.currentState)
    (fresh : start.launches = [])
    (outside : ∀ e s, I s → I (s.pass e).1 ∧ ∀ a ∈ (s.pass e).2, G a (s.pass e).1)
    (reachable : Reachable (Step uvSpawn) start sat) : ∀ l ∈ sat.launches, G l.action l.state := by
  have both : I sat.currentState ∧ ∀ l ∈ sat.launches, G l.action l.state := by
    refine reachable.invariant
      (I := fun sat => I sat.currentState ∧ ∀ l ∈ sat.launches, G l.action l.state) ?_ ?_
    · exact ⟨holds, by rw [fresh]; exact fun l mem => absurd mem List.not_mem_nil⟩
    · rintro sat input sat' ⟨holds, early⟩ ⟨_, calls⟩
      obtain ⟨invariant, ls, append, each⟩ :=
        guards.callback holds (fun e _ => outside e _ holds) calls
      refine ⟨invariant, fun l mem => ?_⟩
      rw [append] at mem
      rcases List.mem_append.mp mem with before | now
      · exact early l before
      · exact each l now
  exact both.2

end Guards

end Satellite

/-! The guards of the logic table. -/

/-- The part of a trigger's rule that has to hold when its script is launched. -/
def Action.Guard : Action → State → Prop
  | .triggerDetumbling, s | .triggerSunpointing, s =>
      s.leop ≠ .undeployed ∧ s.maneuvermode = false
  | .triggerMeasuring, s =>
      s.leop = .done ∧ s.thm.allTemp = .ok ∧ s.eps.batteryLevel > s.batteryTreshold
  | .shellCommand _ _, _ | .enterManualMode, _ | .leaveManualMode, _ | .enterSafeMode _, _
  | .leaveSafeMode, _ | .finishLEOP, _ => True

def State.modeRules (s target : State) : List Action :=
  s.manualmodeRules target ++ s.safemodeRules target ++ (s.leopRules target).2

theorem State.transformTo_modeRules (s target : State) :
    s.transformTo target = ((s.leopRules target).1, s.computer.transformTo target.computer ++
      (s.modeRules target ++ (s.leopRules target).1.autonomousRules target)) := by
  simp only [State.transformTo_eq, State.modeRules, List.append_assoc]

theorem State.mem_modeRules {s target : State} {a : Action} (mem : a ∈ s.modeRules target) :
    a = .enterManualMode ∨ a = .leaveManualMode ∨ a = .enterSafeMode 3 ∨ a = .leaveSafeMode ∨
      a = .finishLEOP := by
  rcases List.mem_append.mp mem with modes | leop
  · rcases List.mem_append.mp modes with manual | safe
    · unfold State.manualmodeRules at manual
      split_ifs at manual
      · exact Or.inl (List.mem_singleton.mp manual)
      · exact Or.inr (Or.inl (List.mem_singleton.mp manual))
      · cases manual
    · unfold State.safemodeRules at safe
      split_ifs at safe
      · exact Or.inr (Or.inr (Or.inl (List.mem_singleton.mp safe)))
      · exact Or.inr (Or.inr (Or.inr (Or.inl (List.mem_singleton.mp safe))))
      · cases safe
  · unfold State.leopRules at leop
    split_ifs at leop
    · exact Or.inr (Or.inr (Or.inr (Or.inr (List.mem_singleton.mp leop))))
    · cases leop
    · cases leop

private theorem State.guard_of_mem_autonomousRules {s target : State} {a : Action}
    (mem : a ∈ s.autonomousRules target) : a.Guard s := by
  unfold State.autonomousRules at mem
  split at mem
  · rcases List.mem_append.mp mem with early | adcs
    · rcases List.mem_append.mp early with emergency | measuring
      · unfold State.emergencyRules at emergency
        split_ifs at emergency
        · rw [List.mem_singleton.mp emergency]
          trivial
        · rw [List.mem_singleton.mp emergency]
          trivial
        · cases emergency
      · unfold State.measuringRule at measuring
        split at measuring
        · rename_i rule
          rw [List.mem_singleton.mp measuring]
          exact ⟨rule.2.2.2, rule.2.2.1, rule.2.1⟩
        · cases measuring
    · unfold State.adcsRules at adcs
      split at adcs
      · rename_i off
        rcases List.mem_append.mp adcs with detumbling | sunpointing
        · unfold State.detumblingRule at detumbling
          split at detumbling
          · rename_i rule
            rw [List.mem_singleton.mp detumbling]
            exact ⟨rule.2.2.2.2, off⟩
          · cases detumbling
        · unfold State.sunpointingRule at sunpointing
          split at sunpointing
          · rename_i rule
            rw [List.mem_singleton.mp sunpointing]
            exact ⟨rule.2, off⟩
          · cases sunpointing
      · cases adcs
  · cases mem

private theorem State.guard_of_mem_pass
    {e : Event} {s : State} {a : Action} (mem : a ∈ (s.pass e).2) :
    a.Guard (s.pass e).1 := by
  unfold State.pass at mem ⊢
  rw [State.transformTo_modeRules] at mem ⊢
  rcases List.mem_append.mp mem with computer | rules
  · obtain ⟨_, _, rfl⟩ := List.mem_map.mp computer
    trivial
  · rcases List.mem_append.mp rules with modes | autonomous
    · rcases State.mem_modeRules modes with rfl | rfl | rfl | rfl | rfl <;> trivial
    · exact State.guard_of_mem_autonomousRules autonomous

private theorem Action.guard_pass {e : Event} (internal : e.Internal) {s : State} {a : Action}
    (h : a.Guard s) : a.Guard (s.pass e).1 := by
  rw [State.pass_internal internal]
  cases internal with
  | safeModeReq => exact h
  | manualModeSignal | safeModeSignal | adcsReqSignal | payloadSignal =>
    cases a <;> exact h
  | maneuverModeSignal =>
    cases a with
    | triggerDetumbling | triggerSunpointing => exact ⟨h.1, rfl⟩
    | triggerMeasuring => exact h
    | shellCommand | enterManualMode | leaveManualMode | enterSafeMode | leaveSafeMode
    | finishLEOP => trivial
  | leopSignal =>
    cases a with
    | triggerDetumbling | triggerSunpointing => exact ⟨nofun, h.2⟩
    | triggerMeasuring => exact ⟨rfl, h.2⟩
    | shellCommand | enterManualMode | leaveManualMode | enterSafeMode | leaveSafeMode
    | finishLEOP => trivial

namespace Satellite

variable {uvSpawn : Script → ℕ → Bool} {sat : Satellite}

private theorem guards_table : Guards (fun _ => True) Action.Guard where
  invariant _ _ _ _ := trivial
  kept _ _ _ internal _ h := Action.guard_pass internal h
  granted _ _ _ _ _ mem := State.guard_of_mem_pass mem
  invariant_unsafe _ _ := trivial
  kept_unsafe s a _ h := by cases a <;> exact h

/-- The triggers are launched in states that their rules allow. -/
theorem triggers_guarded (uvSpawn : Script → ℕ → Bool) (args : Arguments) (enforced : Bool)
    {sat : Satellite} (reachable : Reachable (Step uvSpawn) (Satellite.new args enforced) sat) :
    ∀ l ∈ sat.launches,
      (l.action = .triggerDetumbling ∨ l.action = .triggerSunpointing →
        l.state.leop ≠ .undeployed ∧ l.state.maneuvermode = false) ∧
      (l.action = .triggerMeasuring →
        l.state.leop = .done ∧ l.state.thm.allTemp = .ok ∧
          l.state.eps.batteryLevel > l.state.batteryTreshold) := by
  intro l mem
  have guard : l.action.Guard l.state := guards_table.launched trivial rfl
    (fun _ _ _ => ⟨trivial, fun _ listed => State.guard_of_mem_pass listed⟩) reachable l mem
  constructor
  · rintro (detumbling | sunpointing)
    · rwa [detumbling] at guard
    · rwa [sunpointing] at guard
  · intro measuring
    rwa [measuring] at guard

/-- Finishing the LEOP sequence detumbles, and a good temperature allows to measure. -/
theorem triggers_guarded_leop :
    ∃ sat, Reachable (Step fun _ _ => true) (Satellite.new { leop := .deployed } false) sat ∧
      (sat.launches.map Launch.action).count .triggerMeasuring = 1 ∧
      ∀ l ∈ sat.launches,
        (l.action = .triggerDetumbling ∨ l.action = .triggerSunpointing →
          l.state.leop ≠ .undeployed ∧ l.state.maneuvermode = false) ∧
        (l.action = .triggerMeasuring →
          l.state.leop = .done ∧ l.state.thm.allTemp = .ok ∧
            l.state.eps.batteryLevel > l.state.batteryTreshold) := by
  obtain ⟨ts, sat, run, _, test⟩ := exists_run (fun _ _ => true) 5
    (Satellite.new { leop := .deployed } false)
    [.event (.thmSignal .ok), .event (.epsSignal 31), .event (.leopReq .done),
      .event (.payloadReq .wantmeasure)]
    (fun sat => decide ((sat.launches.map Launch.action).count .triggerMeasuring = 1))
    (by decide +kernel)
  exact ⟨sat, run.reachable, of_decide_eq_true test,
    triggers_guarded _ _ _ run.reachable⟩

end Satellite

end Horst
