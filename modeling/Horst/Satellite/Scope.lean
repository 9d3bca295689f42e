import Horst.Satellite.Passes

/-!
What a computation of the satellite can do: a relation between the states before and
after that every primitive operation keeps is kept by all the nested calls together.
-/

set_option autoImplicit false
set_option relaxedAutoImplicit false

namespace Horst

open Foundation Foundation.Nested

/-- One evaluation of the table by `Satellite::on_event`, with the update before it. -/
def State.pass (e : Event) (s : State) : State × List Action :=
  let state := if e.isFact then e.update s else s
  state.transformTo (if e.isFact then state else e.update state)

theorem State.pass_fact {e : Event} (fact : e.isFact = true) (s : State) :
    s.pass e = (e.update s).transformTo (e.update s) := by
  simp only [State.pass, fact, if_true]

theorem State.pass_request {e : Event} (request : e.isFact = false) (s : State) :
    s.pass e = s.transformTo (e.update s) := by
  simp only [State.pass, request, Bool.false_eq_true, if_false]

def Action.signals : Action → List Event
  | .enterManualMode => [.manualModeSignal true]
  | .leaveManualMode => [.manualModeSignal false]
  | .enterSafeMode reason => [.safeModeSignal reason, .maneuverModeSignal false]
  | .leaveSafeMode => [.safeModeSignal 0]
  | .finishLEOP => [.leopSignal .done]
  | .shellCommand _ _ | .triggerMeasuring | .triggerDetumbling | .triggerSunpointing => []

def Action.recovery : Action → List Event
  | .enterSafeMode _ => [.safeModeSignal 0]
  | .leaveManualMode => [.safeModeReq true]
  | .shellCommand _ _ | .enterManualMode | .leaveSafeMode | .finishLEOP | .triggerMeasuring
  | .triggerDetumbling | .triggerSunpointing => []

/-- The event that the callback of a trigger sends when its script has succeeded. -/
def Action.report : Action → Option Event
  | .triggerDetumbling => some (.adcsReqSignal .detumb)
  | .triggerSunpointing => some (.adcsReqSignal .sun)
  | .triggerMeasuring => some (.payloadSignal .measuring)
  | .shellCommand _ _ | .enterManualMode | .leaveManualMode | .enterSafeMode _ | .leaveSafeMode
  | .finishLEOP => none

/-- Actions and events such that what these lead to is among them, and so is what
the callback of any action leads to. -/
structure Scope where
  action : Action → Prop
  event : Event → Prop
  lists : ∀ (e : Event) (s : State), event e → ∀ a ∈ (s.pass e).2, action a
  signals : ∀ a, action a → ∀ e ∈ a.signals, event e
  recovery : ∀ a : Action, ∀ e ∈ a.recovery, event e
  reports : ∀ (a : Action) (e : Event) (s : State), a.report = some e →
    ∀ b ∈ (s.pass e).2, action b

def Scope.whole : Scope where
  action _ := True
  event _ := True
  lists _ _ _ _ _ := trivial
  signals _ _ _ _ := trivial
  recovery _ _ _ := trivial
  reports _ _ _ _ _ _ := trivial

/-- The actions that settle a state: none of them changes manualmode or the LEOP sequence. -/
def Action.Settling : Action → Prop
  | .shellCommand _ _ | .enterSafeMode _ | .triggerMeasuring | .triggerDetumbling
  | .triggerSunpointing => True
  | .enterManualMode | .leaveManualMode | .leaveSafeMode | .finishLEOP => False

theorem State.settling_of_mem_autonomousRules {s target : State} {a : Action}
    (mem : a ∈ s.autonomousRules target) : a.Settling := by
  have trigger : a.isTrigger = true → a.Settling := by
    intro h
    cases a <;> trivial
  unfold State.autonomousRules at mem
  split at mem
  · rw [List.append_assoc] at mem
    rcases List.mem_append.mp mem with emergency | due
    · rw [State.emergencyRules_eq] at emergency
      split at emergency
      · rw [List.mem_singleton.mp emergency]
        trivial
      · cases emergency
    · exact trigger (State.isTrigger_of_mem_dueTriggers due)
  · cases mem

private theorem State.settling_of_mem_transformTo {s target : State}
    (manual : target.manualmode = s.manualmode) (leop : target.leop = s.leop)
    (safe : target.safemode = 0 → s.safemode = 0) {a : Action}
    (mem : a ∈ (s.transformTo target).2) : a.Settling := by
  rw [State.transformTo_eq, State.manualmodeRules_same manual, State.leopRules_same leop,
    List.append_nil, List.append_nil] at mem
  rcases List.mem_append.mp mem with request | autonomous
  · rcases List.mem_append.mp request with computer | mode
    · obtain ⟨_, _, rfl⟩ := List.mem_map.mp computer
      trivial
    · unfold State.safemodeRules at mode
      split at mode
      · rw [List.mem_singleton.mp mode]
        trivial
      · split at mode
        · rename_i leave
          exact absurd (safe leave.1) leave.2
        · cases mode
  · exact State.settling_of_mem_autonomousRules autonomous

/-- The facts, and the request to be in safemode. -/
def Event.Settling (e : Event) : Prop := e.isFact = true ∨ e = .safeModeReq true

theorem State.settling_of_mem_pass {e : Event} (settling : e.Settling) {s : State} {a : Action}
    (mem : a ∈ (s.pass e).2) : a.Settling := by
  rcases settling with fact | rfl
  · rw [State.pass_fact fact] at mem
    exact State.settling_of_mem_transformTo rfl rfl id mem
  · have nonzero : (1 : UInt8) ≠ 0 := by decide
    have manual : (Event.update (.safeModeReq true) s).manualmode = s.manualmode := rfl
    rw [State.pass_request rfl] at mem
    exact State.settling_of_mem_transformTo manual rfl (fun zero => absurd zero nonzero) mem

/-- The calls that settling actions make. -/
def Event.Inner (e : Event) : Prop :=
  (∃ reason, e = .safeModeSignal reason) ∨ (∃ mode, e = .maneuverModeSignal mode) ∨
    e = .safeModeReq true

theorem Event.Inner.settling {e : Event} (inner : e.Inner) : e.Settling := by
  rcases inner with ⟨reason, rfl⟩ | ⟨mode, rfl⟩ | rfl
  · exact Or.inl rfl
  · exact Or.inl rfl
  · exact Or.inr rfl

def Scope.inner : Scope where
  action := Action.Settling
  event := Event.Inner
  lists _ _ inner _ mem := State.settling_of_mem_pass inner.settling mem
  signals a settling e mem := by
    cases a with
    | enterSafeMode reason =>
      rcases List.mem_cons.mp mem with rfl | rest
      · exact Or.inl ⟨reason, rfl⟩
      · rw [List.mem_singleton.mp rest]
        exact Or.inr (Or.inl ⟨false, rfl⟩)
    | enterManualMode | leaveManualMode | leaveSafeMode | finishLEOP => exact settling.elim
    | shellCommand | triggerMeasuring | triggerDetumbling | triggerSunpointing => cases mem
  recovery a e mem := by
    cases a with
    | enterSafeMode reason =>
      rw [List.mem_singleton.mp mem]
      exact Or.inl ⟨0, rfl⟩
    | leaveManualMode =>
      rw [List.mem_singleton.mp mem]
      exact Or.inr (Or.inr rfl)
    | shellCommand | enterManualMode | leaveSafeMode | finishLEOP | triggerMeasuring
    | triggerDetumbling | triggerSunpointing => cases mem
  reports a e s report b mem := by
    have fact : e.isFact = true := by
      cases a with
      | triggerDetumbling | triggerSunpointing | triggerMeasuring =>
        rw [← Option.some.inj report]
        rfl
      | shellCommand | enterManualMode | leaveManualMode | enterSafeMode | leaveSafeMode
      | finishLEOP => cases report
    exact State.settling_of_mem_pass (Or.inl fact) mem

namespace Satellite

/-- The satellite when the body of `on_event` is about to perform the list of the table. -/
def heard (sat : Satellite) (e : Event) : Satellite :=
  (sat.record (.event e sat.currentState)).setState (sat.currentState.pass e).1

def freed (sat : Satellite) (id : ℕ) (success : Bool) : Satellite :=
  (sat.record (.finished id success)).removeAction id

/-- What the callback of a script reports to the state when it has succeeded. -/
def reported (sat : Satellite) (a : Action) (success : Bool) : Satellite :=
  match a.report with
  | some e => if success then sat.heard e else sat
  | none => sat

theorem reported_cases (sat : Satellite) (a : Action) (success : Bool) :
    sat.reported a success = sat ∨
      ∃ e, a.report = some e ∧ sat.reported a success = sat.heard e := by
  unfold reported
  cases report : a.report with
  | none => exact Or.inl rfl
  | some e =>
    cases success with
    | false => exact Or.inl rfl
    | true => exact Or.inr ⟨e, rfl, rfl⟩

/-- `safemode = false` in the callback of `LeaveManualMode`. -/
def unsafed (sat : Satellite) : Satellite :=
  sat.setState { sat.currentState with safemode := 0 }

@[simp] theorem launches_heard (sat : Satellite) (e : Event) :
    (sat.heard e).launches = sat.launches :=
  (launches_record sat _).trans (List.append_nil _)

@[simp] theorem launches_freed (sat : Satellite) (id : ℕ) (success : Bool) :
    (sat.freed id success).launches = sat.launches :=
  (launches_record sat _).trans (List.append_nil _)

variable {uvSpawn : Script → ℕ → Bool} {onEvent : Handler Event Satellite}

theorem onEventBody_eq (e : Event) (sat : Satellite) :
    onEventBody uvSpawn onEvent e sat =
      performActions uvSpawn onEvent (sat.currentState.pass e).2 (sat.heard e) := rfl

def sendAll (onEvent : Handler Event Satellite) : List Event → Satellite → Option Satellite
  | [], sat => some sat
  | e :: es, sat => (onEvent e sat).bind (sendAll onEvent es)

theorem perform_eq (a : Action) (id : ℕ) (sat : Satellite) :
    a.perform uvSpawn onEvent id sat =
      (sendAll onEvent a.signals sat).bind (ShellCommand.perform uvSpawn onEvent id a) := by
  have one (e : Event) (k : Satellite → Option Satellite) :
      (onEvent e sat).bind k = (sendAll onEvent [e] sat).bind k := by
    rw [sendAll, Option.bind_assoc]
    rfl
  cases a with
  | enterManualMode | leaveManualMode | leaveSafeMode | finishLEOP => exact one _ _
  | enterSafeMode reason =>
    simp only [Action.signals, sendAll, Option.bind_assoc, Option.bind_some]
    rfl
  | shellCommand | triggerMeasuring | triggerDetumbling | triggerSunpointing => rfl

/-- A relation that every primitive operation of a scope keeps. -/
structure Kept (uvSpawn : Script → ℕ → Bool) (scope : Scope)
    (R : Satellite → Satellite → Prop) : Prop where
  refl : ∀ sat, R sat sat
  trans : ∀ {sat sat₁ sat₂}, R sat sat₁ → R sat₁ sat₂ → R sat sat₂
  heard : ∀ sat e, scope.event e → R sat (sat.heard e)
  unsafed : ∀ sat, R sat sat.unsafed
  started : ∀ sat sat₁ a, scope.action a → R (sat.prepared a) sat₁ →
    uvSpawn a.script (sat₁.attempts a.script) = true →
    R sat ((sat₁.created sat.nextId a true).started sat.nextId a)
  failed : ∀ sat sat₁ sat₂ a, scope.action a → R (sat.prepared a) sat₁ →
    uvSpawn a.script (sat₁.attempts a.script) = false →
    R ((sat₁.created sat.nextId a false).record (.exited sat.nextId a (-1))) sat₂ →
    R sat (sat₂.freed sat.nextId false)

namespace Kept

variable {scope : Scope} {R : Satellite → Satellite → Prop} {sat sat' : Satellite}

theorem done_failed (kept : Kept uvSpawn scope R)
    (serves : ∀ e sat sat', scope.event e → onEvent e sat = some sat' → R sat sat')
    {a : Action} (h : a.done onEvent false sat = some sat') : R sat sat' := by
  have quiet (same : some sat = some sat') : R sat sat' := by
    rw [Option.some.inj same]
    exact kept.refl sat'
  cases a with
  | enterSafeMode reason =>
    exact serves _ _ _ (scope.recovery (.enterSafeMode reason) _ List.mem_cons_self) h
  | leaveManualMode =>
    change LeaveManualMode.done onEvent sat = some sat' at h
    unfold LeaveManualMode.done at h
    split at h
    · have again := serves _ _ _ (scope.recovery .leaveManualMode _ List.mem_cons_self) h
      exact kept.trans (kept.unsafed sat) again
    · exact quiet h
  | shellCommand | enterManualMode | leaveSafeMode | finishLEOP | triggerMeasuring
  | triggerDetumbling | triggerSunpointing => exact quiet h

theorem sendAll (kept : Kept uvSpawn scope R)
    (serves : ∀ e sat sat', scope.event e → onEvent e sat = some sat' → R sat sat')
    {es : List Event} (mem : ∀ e ∈ es, scope.event e)
    (h : Satellite.sendAll onEvent es sat = some sat') : R sat sat' := by
  induction es generalizing sat with
  | nil =>
    obtain rfl := Option.some.inj h
    exact kept.refl sat
  | cons e es ih =>
    obtain ⟨sat₁, first, rest⟩ := Option.bind_eq_some_iff.mp h
    have here := serves e sat sat₁ (mem e List.mem_cons_self) first
    exact kept.trans here (ih (fun e' mem' => mem e' (List.mem_cons_of_mem e mem')) rest)

theorem perform (kept : Kept uvSpawn scope R)
    (serves : ∀ e sat sat', scope.event e → onEvent e sat = some sat' → R sat sat')
    {a : Action} (mem : scope.action a)
    (h : a.perform uvSpawn onEvent sat.nextId (sat.prepared a) = some sat') : R sat sat' := by
  rw [perform_eq] at h
  obtain ⟨sat₁, signals, script⟩ := Option.bind_eq_some_iff.mp h
  have sent : R (sat.prepared a) sat₁ := kept.sendAll serves (scope.signals a mem) signals
  rcases ShellCommand.perform_inv script with ⟨spawned, rfl⟩ | ⟨spawned, exits⟩
  · exact kept.started sat sat₁ a mem sent spawned
  · obtain ⟨sat₂, done, last⟩ := Option.bind_eq_some_iff.mp exits
    rw [← Option.some.inj last]
    exact kept.failed sat sat₁ sat₂ a mem sent spawned (kept.done_failed serves done)

theorem performActions (kept : Kept uvSpawn scope R)
    (serves : ∀ e sat sat', scope.event e → onEvent e sat = some sat' → R sat sat')
    {as : List Action} (mem : ∀ a ∈ as, scope.action a)
    (h : performActions uvSpawn onEvent as sat = some sat') : R sat sat' := by
  induction as generalizing sat with
  | nil =>
    obtain rfl := Option.some.inj h
    exact kept.refl sat
  | cons a as ih =>
    rw [performActions_cons] at h
    obtain ⟨sat₁, first, rest⟩ := Option.bind_eq_some_iff.mp h
    have here := kept.perform serves (mem a List.mem_cons_self) first
    exact kept.trans here (ih (fun b mem' => mem b (List.mem_cons_of_mem a mem')) rest)

theorem call (kept : Kept uvSpawn scope R) (n : ℕ) {e : Event} (mem : scope.event e)
    (h : Satellite.onEvent uvSpawn n e sat = some sat') : R sat sat' := by
  induction n generalizing e sat sat' with
  | zero => cases h
  | succ n ih =>
    change onEventBody uvSpawn (Satellite.onEvent uvSpawn n) e sat = some sat' at h
    rw [onEventBody_eq] at h
    have performed := kept.performActions (fun e' _ _ mem' h' => ih mem' h')
      (scope.lists e sat.currentState mem) h
    exact kept.trans (kept.heard sat e mem) performed

/-- An event from outside the scope, with a list of actions from the scope. -/
theorem call_heard (kept : Kept uvSpawn scope R) (n : ℕ) {e : Event}
    (mem : ∀ a ∈ (sat.currentState.pass e).2, scope.action a)
    (h : Satellite.onEvent uvSpawn n e sat = some sat') : R (sat.heard e) sat' := by
  cases n with
  | zero => cases h
  | succ n =>
    change onEventBody uvSpawn (Satellite.onEvent uvSpawn n) e sat = some sat' at h
    rw [onEventBody_eq] at h
    exact kept.performActions (fun e' _ _ mem' h' => kept.call n mem' h') mem h

theorem done (kept : Kept uvSpawn scope R) (n : ℕ) {a : Action} {success : Bool}
    (h : a.done (Satellite.onEvent uvSpawn n) success sat = some sat') :
    R (sat.reported a success) sat' := by
  have failed (same : sat.reported a success = sat)
      (h : a.done (Satellite.onEvent uvSpawn n) false sat = some sat') :
      R (sat.reported a success) sat' := by
    rw [same]
    exact kept.done_failed (fun e _ _ mem call => kept.call n mem call) h
  cases success with
  | false =>
    refine failed ?_ h
    unfold reported
    split <;> rfl
  | true =>
    cases a with
    | triggerDetumbling =>
      exact kept.call_heard n (scope.reports .triggerDetumbling _ _ rfl) h
    | triggerSunpointing =>
      exact kept.call_heard n (scope.reports .triggerSunpointing _ _ rfl) h
    | triggerMeasuring =>
      exact kept.call_heard n (scope.reports .triggerMeasuring _ _ rfl) h
    | enterSafeMode reason =>
      rw [← Option.some.inj h]
      exact kept.refl sat
    | shellCommand | enterManualMode | leaveManualMode | leaveSafeMode | finishLEOP =>
      exact failed rfl h

theorem exited (kept : Kept uvSpawn scope R) (n : ℕ) {id : ℕ} {a : Action} {exitCode : Int}
    (h : ShellCommand.exited (Satellite.onEvent uvSpawn n) id a exitCode sat = some sat') :
    ∃ sat₁, R ((sat.record (.exited id a exitCode)).reported a (exitCode = 0)) sat₁ ∧
      sat' = sat₁.freed id (exitCode = 0) := by
  obtain ⟨sat₁, done, last⟩ := Option.bind_eq_some_iff.mp h
  exact ⟨sat₁, kept.done n done, (Option.some.inj last).symm⟩

theorem told (kept : Kept uvSpawn Scope.whole R) (sat : Satellite) (a : Action) (success : Bool) :
    R sat (sat.reported a success) := by
  rcases reported_cases sat a success with same | ⟨e, _, heard⟩
  · rw [same]
    exact kept.refl sat
  · rw [heard]
    exact kept.heard sat e trivial

theorem exited_told (kept : Kept uvSpawn Scope.whole R) (n : ℕ) {id : ℕ} {a : Action}
    {exitCode : Int}
    (h : ShellCommand.exited (Satellite.onEvent uvSpawn n) id a exitCode sat = some sat') :
    ∃ sat₁, R (sat.record (.exited id a exitCode)) sat₁ ∧ sat' = sat₁.freed id (exitCode = 0) := by
  obtain ⟨sat₁, done, freed⟩ := kept.exited n h
  exact ⟨sat₁, kept.trans (kept.told _ a _) done, freed⟩

end Kept

end Satellite

end Horst
