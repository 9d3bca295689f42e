import Horst.Satellite.Modes
import Horst.Satellite.Enforced
import Horst.Satellite.Termination

/-!
Two satellites that only differ in what their memory held before the constructors
ran: when the same callbacks make the same of both.
-/

set_option autoImplicit false
set_option relaxedAutoImplicit false

namespace Horst

open Foundation Foundation.Nested

/-- The callback enters safemode, on a request or in an emergency. -/
def Input.Enters : Input → State → Prop
  | .event (.safeModeReq wanted), _ => wanted = true
  | .event (.manualModeReq wanted), s =>
      wanted = false ∧ s.manualmode = true ∧ State.Urgent { s with manualmode := false }
  | .event e, s => e.isFact = true ∧ (e.update s).Urgent
  | .exited _ _ _, _ => False

structure State.Alike (s s' : State) : Prop where
  safemode : s.safemode = s'.safemode
  manualmode : s.manualmode = s'.manualmode
  maneuvermode : s.maneuvermode = s'.maneuvermode
  battery : s.eps = s'.eps
  temperature : s.thm = s'.thm
  adcs : s.adcs = s'.adcs
  payload : s.pl = s'.pl
  leop : s.leop = s'.leop

private theorem State.alike_cleared (s : State) : s.Alike s.cleared :=
  ⟨rfl, rfl, rfl, rfl, rfl, rfl, rfl, rfl⟩

theorem State.Alike.symm {s s' : State} (h : s.Alike s') : s'.Alike s :=
  ⟨h.safemode.symm, h.manualmode.symm, h.maneuvermode.symm, h.battery.symm, h.temperature.symm,
    h.adcs.symm, h.payload.symm, h.leop.symm⟩

private theorem Input.enters_cleared (input : Input) (s : State) :
    input.Enters s.cleared ↔ input.Enters s := by
  cases input with
  | exited child exitStatus termSignal => exact Iff.rfl
  | event e => cases e <;> exact Iff.rfl

namespace Satellite

structure Same (t t' : Transition Satellite Input) : Prop where
  label : t.label = t'.label
  launches : t.target.launches.map (fun l => (l.action, l.spawned)) =
    t'.target.launches.map fun l => (l.action, l.spawned)
  state : t.target.currentState.Alike t'.target.currentState

/-- The callbacks of a run do the same on a satellite of the same arguments whose memory
of `enforced_safemode` held something else. -/
def Indifferent (uvSpawn : Script → ℕ → Bool) (args : Arguments) (enforced : Bool)
    (ts : List (Transition Satellite Input)) : Prop :=
  ∃ ts' sat', Run (Step uvSpawn) (Satellite.new args enforced) ts' sat' ∧ List.Forall₂ Same ts ts'

variable {uvSpawn : Script → ℕ → Bool} {sat sat₁ sat₂ sat' : Satellite}

theorem callback_below {f g : Handler Event Satellite} (below : Below f g) (input : Input)
    (h : sat.callback f input = some sat') : sat.callback g input = some sat' := by
  cases input with
  | event e => exact below _ _ _ h
  | exited child exitStatus termSignal =>
    simp only [callback] at h ⊢
    split at h
    · rename_i survived
      rw [if_pos survived]
      obtain ⟨sat₁, done, last⟩ := Option.bind_eq_some_iff.mp h
      exact Option.bind_eq_some_iff.mpr ⟨sat₁, Action.done_below below _ _ _ _ done, last⟩
    · rename_i killed
      rw [if_neg killed]
      exact h

theorem step_unique {input : Input} (h₁ : Step uvSpawn sat input sat₁)
    (h₂ : Step uvSpawn sat input sat₂) : sat₁ = sat₂ := by
  obtain ⟨_, m, first⟩ := h₁
  obtain ⟨_, n, second⟩ := h₂
  have mono : Monotone (onEventBody uvSpawn) := onEventBody_monotone
  have first' := callback_below (depth_below mono (Nat.le_max_left m n)) input first
  have second' := callback_below (depth_below mono (Nat.le_max_right m n)) input second
  exact Option.some.inj (first'.symm.trans second')

/-! A callback that enters safemode does not return with the flag on. -/

private theorem pinned_performActions {n : ℕ} {as : List Action} (pinned : Pinned sat)
    (reasons : ∀ a ∈ as, a.HasReason) {reason : UInt8} (mem : Action.enterSafeMode reason ∈ as) :
    performActions uvSpawn (Satellite.onEvent uvSpawn n) as sat = none := by
  induction as generalizing sat with
  | nil => cases mem
  | cons a as ih =>
    rw [performActions_cons]
    have prepared : Pinned (sat.prepared a) :=
      ⟨pinned.enforced, pinned.commands, pinned.off, pinned.running⟩
    rcases List.mem_cons.mp mem with rfl | later
    · have stuck : Satellite.onEvent uvSpawn n (.safeModeSignal reason)
          (sat.prepared (.enterSafeMode reason)) = none :=
        enforced_cut_off n rfl prepared.enforced prepared.commands
          (reasons (.enterSafeMode reason) List.mem_cons_self)
      change ((Satellite.onEvent uvSpawn n _ _).bind _).bind _ = none
      rw [stuck]
      rfl
    · cases head : a.perform uvSpawn (Satellite.onEvent uvSpawn n) sat.nextId (sat.prepared a) with
      | none => rfl
      | some sat₁ =>
        have shadow := shadowed_perform (fun e => shadowed_onEvent n e)
          (reasons a List.mem_cons_self) sat.nextId _ _ prepared head
        exact ih shadow.1 (fun b mem => reasons b (List.mem_cons_of_mem a mem)) later

private theorem pinned_fact {n : ℕ} {f : Event} (pinned : Pinned sat) (fact : f.isFact = true)
    (urgent : (f.update sat.currentState).Urgent) :
    Satellite.onEvent uvSpawn n f sat = none := by
  cases n with
  | zero => rfl
  | succ n =>
    set s := f.update sat.currentState with hs
    have kept : s.enforcedSafemode = true ∧ s.computer.shellCommands = [] := by
      have enforced := pinned.enforced
      have commands := pinned.commands
      cases f <;> first
        | exact ⟨enforced, commands⟩
        | simp [Event.isFact] at fact
    have state : (sat.heard f).currentState = s := by
      change (sat.currentState.pass f).1 = s
      rw [State.pass_fact fact, State.transformTo_eq, State.leopRules_same rfl]
    have listed : Action.enterSafeMode s.emergency ∈ (sat.currentState.pass f).2 := by
      rw [State.pass_fact fact, State.transformTo_eq, State.leopRules_same rfl]
      apply List.mem_append_right
      rw [State.autonomousRules_of_urgent _ urgent]
      exact List.mem_cons_self
    have reasons : ∀ a ∈ (sat.currentState.pass f).2, a.HasReason := by
      rw [State.pass_fact fact]
      exact fun a mem => hasReason_transformTo mem
    have heard : Pinned (sat.heard f) := by
      refine ⟨?_, ?_, ?_, pinned.running⟩
      · rw [state]
        exact kept.1
      · rw [state]
        exact kept.2
      · rw [state]
        exact urgent.1.1
    change onEventBody uvSpawn (Satellite.onEvent uvSpawn n) f sat = none
    rw [onEventBody_eq]
    exact pinned_performActions heard reasons listed

private theorem pinned_request
    {n : ℕ} {e : Event} (pinned : Pinned sat) (request : e.isFact = false)
    {reason : UInt8} (mem : Action.enterSafeMode reason ∈ (sat.currentState.pass e).2) :
    Satellite.onEvent uvSpawn n e sat = none := by
  cases n with
  | zero => rfl
  | succ n =>
    obtain ⟨enforced, computer, off⟩ := transformTo_keeps sat.currentState
      (e.update sat.currentState)
    have reasons : ∀ a ∈ (sat.currentState.pass e).2, a.HasReason := by
      rw [State.pass_request request]
      exact fun a mem => hasReason_transformTo mem
    have heard : Pinned (sat.heard e) := by
      have state : (sat.heard e).currentState =
          (sat.currentState.transformTo (e.update sat.currentState)).1 := by
        change (sat.currentState.pass e).1 = _
        rw [State.pass_request request]
      refine ⟨?_, ?_, ?_, pinned.running⟩
      · rw [state, enforced]
        exact pinned.enforced
      · rw [state, computer]
        exact pinned.commands
      · rw [state, off]
        exact pinned.off
    change onEventBody uvSpawn (Satellite.onEvent uvSpawn n) e sat = none
    rw [onEventBody_eq]
    exact pinned_performActions heard reasons mem

private theorem pinned_leaveManualMode {n : ℕ} (pinned : Pinned sat)
    (on : sat.currentState.manualmode = true)
    (urgent : State.Urgent { sat.currentState with manualmode := false }) :
    Satellite.onEvent uvSpawn n (.manualModeReq false) sat = none := by
  cases n with
  | zero => rfl
  | succ n =>
    set s := sat.currentState with hs
    have list : ∃ as, (s.pass (.manualModeReq false)).2 = .leaveManualMode :: as := by
      have computer : s.computer.transformTo s.computer = [] := by
        simp [Computer.transformTo, pinned.commands, hs]
      have manual : s.manualmodeRules (Event.update (.manualModeReq false) s) =
          [.leaveManualMode] := by
        simp [State.manualmodeRules, Event.update, on]
      rw [State.pass_request rfl, State.transformTo_eq, manual]
      change ∃ as, (s.computer.transformTo s.computer ++ _ ++ _ ++ _ ++ _ : List Action) = _
      rw [computer]
      exact ⟨_, rfl⟩
    obtain ⟨as, list⟩ := list
    have state : (sat.heard (.manualModeReq false)).currentState = s := pass_request_state rfl s
    have heard : Pinned ((sat.heard (.manualModeReq false)).prepared .leaveManualMode) := by
      refine ⟨?_, ?_, ?_, pinned.running⟩
      · rw [currentState_prepared, state]
        exact pinned.enforced
      · rw [currentState_prepared, state]
        exact pinned.commands
      · rw [currentState_prepared, state]
        exact pinned.off
    have stuck : Satellite.onEvent uvSpawn n (.manualModeSignal false)
        ((sat.heard (.manualModeReq false)).prepared .leaveManualMode) = none := by
      apply pinned_fact heard rfl
      rw [currentState_prepared, state]
      exact urgent
    change onEventBody uvSpawn (Satellite.onEvent uvSpawn n) (.manualModeReq false) sat = none
    rw [onEventBody_eq, list, performActions_cons]
    change ((Satellite.onEvent uvSpawn n _ _).bind _).bind _ = none
    rw [stuck]
    rfl

private theorem pinned_not_enters {input : Input} (pinned : Pinned sat)
    (h : Step uvSpawn sat input sat') : ¬ input.Enters sat.currentState := by
  intro enters
  obtain ⟨_, n, call⟩ := h
  have woken : Pinned (sat.record (.callback sat.currentState)) := pinned.record _
  cases input with
  | exited child exitStatus termSignal => exact enters
  | event e =>
    have stuck : Satellite.onEvent uvSpawn n e (sat.record (.callback sat.currentState)) = none := by
      cases e with
      | safeModeReq wanted =>
        obtain rfl : wanted = true := enters
        have request : Event.isFact (.safeModeReq true) = false := rfl
        have asked : (sat.currentState.safemodeRules
            (Event.update (.safeModeReq true) sat.currentState)) = [.enterSafeMode 3] := by
          have nonzero : (1 : UInt8) ≠ 0 := by decide
          simp [State.safemodeRules, Event.update, pinned.off, nonzero]
        have listed : Action.enterSafeMode 3 ∈
            (State.pass (.safeModeReq true) sat.currentState).2 := by
          rw [State.pass_request request, State.transformTo_eq, asked]
          simp
        exact pinned_request woken request listed
      | manualModeReq wanted =>
        obtain ⟨rfl, on, urgent⟩ := enters
        exact pinned_leaveManualMode woken on urgent
      | leopReq | payloadReq | controlMessage => cases enters.1
      | thmSignal | epsSignal | adcsSignal | adcsReqSignal | payloadSignal | leopSignal
      | maneuverModeSignal | manualModeSignal | safeModeSignal =>
        exact pinned_fact woken enters.1 enters.2
    cases stuck.symm.trans call

/-! Any other callback returns with the flag on as well. -/

variable (uvSpawn) in
private theorem performActions_calm
    {s : State} (target : State) (calm : ¬ s.Urgent) (sat : Satellite) :
    ∃ sat', (∀ g, performActions uvSpawn g (s.autonomousRules target) sat = some sat') ∧
      sat'.currentState = sat.currentState := by
  by_cases normal : s.Normal
  · have noEmergency : s.emergency = 0 := by
      by_contra nonzero
      exact calm ⟨normal, nonzero⟩
    rw [State.autonomousRules_of_calm target normal noEmergency]
    obtain ⟨sat', run, state, _⟩ := performActions_triggers uvSpawn s target sat
    exact ⟨sat', run, state⟩
  · rw [State.autonomousRules_of_not_normal target normal]
    exact ⟨sat, fun _ => rfl, rfl⟩

private theorem pass_fact_off {f : Event} (fact : f.isFact = true) {s : State}
    (commands : s.computer.shellCommands = []) (off : (f.update s).safemode = 0) :
    (s.pass f).2 = (f.update s).autonomousRules (f.update s) := by
  have kept : (f.update s).computer.shellCommands = [] := by
    cases f <;> first
      | exact commands
      | simp [Event.isFact] at fact
  rw [State.pass_fact fact, State.transformTo_eq, State.manualmodeRules_same rfl,
    State.leopRules_same rfl]
  simp [Computer.transformTo, kept, State.safemodeRules, off]

variable (uvSpawn) in
private theorem ends_fact_off {f : Event} (fact : f.isFact = true)
    (commands : sat.currentState.computer.shellCommands = [])
    (off : (f.update sat.currentState).safemode = 0) (calm : ¬ (f.update sat.currentState).Urgent) :
    ∃ sat', Computes (onEventBody uvSpawn) (fun g => g f sat) sat' ∧
      sat'.currentState = f.update sat.currentState := by
  obtain ⟨sat', run, state⟩ := performActions_calm uvSpawn _ calm (sat.heard f)
  refine ⟨sat', computes_call ((computes_pure sat').congr fun g => ?_), ?_⟩
  · rw [onEventBody_eq, pass_fact_off fact commands off, run]
  · rw [state]
    exact pass_fact_state fact sat.currentState

variable (uvSpawn) in
private theorem perform_off {a : Action} (other : a.script ≠ .enterSafemode) (id : ℕ)
    (off : sat.currentState.safemode = 0) :
    Ends uvSpawn fun g => ShellCommand.perform uvSpawn g id a sat := by
  cases a with
  | enterSafeMode reason => exact absurd rfl other
  | leaveManualMode =>
    cases spawned : uvSpawn .leaveManualmode (sat.attempts .leaveManualmode) with
    | true =>
      refine ⟨(sat.created id .leaveManualMode true).started id .leaveManualMode,
        (computes_pure _).congr fun g => ?_⟩
      simp only [ShellCommand.perform, Action.script, spawned, if_true]
    | false =>
      refine ⟨((sat.created id .leaveManualMode false).record
        (.exited id .leaveManualMode (-1))).freed id false, (computes_pure _).congr fun g => ?_⟩
      have ignored (sat₁ : Satellite) (off : sat₁.currentState.safemode = 0) :
          Action.leaveManualMode.done g (decide ((-1 : Int) = 0)) sat₁ = some sat₁ :=
        if_neg fun safe => safe off
      simp only [ShellCommand.perform, Action.script, spawned, Bool.false_eq_true, if_false,
        ShellCommand.exited]
      rw [ignored ((sat.created id .leaveManualMode false).record
        (.exited id .leaveManualMode (-1))) off]
      rfl
  | shellCommand | enterManualMode | leaveSafeMode | finishLEOP | triggerMeasuring
  | triggerDetumbling | triggerSunpointing => exact ends_lenient rfl id sat

private theorem ends_action {a : Action} (other : a.script ≠ .enterSafemode) (id : ℕ)
    (commands : sat.currentState.computer.shellCommands = [])
    (off : sat.currentState.safemode = 0)
    (calm : ∀ f ∈ a.signals, ¬ (f.update sat.currentState).Urgent) :
    Ends uvSpawn fun g => a.perform uvSpawn g id sat := by
  have signalled {f : Event} (fact : f.isFact = true) (off : (f.update sat.currentState).safemode = 0)
      (calm : ¬ (f.update sat.currentState).Urgent) :
      Ends uvSpawn fun g => (g f sat).bind (ShellCommand.perform uvSpawn g id a) := by
    obtain ⟨sat₁, signal, state⟩ := ends_fact_off uvSpawn fact commands off calm
    have off₁ : sat₁.currentState.safemode = 0 := by
      rw [state]
      exact off
    obtain ⟨sat₂, script⟩ := perform_off uvSpawn other id off₁
    exact ⟨sat₂, signal.bind script⟩
  cases a with
  | enterSafeMode reason => exact absurd rfl other
  | enterManualMode | leaveManualMode | leaveSafeMode | finishLEOP =>
    exact signalled rfl (by first | exact off | rfl) (calm _ List.mem_cons_self)
  | shellCommand | triggerMeasuring | triggerDetumbling | triggerSunpointing =>
    exact perform_off uvSpawn other id off

private theorem ends_list {as : List Action} {s : State} (target : State) (calm : ¬ s.Urgent)
    (head : as = [] ∨ ∃ a, as = [a] ∧
      Ends uvSpawn fun g => a.perform uvSpawn g sat.nextId (sat.prepared a)) :
    Ends uvSpawn fun g => performActions uvSpawn g (as ++ s.autonomousRules target) sat := by
  rcases head with rfl | ⟨a, rfl, sat₁, first⟩
  · obtain ⟨sat', run, _⟩ := performActions_calm uvSpawn target calm sat
    exact ⟨sat', (computes_pure sat').congr run⟩
  · obtain ⟨sat', run, _⟩ := performActions_calm uvSpawn target calm sat₁
    refine ⟨sat', (first.bind ((computes_pure sat').congr run)).congr fun g => ?_⟩
    rfl

private theorem pass_request_off {e : Event} (request : e.isFact = false) {s : State}
    (commands : s.computer.shellCommands = []) (off : s.safemode = 0) :
    (s.pass e).2 = s.cleared.requestActions e ++
      (s.cleared.requestState e).autonomousRules (e.update s.cleared) := by
  have same : (e.update s.cleared).cleared = (e.update s).cleared := by
    cases e <;> rfl
  have table : (s.cleared.transformTo (e.update s.cleared)).2 =
      (s.transformTo (e.update s)).2 := by rw [transformTo_cleared off same]
  have idle : s.cleared.Idle := ⟨rfl, commands⟩
  rw [State.pass_request request, ← table, State.transformTo_request idle request]

private theorem ends_request {e : Event} (request : e.isFact = false)
    (commands : sat.currentState.computer.shellCommands = [])
    (off : sat.currentState.safemode = 0) (covered : sat.currentState.Covered)
    (calm : ¬ (Input.event e).Enters sat.currentState) : Ends uvSpawn fun g => g e sat := by
  set s := sat.currentState with hs
  have covered' : s.cleared.Covered := covered
  have rules : ¬ (s.cleared.requestState e).Urgent :=
    (State.covered_iff _).mp (covered'.requestState e)
  have quiet : ¬ s.Urgent := (State.covered_iff s).mp covered
  have list := pass_request_off request commands off
  have action {a : Action} (other : a.script ≠ .enterSafemode) (same : s.requestState e = s)
      (calm : ∀ f ∈ a.signals, ¬ (f.update s).Urgent) :
      Ends uvSpawn fun g => a.perform uvSpawn g (sat.heard e).nextId ((sat.heard e).prepared a) := by
    have state : ((sat.heard e).prepared a).currentState = s :=
      (pass_request_state request s).trans same
    apply ends_action other
    · rw [state]
      exact commands
    · rw [state]
      exact off
    · rw [state]
      exact calm
  have head : s.cleared.requestActions e = [] ∨ ∃ a, s.cleared.requestActions e = [a] ∧
      Ends uvSpawn fun g => a.perform uvSpawn g (sat.heard e).nextId ((sat.heard e).prepared a) := by
    cases e with
    | manualModeReq wanted =>
      cases wanted with
      | true =>
        cases on : s.manualmode with
        | true => exact Or.inl (by simp [State.requestActions, State.cleared, on])
        | false =>
          refine Or.inr ⟨.enterManualMode, by simp [State.requestActions, State.cleared, on],
            action (by decide) rfl ?_⟩
          intro f mem urgent
          obtain rfl := List.mem_singleton.mp mem
          cases urgent.1.2
      | false =>
        cases on : s.manualmode with
        | false => exact Or.inl (by simp [State.requestActions, State.cleared, on])
        | true =>
          refine Or.inr ⟨.leaveManualMode, by simp [State.requestActions, State.cleared, on],
            action (by decide) rfl ?_⟩
          intro f mem urgent
          obtain rfl := List.mem_singleton.mp mem
          exact calm ⟨rfl, on, urgent⟩
    | safeModeReq wanted =>
      cases wanted with
      | true => exact absurd rfl calm
      | false => exact Or.inl (by simp [State.requestActions, State.cleared, off])
    | leopReq wanted =>
      by_cases due : wanted ≠ s.leop ∧ wanted = .done
      · obtain ⟨changed, rfl⟩ := due
        refine Or.inr ⟨.finishLEOP, by simp [State.requestActions, State.cleared, changed],
          action (by decide) rfl ?_⟩
        intro f mem urgent
        obtain rfl := List.mem_singleton.mp mem
        exact quiet urgent
      · exact Or.inl (if_neg due)
    | payloadReq wanted => exact Or.inl rfl
    | controlMessage message =>
      exact Or.inr ⟨_, rfl, action (by simp [Action.script]) rfl fun f mem => by cases mem⟩
    | _ => cases request
  obtain ⟨sat', run⟩ := ends_list (e.update s.cleared) rules head
  refine ⟨sat', computes_call (run.congr fun g => ?_)⟩
  rw [onEventBody_eq, ← hs, list]

variable (uvSpawn) in
private theorem ends_done {a : Action} (other : a.script ≠ .enterSafemode) (success : Bool)
    (commands : sat.currentState.computer.shellCommands = [])
    (off : sat.currentState.safemode = 0) (covered : sat.currentState.Covered) :
    Ends uvSpawn fun g => a.done g success sat := by
  have quiet : ¬ sat.currentState.Urgent := (State.covered_iff _).mp covered
  have fact {f : Event} (is : f.isFact = true) (off : (f.update sat.currentState).safemode = 0)
      (calm : ¬ (f.update sat.currentState).Urgent) : Ends uvSpawn fun g => g f sat := by
    obtain ⟨sat', computes, _⟩ := ends_fact_off uvSpawn is commands off calm
    exact ⟨sat', computes⟩
  have same : Ends uvSpawn fun _ => some sat := ⟨sat, computes_pure sat⟩
  cases a with
  | enterSafeMode reason => exact absurd rfl other
  | leaveManualMode =>
    refine ⟨sat, (computes_pure sat).congr fun g => ?_⟩
    exact if_neg fun safe => safe off
  | triggerDetumbling | triggerSunpointing | triggerMeasuring =>
    cases success with
    | true => exact fact rfl off quiet
    | false => exact same
  | shellCommand | enterManualMode | leaveSafeMode | finishLEOP => exact same

variable (uvSpawn) in
private theorem step_of_not_enters {input : Input} (pinned : Pinned sat)
    (covered : sat.currentState.Covered) (enabled : sat.Enabled input)
    (calm : ¬ input.Enters sat.currentState) : ∃ sat', Step uvSpawn sat input sat' := by
  cases input with
  | event e =>
    set woken := sat.record (.callback sat.currentState) with hwoken
    have ends : Ends uvSpawn fun g => g e woken := by
      cases fact : e.isFact with
      | true =>
        have quiet : ¬ (e.update sat.currentState).Urgent := by
          intro urgent
          apply calm
          cases e <;> first
            | exact ⟨rfl, urgent⟩
            | cases fact
        have off : (e.update sat.currentState).safemode = 0 := by
          cases e with
          | thmSignal | epsSignal | adcsSignal | payloadSignal | maneuverModeSignal =>
            exact pinned.off
          | adcsReqSignal | leopSignal | manualModeSignal | safeModeSignal => cases enabled
          | manualModeReq | safeModeReq | leopReq | payloadReq | controlMessage => cases fact
        obtain ⟨sat', computes, _⟩ := ends_fact_off uvSpawn fact
          (show woken.currentState.computer.shellCommands = [] from pinned.commands) off quiet
        exact ⟨sat', computes⟩
      | false => exact ends_request fact pinned.commands pinned.off covered calm
    obtain ⟨sat', computes⟩ := ends
    obtain ⟨n, returns⟩ := computes.returns
    exact ⟨sat', enabled, n, returns⟩
  | exited child exitStatus termSignal =>
    by_cases reported : termSignal ≠ SIGTERM
    · have other := pinned.running child enabled
      set told := ((sat.record (.callback sat.currentState)).ended child).record
        (.exited child.id child.action exitStatus) with htold
      have ends : Ends uvSpawn fun g => child.action.done g (exitStatus = 0) told :=
        ends_done uvSpawn other _ pinned.commands pinned.off covered
      obtain ⟨sat₁, done⟩ := ends
      obtain ⟨n, returns⟩ := done.exists
      refine ⟨sat₁.freed child.id (exitStatus = 0), enabled, n, ?_⟩
      simp only [callback, if_pos reported]
      exact Option.bind_eq_some_iff.mpr ⟨sat₁, returns, rfl⟩
    · refine ⟨(sat.record (.callback sat.currentState)).ended child, enabled, 0, ?_⟩
      simp only [callback, if_neg reported]

/-! Runs. -/

private theorem launches_alike (sat : Satellite) :
    sat.cleared.launches.map (fun l => (l.action, l.spawned)) =
      sat.launches.map fun l => (l.action, l.spawned) := by
  rw [launches_cleared, List.map_map]
  rfl

private theorem same_cleared (t : Transition Satellite Input) : Same t (clearedTransition t) :=
  ⟨rfl, (launches_alike t.target).symm, t.target.currentState.alike_cleared⟩

theorem Same.symm {t t' : Transition Satellite Input} (same : Same t t') : Same t' t :=
  ⟨same.label.symm, same.launches.symm, same.state.symm⟩

private theorem same_all (ts : List (Transition Satellite Input)) :
    List.Forall₂ Same ts (ts.map clearedTransition) := by
  induction ts with
  | nil => exact .nil
  | cons t ts ih => exact .cons (same_cleared t) ih

private theorem same_labels
    {ts ts' : List (Transition Satellite Input)} (same : List.Forall₂ Same ts ts') :
    ts.map Transition.label = ts'.map Transition.label := by
  induction same with
  | nil => rfl
  | cons head _ ih => rw [List.map_cons, List.map_cons, head.label, ih]

private theorem run_pinned_not_enters {args : Arguments} {ts : List (Transition Satellite Input)}
    (run : Run (Step uvSpawn) (Satellite.new args true) ts sat) :
    ∀ t ∈ ts, ¬ t.label.Enters t.source.currentState := by
  intro t mem
  obtain ⟨⟨_, early⟩, step⟩ := run.transition mem
  exact pinned_not_enters (run_shadowed early).1 step

private theorem run_of_not_enters {args : Arguments} {ts : List (Transition Satellite Input)}
    (run : Run (Step uvSpawn) (Satellite.new args false) ts sat)
    (calm : ∀ t ∈ ts, ¬ t.label.Enters t.source.currentState) :
    ∃ ts' sat', Run (Step uvSpawn) (Satellite.new args true) ts' sat' ∧
      ts'.map clearedTransition = ts ∧ sat'.cleared = sat := by
  induction run with
  | nil => exact ⟨[], _, .nil, rfl, rfl⟩
  | @snoc ts sat sat₁ input prior step ih =>
    obtain ⟨ts', sat', run', rfl, rfl⟩ := ih fun t mem => calm t (List.mem_append_left _ mem)
    have last := calm _ (List.mem_append_right _ List.mem_cons_self)
    have pinned := (run_shadowed run').1
    have covered : sat'.currentState.Covered := (run_steady prior).covered
    have enabled : sat'.Enabled input := by
      cases input <;> exact step.1
    have quiet : ¬ input.Enters sat'.currentState := fun enters =>
      last ((input.enters_cleared sat'.currentState).mpr enters)
    obtain ⟨sat₂, step'⟩ := step_of_not_enters uvSpawn pinned covered enabled quiet
    have shadow := (step_shadowed pinned step').2
    obtain rfl := step_unique step shadow
    refine ⟨ts' ++ [⟨sat', input, sat₂⟩], sat₂, run'.snoc step', ?_, rfl⟩
    rw [List.map_append]
    rfl

/-- A run does the same with another content of `enforced_safemode` exactly if this is
false, or no callback of the run enters safemode. -/
theorem indifferent_iff (uvSpawn : Script → ℕ → Bool) (args : Arguments) (enforced other : Bool)
    {ts : List (Transition Satellite Input)}
    (run : Run (Step uvSpawn) (Satellite.new args enforced) ts sat) :
    Indifferent uvSpawn args other ts ↔
      other = false ∨ ∀ t ∈ ts, ¬ t.label.Enters t.source.currentState := by
  have itself : List.Forall₂ Same ts ts := by
    apply List.forall₂_same.mpr
    exact fun t _ => ⟨rfl, rfl, rfl, rfl, rfl, rfl, rfl, rfl, rfl, rfl⟩
  cases enforced with
  | true =>
    refine iff_of_true ?_ (Or.inr (run_pinned_not_enters run))
    cases other with
    | true => exact ⟨ts, sat, run, itself⟩
    | false => exact ⟨_, _, (run_shadowed run).2, same_all ts⟩
  | false =>
    cases other with
    | false => exact iff_of_true ⟨ts, sat, run, itself⟩ (Or.inl rfl)
    | true =>
      constructor
      · rintro ⟨ts', sat', run', same⟩
        right
        have labels : ts.map Transition.label = (ts'.map clearedTransition).map Transition.label := by
          rw [same_labels same, List.map_map]
          rfl
        have det (sat : Satellite) (input : Input) (sat₁ sat₂ : Satellite)
            (h₁ : Step uvSpawn sat input sat₁) (h₂ : Step uvSpawn sat input sat₂) : sat₁ = sat₂ :=
          step_unique h₁ h₂
        obtain ⟨rfl, _⟩ := run.unique det (run_shadowed run').2 labels
        intro t mem
        obtain ⟨t', mem', rfl⟩ := List.mem_map.mp mem
        intro enters
        exact run_pinned_not_enters run' t' mem' ((Input.enters_cleared _ _).mp enters)
      · rintro (off | calm)
        · cases off
        · obtain ⟨ts', sat', run', rfl, _⟩ := run_of_not_enters run calm
          refine ⟨ts', sat', run', ?_⟩
          exact (same_all ts').flip.imp fun _ _ same => same.symm

theorem indifferent_iff_request :
    ∃ ts sat, Run (Step fun _ _ => true) (Satellite.new {} false) ts sat ∧
      ts.map Transition.label = [.event (.safeModeReq true)] ∧
      (Indifferent (fun _ _ => true) {} true ts ↔
        true = false ∨ ∀ t ∈ ts, ¬ t.label.Enters t.source.currentState) := by
  obtain ⟨ts, sat, run, labels, _⟩ := exists_run (fun _ _ => true) 4 (Satellite.new {} false)
    [.event (.safeModeReq true)] (fun _ => true) (by decide +kernel)
  exact ⟨ts, sat, run, labels, indifferent_iff _ _ _ _ run⟩

/-- Where the memory held true, a request for safemode is never served. -/
theorem request_depends_on_memory :
    ¬ ∀ (uvSpawn : Script → ℕ → Bool) (args : Arguments) (enforced other : Bool)
      (ts : List (Transition Satellite Input)) (sat : Satellite),
      Run (Step uvSpawn) (Satellite.new args enforced) ts sat → Indifferent uvSpawn args other ts := by
  intro claim
  obtain ⟨ts, sat, run, labels, _⟩ := exists_run (fun _ _ => true) 4 (Satellite.new {} false)
    [.event (.safeModeReq true)] (fun _ => true) (by decide +kernel)
  obtain ⟨ts', sat', run', same⟩ := claim _ _ _ true ts sat run
  have labels' := (same_labels same).symm.trans labels
  obtain ⟨t, rest, rfl, asked, _⟩ := List.map_eq_cons_iff.mp labels'
  apply run_pinned_not_enters run' t List.mem_cons_self
  rw [asked]
  rfl

end Satellite

end Horst
