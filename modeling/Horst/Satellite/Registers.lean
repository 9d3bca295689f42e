import Horst.Satellite.Modes

/-!
The state as a record of what was reported: which of its fields hold the last value that was
told from outside, and how the others can differ from it. This does not depend on which
scripts can be started, nor on how they end.
-/

set_option autoImplicit false
set_option relaxedAutoImplicit false

namespace Horst

open Foundation Foundation.Nested

/-- Safemode is entered for one of the three documented reasons. -/
def Action.Sound : Action → Prop
  | .enterSafeMode reason => reason = 1 ∨ reason = 2 ∨ reason = 3
  | .shellCommand _ _ | .enterManualMode | .leaveManualMode | .leaveSafeMode | .finishLEOP
  | .triggerMeasuring | .triggerDetumbling | .triggerSunpointing => True

/-- What sound actions send to the satellite, apart from the reports of the triggers. -/
inductive Event.Told : Event → Prop
  | manualModeSignal (manualmode : Bool) : Told (.manualModeSignal manualmode)
  | safeModeSignal (safemode : UInt8) : safemode ≤ 3 → Told (.safeModeSignal safemode)
  | maneuverModeSignal : Told (.maneuverModeSignal false)
  | leopSignal : Told (.leopSignal .done)
  | safeModeReq : Told (.safeModeReq true)

private theorem State.sound_of_mem_autonomousRules {s target : State} {a : Action}
    (mem : a ∈ s.autonomousRules target) : a.Sound := by
  have trigger : a.isTrigger = true → a.Sound := by
    intro h
    cases a <;> trivial
  unfold State.autonomousRules at mem
  split at mem
  · rw [List.append_assoc] at mem
    rcases List.mem_append.mp mem with emergency | due
    · unfold State.emergencyRules at emergency
      split_ifs at emergency
      · rw [List.mem_singleton.mp emergency]
        exact Or.inl rfl
      · rw [List.mem_singleton.mp emergency]
        exact Or.inr (Or.inl rfl)
      · cases emergency
    · exact trigger (State.isTrigger_of_mem_dueTriggers due)
  · cases mem

private theorem State.sound_of_mem_transformTo {s target : State} {a : Action}
    (mem : a ∈ (s.transformTo target).2) : a.Sound := by
  rw [State.transformTo_eq] at mem
  simp only [List.mem_append] at mem
  rcases mem with (((computer | manual) | safe) | leop) | autonomous
  · obtain ⟨_, _, rfl⟩ := List.mem_map.mp computer
    trivial
  · unfold State.manualmodeRules at manual
    split_ifs at manual
    · rw [List.mem_singleton.mp manual]
      trivial
    · rw [List.mem_singleton.mp manual]
      trivial
    · cases manual
  · unfold State.safemodeRules at safe
    split_ifs at safe
    · rw [List.mem_singleton.mp safe]
      exact Or.inr (Or.inr rfl)
    · rw [List.mem_singleton.mp safe]
      trivial
    · cases safe
  · unfold State.leopRules at leop
    split_ifs at leop
    · rw [List.mem_singleton.mp leop]
      trivial
    · cases leop
    · cases leop
  · exact State.sound_of_mem_autonomousRules autonomous

private theorem State.sound_of_mem_pass
    {e : Event} {s : State} {a : Action} (mem : a ∈ (s.pass e).2) :
    a.Sound := by
  unfold State.pass at mem
  exact State.sound_of_mem_transformTo mem

def Scope.table : Scope where
  action := Action.Sound
  event := Event.Told
  lists _ _ _ _ mem := State.sound_of_mem_pass mem
  signals a sound e mem := by
    cases a with
    | enterSafeMode reason =>
      rcases List.mem_cons.mp mem with rfl | rest
      · apply Event.Told.safeModeSignal
        rcases sound with rfl | rfl | rfl <;> decide
      · rw [List.mem_singleton.mp rest]
        exact .maneuverModeSignal
    | enterManualMode | leaveManualMode =>
      rw [List.mem_singleton.mp mem]
      exact .manualModeSignal _
    | leaveSafeMode =>
      rw [List.mem_singleton.mp mem]
      exact .safeModeSignal 0 (by decide)
    | finishLEOP =>
      rw [List.mem_singleton.mp mem]
      exact .leopSignal
    | shellCommand | triggerMeasuring | triggerDetumbling | triggerSunpointing => cases mem
  recovery a e mem := by
    cases a with
    | enterSafeMode reason =>
      rw [List.mem_singleton.mp mem]
      exact .safeModeSignal 0 (by decide)
    | leaveManualMode =>
      rw [List.mem_singleton.mp mem]
      exact .safeModeReq
    | shellCommand | enterManualMode | leaveSafeMode | finishLEOP | triggerMeasuring
    | triggerDetumbling | triggerSunpointing => cases mem
  reports _ _ _ _ _ mem := State.sound_of_mem_pass mem

/-! What an event tells about a field of the state. -/

def Event.temp? : Event → Option OverallTemp
  | .thmSignal temp => some temp
  | _ => none

def Event.battery? : Event → Option UInt16
  | .epsSignal bat => some bat
  | _ => none

def Event.pointing? : Event → Option AdcsState
  | .adcsSignal adcsStatus => some adcsStatus
  | _ => none

def Event.payload? : Event → Option DaemonState
  | .payloadSignal payload => some payload
  | _ => none

def Event.maneuver? : Event → Option Bool
  | .maneuverModeSignal maneuvermode => some maneuvermode
  | _ => none

def Event.manual? : Event → Option Bool
  | .manualModeReq wanted => some wanted
  | _ => none

def Event.leop? : Event → Option LeopSeq
  | .leopReq wanted => some wanted
  | _ => none

section Last

variable {α : Type} (read : Event → Option α) (initial : α) (es : List Event) {e : Event}

/-- The value that was told last, or the one it started with. -/
def lastTold : α := (es.filterMap read).getLastD initial

private theorem lastTold_snoc
    : lastTold read initial (es ++ [e]) = (read e).getD (lastTold read initial es) := by
  unfold lastTold
  rw [List.filterMap_append]
  cases told : read e with
  | none => simp [told]
  | some a => simp [told]

end Last

/-- What a state can be after the given events from outside. -/
structure State.Reported (limit : UInt16) (es : List Event) (s : State) : Prop where
  treshold : s.batteryTreshold = limit
  allTemp : s.thm.allTemp = lastTold Event.temp? .warn es
  batteryLevel : s.eps.batteryLevel = lastTold Event.battery? limit es
  safemode : s.safemode ≤ 3
  maneuvermode : s.maneuvermode = true → lastTold Event.maneuver? false es = true
  pointing : s.adcs.pointing = .none ∨
    s.adcs.pointing = lastTold Event.pointing? .none es ∧ s.adcs.requested = .none
  requested : s.adcs.requested = .none ∨ s.adcs.requested = .detumb ∨ s.adcs.requested = .sun
  daemon : s.pl.daemon = .measuring ∨ s.pl.daemon = lastTold Event.payload? .off es

private theorem lastTold_silent {α : Type} {read : Event → Option α} {initial : α} {es : List Event}
    {e : Event} (silent : read e = none) :
    lastTold read initial (es ++ [e]) = lastTold read initial es := by
  rw [lastTold_snoc, silent]
  rfl

namespace State.Reported

variable {limit : UInt16} {es : List Event} {s s' : State} {e : Event}

theorem congr (reported : s.Reported limit es) (treshold : s'.batteryTreshold = s.batteryTreshold)
    (thm : s'.thm = s.thm) (eps : s'.eps = s.eps) (safemode : s'.safemode ≤ 3)
    (maneuvermode : s'.maneuvermode = true → s.maneuvermode = true) (adcs : s'.adcs = s.adcs)
    (pl : s'.pl = s.pl) : s'.Reported limit es where
  treshold := treshold.trans reported.treshold
  allTemp := by rw [thm, reported.allTemp]
  batteryLevel := by rw [eps, reported.batteryLevel]
  safemode := safemode
  maneuvermode on := reported.maneuvermode (maneuvermode on)
  pointing := by
    rw [adcs]
    exact reported.pointing
  requested := by
    rw [adcs]
    exact reported.requested
  daemon := by
    rw [pl]
    exact reported.daemon

theorem told (reported : s.Reported limit es) (told : e.Told) :
    (s.pass e).1.Reported limit es := by
  cases told with
  | safeModeReq =>
    rw [Satellite.pass_request_state rfl]
    exact reported
  | manualModeSignal mode =>
    rw [Satellite.pass_fact_state rfl]
    exact reported.congr rfl rfl rfl reported.safemode id rfl rfl
  | safeModeSignal reason small =>
    rw [Satellite.pass_fact_state rfl]
    exact reported.congr rfl rfl rfl small id rfl rfl
  | maneuverModeSignal =>
    rw [Satellite.pass_fact_state rfl]
    exact reported.congr rfl rfl rfl reported.safemode (fun on => Bool.noConfusion on) rfl rfl
  | leopSignal =>
    rw [Satellite.pass_fact_state rfl]
    exact reported.congr rfl rfl rfl reported.safemode id rfl rfl

theorem report (reported : s.Reported limit es) {a : Action} (report : a.report = some e) :
    (s.pass e).1.Reported limit es := by
  cases a with
  | triggerDetumbling =>
    obtain rfl := Option.some.inj report
    rw [Satellite.pass_fact_state rfl]
    exact { reported with pointing := Or.inl rfl, requested := Or.inr (Or.inl rfl) }
  | triggerSunpointing =>
    obtain rfl := Option.some.inj report
    rw [Satellite.pass_fact_state rfl]
    exact { reported with pointing := Or.inl rfl, requested := Or.inr (Or.inr rfl) }
  | triggerMeasuring =>
    obtain rfl := Option.some.inj report
    rw [Satellite.pass_fact_state rfl]
    exact { reported with daemon := Or.inl rfl }
  | shellCommand | enterManualMode | leaveManualMode | enterSafeMode | leaveSafeMode
  | finishLEOP => cases report

theorem heard (reported : s.Reported limit es) (external : e.external = true) :
    (s.pass e).1.Reported limit (es ++ [e]) := by
  have other {α : Type} {read : Event → Option α} {initial : α} (silent : read e = none) :
      lastTold read initial es = lastTold read initial (es ++ [e]) := (lastTold_silent silent).symm
  have own {α : Type} {read : Event → Option α} {initial a : α} (tells : read e = some a) :
      a = lastTold read initial (es ++ [e]) := by
    rw [lastTold_snoc, tells]
    rfl
  have elsewhere (temp : Event.temp? e = none) (battery : Event.battery? e = none)
      (pointing : Event.pointing? e = none) (payload : Event.payload? e = none)
      (maneuver : Event.maneuver? e = none) : s.Reported limit (es ++ [e]) := by
    obtain ⟨h₁, h₂, h₃, h₄, h₅, h₆, h₇, h₈⟩ := reported
    rw [other temp] at h₂
    rw [other battery] at h₃
    rw [other maneuver] at h₅
    rw [other pointing] at h₆
    rw [other payload] at h₈
    exact ⟨h₁, h₂, h₃, h₄, h₅, h₆, h₇, h₈⟩
  cases e with
  | thmSignal temp =>
    rw [Satellite.pass_fact_state rfl]
    obtain ⟨h₁, -, h₃, h₄, h₅, h₆, h₇, h₈⟩ := reported
    exact ⟨h₁, own rfl, h₃.trans (other rfl), h₄, fun on => (other rfl).symm.trans (h₅ on),
      h₆.imp_right fun h => ⟨h.1.trans (other rfl), h.2⟩, h₇,
      h₈.imp_right fun h => h.trans (other rfl)⟩
  | epsSignal bat =>
    rw [Satellite.pass_fact_state rfl]
    obtain ⟨h₁, h₂, -, h₄, h₅, h₆, h₇, h₈⟩ := reported
    exact ⟨h₁, h₂.trans (other rfl), own rfl, h₄, fun on => (other rfl).symm.trans (h₅ on),
      h₆.imp_right fun h => ⟨h.1.trans (other rfl), h.2⟩, h₇,
      h₈.imp_right fun h => h.trans (other rfl)⟩
  | adcsSignal status =>
    rw [Satellite.pass_fact_state rfl]
    obtain ⟨h₁, h₂, h₃, h₄, h₅, -, -, h₈⟩ := reported
    exact ⟨h₁, h₂.trans (other rfl), h₃.trans (other rfl), h₄,
      fun on => (other rfl).symm.trans (h₅ on), Or.inr ⟨own rfl, rfl⟩, Or.inl rfl,
      h₈.imp_right fun h => h.trans (other rfl)⟩
  | payloadSignal payload =>
    rw [Satellite.pass_fact_state rfl]
    obtain ⟨h₁, h₂, h₃, h₄, h₅, h₆, h₇, -⟩ := reported
    exact ⟨h₁, h₂.trans (other rfl), h₃.trans (other rfl), h₄,
      fun on => (other rfl).symm.trans (h₅ on),
      h₆.imp_right fun h => ⟨h.1.trans (other rfl), h.2⟩, h₇, Or.inr (own rfl)⟩
  | maneuverModeSignal mode =>
    rw [Satellite.pass_fact_state rfl]
    obtain ⟨h₁, h₂, h₃, h₄, -, h₆, h₇, h₈⟩ := reported
    exact ⟨h₁, h₂.trans (other rfl), h₃.trans (other rfl), h₄,
      fun on => (own (a := mode) rfl).symm.trans on,
      h₆.imp_right fun h => ⟨h.1.trans (other rfl), h.2⟩, h₇,
      h₈.imp_right fun h => h.trans (other rfl)⟩
  | leopReq wanted =>
    rw [Satellite.pass_request_state rfl]
    have same : s.Reported limit (es ++ [.leopReq wanted]) := elsewhere rfl rfl rfl rfl rfl
    rw [State.requestState]
    split
    · exact same
    · exact same.congr rfl rfl rfl same.safemode id rfl rfl
  | manualModeReq | safeModeReq | payloadReq | controlMessage =>
    rw [Satellite.pass_request_state rfl]
    exact elsewhere rfl rfl rfl rfl rfl
  | adcsReqSignal | leopSignal | manualModeSignal | safeModeSignal => cases external

end State.Reported

namespace Satellite

variable {uvSpawn : Script → ℕ → Bool} {sat sat' : Satellite} {es : List Event} {limit : UInt16}

private theorem kept_state {P : State → Prop} (heard : ∀ e s, Event.Told e → P s → P (s.pass e).1)
    (unsafed : ∀ s : State, P s → P { s with safemode := 0 }) :
    Kept uvSpawn Scope.table fun sat sat' => P sat.currentState → P sat'.currentState where
  refl _ := id
  trans first second := second ∘ first
  heard sat e told := heard e sat.currentState told
  unsafed sat := unsafed sat.currentState
  started _ _ _ _ before _ := before
  failed _ _ _ _ _ before _ after := after ∘ before

private theorem kept_reported : Kept uvSpawn Scope.table fun sat sat' =>
    sat.currentState.Reported limit es → sat'.currentState.Reported limit es :=
  kept_state (fun _ _ told reported => reported.told told) fun _ reported =>
    reported.congr rfl rfl rfl (show (0 : UInt8) ≤ 3 by decide) id rfl rfl

def eventsIn (inputs : List Input) : List Event :=
  inputs.filterMap fun input => match input with
    | .event e => some e
    | .exited _ _ _ => none

private theorem reported_step {input : Input} (reported : sat.currentState.Reported limit es)
    (step : Step uvSpawn sat input sat') :
    sat'.currentState.Reported limit (es ++ eventsIn [input]) := by
  obtain ⟨enabled, n, call⟩ := step
  cases input with
  | event e =>
    set woken := sat.record (.callback sat.currentState)
    have heard : (woken.heard e).currentState.Reported limit (es ++ [e]) := reported.heard enabled
    exact kept_reported.call_heard n (fun a mem => State.sound_of_mem_pass mem) call heard
  | exited child exitStatus termSignal =>
    have none : eventsIn [.exited child exitStatus termSignal] = [] := rfl
    rw [none, List.append_nil]
    set ended := (sat.record (.callback sat.currentState)).ended child
    have before : ended.currentState.Reported limit es := reported
    unfold callback at call
    change (if termSignal ≠ SIGTERM then _ else some ended) = some sat' at call
    split at call
    · have kept : Kept uvSpawn Scope.table fun sat sat' =>
        sat.currentState.Reported limit es → sat'.currentState.Reported limit es := kept_reported
      obtain ⟨sat₁, done, rfl⟩ := kept.exited n call
      apply done
      rcases reported_cases (ended.record (.exited child.id child.action exitStatus)) child.action
        (exitStatus = 0) with same | ⟨e, report, heard⟩
      · rw [same]
        exact before
      · rw [heard]
        exact State.Reported.report before report
    · obtain rfl := Option.some.inj call
      exact before

end Satellite

structure State.Registered (args : Arguments) (es : List Event) (s : State) : Prop where
  reported : s.Reported args.batteryTreshold es
  manualmode : s.manualmode = lastTold Event.manual? args.startmanual es
  leop : s.leop = lastTold Event.leop? args.leop es

private theorem Event.update_modes {e : Event} (external : e.external = true) (s : State) :
    (e.update s).manualmode = (Event.manual? e).getD s.manualmode ∧
      (e.update s).leop = (Event.leop? e).getD s.leop := by
  cases e with
  | adcsReqSignal | leopSignal | manualModeSignal | safeModeSignal => cases external
  | thmSignal | epsSignal | adcsSignal | payloadSignal | maneuverModeSignal | manualModeReq
  | safeModeReq | leopReq | payloadReq | controlMessage => exact ⟨rfl, rfl⟩

namespace Satellite

variable {uvSpawn : Script → ℕ → Bool} {sat sat' : Satellite} {es : List Event} {args : Arguments}

theorem new_registered (args : Arguments) (enforced : Bool) :
    (Satellite.new args enforced).currentState.Registered args [] where
  reported :=
    { treshold := rfl
      allTemp := rfl
      batteryLevel := rfl
      safemode := show (0 : UInt8) ≤ 3 by decide
      maneuvermode := fun on => Bool.noConfusion on
      pointing := Or.inl rfl
      requested := Or.inl rfl
      daemon := Or.inr rfl }
  manualmode := rfl
  leop := rfl

theorem registered_step {input : Input} (registered : sat.currentState.Registered args es)
    (step : Step uvSpawn sat input sat') :
    sat'.currentState.Registered args (es ++ eventsIn [input]) := by
  refine ⟨reported_step registered.reported step, ?_, ?_⟩
  · rw [(answered step).manualmode]
    cases input with
    | event e =>
      have told := (Event.update_modes step.1 sat.currentState).1
      rw [Input.target, told, registered.manualmode]
      exact (lastTold_snoc _ _ _).symm
    | exited child exitStatus termSignal =>
      exact registered.manualmode.trans (congrArg _ (List.append_nil es).symm)
  · rw [(answered step).leop]
    cases input with
    | event e =>
      have told := (Event.update_modes step.1 sat.currentState).2
      rw [Input.target, told, registered.leop]
      exact (lastTold_snoc _ _ _).symm
    | exited child exitStatus termSignal =>
      exact registered.leop.trans (congrArg _ (List.append_nil es).symm)

/-- Whatever scripts start and however they end, between callbacks the temperature, the battery
level, manualmode and the LEOP sequence are what was last told from outside, and the other
fields differ from it only as the actions allow. -/
theorem registers_hold (uvSpawn : Script → ℕ → Bool) (args : Arguments) (enforced : Bool)
    {ts : List (Transition Satellite Input)} {sat : Satellite}
    (run : Run (Step uvSpawn) (Satellite.new args enforced) ts sat) :
    sat.currentState.Registered args (eventsIn (ts.map Transition.label)) := by
  induction run with
  | nil => exact new_registered args enforced
  | snoc _ step ih =>
    have next := registered_step ih step
    rw [List.map_append, eventsIn, List.filterMap_append]
    exact next

/-- `enter_safemode.sh` cannot be started at first, and starts at the second attempt. -/
theorem registers_hold_low :
    ∃ ts sat, Run (Step fun _ j => decide (1 ≤ j)) (Satellite.new {} false) ts sat ∧
      ts.map Transition.label = [.event (.epsSignal 7), .event (.leopReq .undeployed)] ∧
      sat.currentState.Registered {} (eventsIn (ts.map Transition.label)) := by
  obtain ⟨ts, sat, run, labels, _⟩ :=
    exists_run (fun _ j => decide (1 ≤ j)) 9 (Satellite.new {} false)
      [.event (.epsSignal 7), .event (.leopReq .undeployed)] (fun _ => true) (by decide +kernel)
  exact ⟨ts, sat, run, labels, registers_hold _ {} false run⟩

end Satellite

end Horst
