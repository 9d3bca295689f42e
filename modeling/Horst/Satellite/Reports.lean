import Horst.Satellite.Modes

/-!
Reports about the ADCS and the payload: the signals of their daemons, and the scripts
that hand a request over to them, which report it when they have succeeded.
-/

set_option autoImplicit false
set_option relaxedAutoImplicit false

namespace Horst

open Foundation Foundation.Nested

/-- What the callback of a trigger writes about the ADCS. -/
def Action.adcs? : Action → Option ADCS
  | .triggerDetumbling => some ⟨.none, .detumb⟩
  | .triggerSunpointing => some ⟨.none, .sun⟩
  | .shellCommand _ _ | .enterManualMode | .leaveManualMode | .enterSafeMode _ | .leaveSafeMode
  | .finishLEOP | .triggerMeasuring => none

def Action.payload? : Action → Option Payload
  | .triggerMeasuring => some ⟨.measuring⟩
  | .shellCommand _ _ | .enterManualMode | .leaveManualMode | .enterSafeMode _ | .leaveSafeMode
  | .finishLEOP | .triggerDetumbling | .triggerSunpointing => none

/-- The script of an action ended, and the action is told that it was a success. -/
def Succeeded (exitStatus termSignal : Int) : Prop := exitStatus = 0 ∧ termSignal ≠ SIGTERM

instance (exitStatus termSignal : Int) : Decidable (Succeeded exitStatus termSignal) :=
  inferInstanceAs (Decidable (_ ∧ _))

def Input.adcs? : Input → Option ADCS
  | .event (.adcsSignal adcsStatus) => some ⟨adcsStatus, .none⟩
  | .event _ => none
  | .exited child exitStatus termSignal =>
      if Succeeded exitStatus termSignal then child.action.adcs? else none

def Input.payload? : Input → Option Payload
  | .event (.payloadSignal payload) => some ⟨payload⟩
  | .event _ => none
  | .exited child exitStatus termSignal =>
      if Succeeded exitStatus termSignal then child.action.payload? else none

/-- The events that the satellite sends itself, other than these reports. -/
def Scope.own : Scope where
  action _ := True
  event e := ∃ a : Action, e ∈ a.signals ∨ e ∈ a.recovery
  lists _ _ _ _ _ := trivial
  signals a _ _ mem := ⟨a, Or.inl mem⟩
  recovery a _ mem := ⟨a, Or.inr mem⟩
  reports _ _ _ _ _ _ := trivial

namespace Satellite

/-- What is known about the ADCS and the payload is kept. -/
def Unreported (sat sat' : Satellite) : Prop :=
  sat'.currentState.adcs = sat.currentState.adcs ∧ sat'.currentState.pl = sat.currentState.pl

variable {uvSpawn : Script → ℕ → Bool} {sat sat₁ sat' : Satellite}

theorem Unreported.trans (first : Unreported sat sat₁) (second : Unreported sat₁ sat') :
    Unreported sat sat' :=
  ⟨second.1.trans first.1, second.2.trans first.2⟩

private theorem pass_request_reports {e : Event} (request : e.isFact = false) (s : State) :
    (s.pass e).1.adcs = s.adcs ∧ (s.pass e).1.pl = s.pl := by
  rw [pass_request_state request]
  unfold State.requestState
  split
  · split <;> exact ⟨rfl, rfl⟩
  · exact ⟨rfl, rfl⟩

private theorem unreported_own {e : Event} (own : Scope.own.event e) (sat : Satellite) :
    Unreported sat (sat.heard e) := by
  have fact (is : e.isFact = true) (adcs : (e.update sat.currentState).adcs = sat.currentState.adcs)
      (pl : (e.update sat.currentState).pl = sat.currentState.pl) : Unreported sat (sat.heard e) := by
    change (sat.currentState.pass e).1.adcs = _ ∧ (sat.currentState.pass e).1.pl = _
    rw [pass_fact_state is]
    exact ⟨adcs, pl⟩
  obtain ⟨a, signal | recovery⟩ := own
  · cases a with
    | enterSafeMode reason =>
      rcases List.mem_cons.mp signal with rfl | rest
      · exact fact rfl rfl rfl
      · obtain rfl := List.mem_singleton.mp rest
        exact fact rfl rfl rfl
    | enterManualMode | leaveManualMode | leaveSafeMode | finishLEOP =>
      obtain rfl := List.mem_singleton.mp signal
      exact fact rfl rfl rfl
    | shellCommand | triggerMeasuring | triggerDetumbling | triggerSunpointing => cases signal
  · cases a with
    | enterSafeMode reason =>
      obtain rfl := List.mem_singleton.mp recovery
      exact fact rfl rfl rfl
    | leaveManualMode =>
      obtain rfl := List.mem_singleton.mp recovery
      exact pass_request_reports rfl sat.currentState
    | shellCommand | enterManualMode | leaveSafeMode | finishLEOP | triggerMeasuring
    | triggerDetumbling | triggerSunpointing => cases recovery

private theorem kept_unreported : Kept uvSpawn Scope.own Unreported where
  refl _ := ⟨rfl, rfl⟩
  trans := Unreported.trans
  heard sat _ own := unreported_own own sat
  unsafed _ := ⟨rfl, rfl⟩
  started _ _ _ _ before _ := ⟨before.1, before.2⟩
  failed _ _ _ _ _ before _ after := Unreported.trans before after

private theorem reports_event {n : ℕ} {e : Event} (external : e.external = true)
    (h : sat.callback (onEvent uvSpawn n) (.event e) = some sat') :
    sat'.currentState.adcs = (Input.event e).adcs?.getD sat.currentState.adcs ∧
      sat'.currentState.pl = (Input.event e).payload?.getD sat.currentState.pl := by
  have kept : Kept uvSpawn Scope.own Unreported := kept_unreported
  have after := kept.call_heard n (fun _ _ => trivial) h
  have state : ((sat.record (.callback sat.currentState)).heard e).currentState =
      (sat.currentState.pass e).1 := rfl
  rw [after.1, after.2, state]
  cases fact : e.isFact with
  | true =>
    rw [pass_fact_state fact]
    cases e with
    | thmSignal | epsSignal | adcsSignal | payloadSignal | maneuverModeSignal => exact ⟨rfl, rfl⟩
    | adcsReqSignal | leopSignal | manualModeSignal | safeModeSignal => cases external
    | manualModeReq | safeModeReq | leopReq | payloadReq | controlMessage => cases fact
  | false =>
    obtain ⟨adcs, pl⟩ := pass_request_reports fact sat.currentState
    rw [adcs, pl]
    cases e with
    | manualModeReq | safeModeReq | leopReq | payloadReq | controlMessage => exact ⟨rfl, rfl⟩
    | _ => cases fact

private theorem reported_reports (sat : Satellite) (a : Action) (success : Bool) :
    (sat.reported a success).currentState.adcs =
        (if success then a.adcs? else none).getD sat.currentState.adcs ∧
      (sat.reported a success).currentState.pl =
        (if success then a.payload? else none).getD sat.currentState.pl := by
  have state (e : Event) (fact : e.isFact = true) :
      (sat.heard e).currentState = e.update sat.currentState := pass_fact_state fact _
  cases success with
  | false =>
    unfold reported
    split <;> exact ⟨rfl, rfl⟩
  | true =>
    have told {e : Event} {a : Action} (report : a.report = some e) (fact : e.isFact = true) :
        (sat.reported a true).currentState = e.update sat.currentState := by
      unfold reported
      rw [report]
      exact state e fact
    cases a with
    | triggerDetumbling | triggerSunpointing | triggerMeasuring =>
      rw [told rfl rfl]
      exact ⟨rfl, rfl⟩
    | shellCommand | enterManualMode | leaveManualMode | enterSafeMode | leaveSafeMode
    | finishLEOP => exact ⟨rfl, rfl⟩

private theorem reports_exited {n : ℕ} {child : Child} {exitStatus termSignal : Int}
    (h : sat.callback (onEvent uvSpawn n) (.exited child exitStatus termSignal) = some sat') :
    sat'.currentState.adcs =
        (Input.exited child exitStatus termSignal).adcs?.getD sat.currentState.adcs ∧
      sat'.currentState.pl =
        (Input.exited child exitStatus termSignal).payload?.getD sat.currentState.pl := by
  unfold callback at h
  simp only at h
  split at h
  · rename_i survived
    have kept : Kept uvSpawn Scope.own Unreported := kept_unreported
    obtain ⟨sat₁, done, rfl⟩ := kept.exited n h
    have told := reported_reports ((((sat.record (.callback sat.currentState)).ended child).record
      (.exited child.id child.action exitStatus))) child.action (exitStatus = 0)
    have adcs : ((sat₁.freed child.id (exitStatus = 0)).currentState.adcs) = _ := done.1.trans told.1
    have pl : ((sat₁.freed child.id (exitStatus = 0)).currentState.pl) = _ := done.2.trans told.2
    have success : Succeeded exitStatus termSignal ↔ decide (exitStatus = 0) = true :=
      ⟨fun success => decide_eq_true success.1, fun zero => ⟨of_decide_eq_true zero, survived⟩⟩
    rw [adcs, pl]
    simp only [Input.adcs?, Input.payload?, success]
    exact ⟨rfl, rfl⟩
  · rename_i killed
    have silent : ¬ Succeeded exitStatus termSignal := fun success => killed success.2
    rw [← Option.some.inj h]
    simp only [Input.adcs?, Input.payload?, if_neg silent]
    exact ⟨rfl, rfl⟩

/-- What a callback reports is what is known after it. -/
theorem reports {input : Input} (h : Step uvSpawn sat input sat') :
    sat'.currentState.adcs = input.adcs?.getD sat.currentState.adcs ∧
      sat'.currentState.pl = input.payload?.getD sat.currentState.pl := by
  obtain ⟨enabled, n, call⟩ := h
  cases input with
  | event e => exact reports_event enabled call
  | exited child exitStatus termSignal => exact reports_exited call

section Newest

variable {α : Type} (value : State → α) (report : Input → Option α)

/-- A report that is newer than a script that is running: a signal, or the success of
a script that was launched after it. Scripts are listed in the order of their launches. -/
structure Newer (child : Child) (u : Transition Satellite Input) : Prop where
  running : child ∈ u.source.running
  report : (report u.label).isSome
  launched : ∀ other exitStatus termSignal, u.label = .exited other exitStatus termSignal →
    [child, other].Sublist u.source.running

/-- A script that succeeds only tells what nothing newer is known about. -/
structure NewestWins (xs : List (Transition Satellite Input)) (t : Transition Satellite Input) :
    Prop where
  overtaken : ∀ child exitStatus termSignal, t.label = .exited child exitStatus termSignal →
    (report t.label).isSome → (∃ u ∈ xs, Newer report child u) →
    value t.target.currentState = value t.source.currentState
  newest : ∀ child exitStatus termSignal, t.label = .exited child exitStatus termSignal →
    (¬ ∃ u ∈ xs, Newer report child u) →
    ∀ v, report t.label = some v → value t.target.currentState = v

/-- If a script succeeds after a newer report, the last report that came says the same. -/
def Confirmed (xs : List (Transition Satellite Input)) (t : Transition Satellite Input) : Prop :=
  ∀ child exitStatus termSignal, t.label = .exited child exitStatus termSignal →
    ∀ v, report t.label = some v → (∃ u ∈ xs, Newer report child u) →
      (xs.filterMap fun u => report u.label).getLast? = some v

variable {value report}
  (step_value : ∀ sat input sat', Step uvSpawn sat input sat' →
    value sat'.currentState = (report input).getD (value sat.currentState))
include step_value

private theorem value_run {start : Satellite} {ts : List (Transition Satellite Input)}
    (run : Run (Step uvSpawn) start ts sat) :
    value sat.currentState =
      (ts.filterMap fun u => report u.label).getLast?.getD (value start.currentState) := by
  induction run with
  | nil => rfl
  | @snoc ts s s' input prior step ih =>
    rw [step_value _ _ _ step, List.filterMap_append, ih]
    cases said : report input with
    | none => simp [said]
    | some v => simp [said]

private theorem newestWins_step
    {start : Satellite} {xs : List (Transition Satellite Input)} {input : Input}
    (prior : Run (Step uvSpawn) start xs sat) (step : Step uvSpawn sat input sat') :
    NewestWins value report xs ⟨sat, input, sat'⟩ ↔ Confirmed report xs ⟨sat, input, sat'⟩ := by
  have before := value_run step_value prior
  have after := step_value _ _ _ step
  constructor
  · intro wins child exitStatus termSignal label v said newer
    change report input = some v at said
    have same : value sat'.currentState = value sat.currentState :=
      wins.overtaken child exitStatus termSignal label (by rw [said]; rfl) newer
    rw [after, said, before] at same
    obtain ⟨u, mem, newer⟩ := newer
    obtain ⟨w, told⟩ := Option.isSome_iff_exists.mp newer.report
    cases last : (xs.filterMap fun u => report u.label).getLast? with
    | none =>
      rw [List.getLast?_eq_none_iff] at last
      have listed : w ∈ xs.filterMap fun u => report u.label :=
        List.mem_filterMap.mpr ⟨u, mem, told⟩
      rw [last] at listed
      cases listed
    | some w =>
      rw [last] at same
      exact congrArg some same.symm
  · intro confirmed
    constructor
    · intro child exitStatus termSignal label said newer
      obtain ⟨v, said⟩ := Option.isSome_iff_exists.mp said
      have last := confirmed child exitStatus termSignal label v said newer
      change report input = some v at said
      change value sat'.currentState = value sat.currentState
      rw [after, said, before, last]
      rfl
    · intro child exitStatus termSignal label _ v said
      change report input = some v at said
      change value sat'.currentState = v
      rw [after, said]
      rfl

end Newest

/-- No script's success overwrites a newer report, neither about the ADCS nor about the payload. -/
structure NeverOverwrites (xs : List (Transition Satellite Input))
    (t : Transition Satellite Input) : Prop where
  adcs : NewestWins State.adcs Input.adcs? xs t
  payload : NewestWins State.pl Input.payload? xs t

/-- Every script that succeeds after a newer report repeats the last one. -/
structure Repeats (xs : List (Transition Satellite Input)) (t : Transition Satellite Input) :
    Prop where
  adcs : Confirmed Input.adcs? xs t
  payload : Confirmed Input.payload? xs t

/-- Over a run: no newer report is overwritten exactly if every script that succeeds
after a newer report says what the last report said. -/
theorem neverOverwrites_iff (uvSpawn : Script → ℕ → Bool) (args : Arguments) (enforced : Bool)
    {ts : List (Transition Satellite Input)}
    (run : Run (Step uvSpawn) (Satellite.new args enforced) ts sat) :
    Throughout NeverOverwrites ts ↔ Throughout Repeats ts := by
  refine Run.throughout_iff (I := fun _ _ => True) trivial (fun _ _ _ _ _ _ _ _ => trivial) ?_ run
  intro xs sat input sat' prior _ step
  have adcs := newestWins_step (fun _ _ _ h => (reports h).1) prior step
  have payload := newestWins_step (fun _ _ _ h => (reports h).2) prior step
  constructor
  · intro never
    exact ⟨adcs.mp never.adcs, payload.mp never.payload⟩
  · intro repeats
    exact ⟨adcs.mpr repeats.adcs, payload.mpr repeats.payload⟩

/-- Detumbling is asked for, the daemon reports sun pointing, and the script succeeds. -/
def overtaken : List Input :=
  [.event (.thmSignal .ok), .event (.adcsSignal .sun), .exited ⟨0, .triggerDetumbling⟩ 0 0]

theorem neverOverwrites_iff_overtaken :
    ∃ ts sat, Run (Step fun _ _ => true) (Satellite.new {} false) ts sat ∧
      ts.map Transition.label = overtaken ∧
      (Throughout NeverOverwrites ts ↔ Throughout Repeats ts) := by
  obtain ⟨ts, sat, run, labels, _⟩ := exists_run (fun _ _ => true) 4 (Satellite.new {} false)
    overtaken (fun _ => true) (by decide +kernel)
  exact ⟨ts, sat, run, labels, neverOverwrites_iff _ _ _ run⟩

/-- The script was running when the signal came, and changes what the signal has told. -/
def forgetsSignal : List (Transition Satellite Input) → Bool
  | [_, u, t] => (⟨0, .triggerDetumbling⟩ : Child) ∈ u.source.running ∧
      t.target.currentState.adcs ≠ t.source.currentState.adcs
  | _ => false

/-- The success of `trigger_detumbling.sh` overwrites the signal that came while it ran. -/
theorem late_success_overwrites :
    ¬ ∀ (uvSpawn : Script → ℕ → Bool) (args : Arguments) (enforced : Bool)
      (ts : List (Transition Satellite Input)) (sat : Satellite),
      Run (Step uvSpawn) (Satellite.new args enforced) ts sat → Throughout NeverOverwrites ts := by
  intro claim
  obtain ⟨ts, sat, run, labels, test⟩ :=
    exists_trace (step_of_next (fun _ _ => true) 4) (Satellite.new {} false)
      overtaken forgetsSignal (by decide +kernel)
  obtain ⟨t₀, rest, rfl, _, labels⟩ := List.map_eq_cons_iff.mp labels
  obtain ⟨u, rest, rfl, signal, labels⟩ := List.map_eq_cons_iff.mp labels
  obtain ⟨t, rest, rfl, ended, labels⟩ := List.map_eq_cons_iff.mp labels
  obtain rfl := List.map_eq_nil_iff.mp labels
  obtain ⟨running, changed⟩ := of_decide_eq_true test
  have newer : Newer Input.adcs? ⟨0, .triggerDetumbling⟩ u := by
    refine ⟨running, by rw [signal]; rfl, ?_⟩
    intro other exitStatus termSignal label
    rw [signal] at label
    cases label
  have wins := (claim _ _ _ _ sat run [t₀, u] t [] rfl).adcs
  exact changed (wins.overtaken _ 0 0 ended (by rw [ended]; rfl) ⟨u, by simp, newer⟩)

end Satellite

end Horst
