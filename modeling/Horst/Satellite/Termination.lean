import Horst.Satellite.Strays

/-!
When the nested calls of a callback come to an end: exactly if enough of the coming
attempts at `enter_safemode.sh` succeed, where the number depends on the input
and on the state it meets.
-/

set_option autoImplicit false
set_option relaxedAutoImplicit false

namespace Horst

open Foundation Foundation.Nested Foundation.Outcomes

namespace Satellite

/-- The computation returns exactly if `need` of the attempts at `enter_safemode.sh`
from the present one on succeed. -/
abbrev Waits (uvSpawn : Script → ℕ → Bool) (c : Handler Event Satellite → Option Satellite)
    (need : ℕ) (sat : Satellite) : Prop :=
  Takes (onEventBody uvSpawn) (enterOutcomes uvSpawn) c need sat.enterAttempts

/-- One attempt has to succeed for a pass over an emergency. -/
def passNeed (s : State) : ℕ := if s.Urgent then 1 else 0

/-- In an emergency, safemode is entered for the request and, out of neither
safemode nor manualmode, for the emergency once more. -/
def entryNeed (s : State) : ℕ :=
  if (s.enter 0).Urgent then if s.Normal then 2 else 1 else 0

/-- Leaving manualmode: the emergency, if the operator held it back, and safemode
once more if `leave_manualmode.sh` cannot be started. -/
def leaveNeed (s : State) (started : Bool) : ℕ :=
  passNeed { s with manualmode := false } + if started = false ∧ s.emergency ≠ 0 then 2 else 0

variable {uvSpawn : Script → ℕ → Bool} {s : State} {sat sat' : Satellite}

private theorem waits_fact {f : Event} (fact : f.isFact = true) (idle : sat.currentState.Idle) :
    Waits uvSpawn (fun g => g f sat) (passNeed (f.update sat.currentState)) sat := by
  unfold passNeed
  constructor
  · intro supply
    apply ends_fact fact idle
    intro urgent
    rwa [if_pos urgent] at supply
  · intro starved n
    by_cases urgent : (f.update sat.currentState).Urgent
    · rw [if_pos urgent] at starved
      exact fact_cut_off fact n idle urgent starved
    · rw [if_neg urgent] at starved
      exact absurd trivial starved

private theorem waits_enterSafeMode {reason : UInt8} (nonzero : reason ≠ 0) (id : ℕ)
    (idle : sat.currentState.Idle) :
    Waits uvSpawn (fun g => EnterSafeMode.perform uvSpawn g id reason sat)
      (passNeed (sat.currentState.enter 0)) sat := by
  unfold passNeed
  constructor
  · intro supply
    apply ends_enterSafeMode nonzero id idle
    intro fail sat₁ state₁ attempts₁
    refine ends_fact rfl (by rw [state₁]; exact idle.enter reason) ?_
    intro urgent
    have again : (sat.currentState.enter 0).Urgent := by
      rw [state₁] at urgent
      exact urgent
    rw [if_pos again] at supply
    rw [attempts₁]
    exact (supplies_of_fail fail 0).mp supply
  · intro starved n
    by_cases urgent : (sat.currentState.enter 0).Urgent
    · rw [if_pos urgent] at starved
      exact enterSafeMode_cut_off n
        (fun _ idle urgent starved => fact_cut_off rfl n idle urgent starved)
        nonzero id idle urgent starved
    · rw [if_neg urgent] at starved
      exact absurd trivial starved

private theorem enterSafeMode_attempts {onEvent : Handler Event Satellite}
    (serves : ServesFacts uvSpawn onEvent) {reason : UInt8} (nonzero : reason ≠ 0) {id : ℕ}
    (idle : sat.currentState.Idle) (urgent : (sat.currentState.enter 0).Urgent)
    (h : EnterSafeMode.perform uvSpawn onEvent id reason sat = some sat') :
    ∃ m, FirstSuccess (enterOutcomes uvSpawn) sat.enterAttempts m ∧
      sat'.enterAttempts = m + 1 := by
  rcases EnterSafeMode.perform_spec uvSpawn serves nonzero id idle h with
    ⟨success, _, launches⟩ | ⟨fail, sat₁, launches, again⟩
  · refine ⟨_, firstSuccess_self success, ?_⟩
    simp [enterAttempts_append launches, Action.script]
  · have attempts₁ : sat₁.enterAttempts = sat.enterAttempts + 1 := by
      simp [enterAttempts_append launches, Action.script]
    have first := again.attempts
    rw [if_pos urgent, attempts₁] at first
    obtain ⟨m, first, attempts⟩ := first
    exact ⟨m, first.of_fail fail, attempts⟩

theorem ends_lenient {a : Action} (lenient : a.isLenient = true) (id : ℕ) (sat : Satellite) :
    Ends uvSpawn fun g => ShellCommand.perform uvSpawn g id a sat := by
  obtain ⟨sat', run, _⟩ := ShellCommand.perform_lenient uvSpawn id lenient sat
  exact ⟨sat', (computes_pure sat').congr run⟩

private theorem ends_triggers (s target : State) (sat : Satellite) :
    Ends uvSpawn fun g => performActions uvSpawn g (s.dueTriggers target) sat := by
  obtain ⟨sat', run, _⟩ := performActions_triggers uvSpawn s target sat
  exact ⟨sat', (computes_pure sat').congr run⟩

private theorem ends_rules (covered : s.Covered) (target : State) (sat : Satellite) :
    Ends uvSpawn fun g => performActions uvSpawn g (s.autonomousRules target) sat := by
  by_cases normal : s.Normal
  · rw [State.autonomousRules_of_calm target normal (covered.emergency_of_normal normal)]
    exact ends_triggers s target sat
  · rw [State.autonomousRules_of_not_normal target normal]
    exact ⟨sat, computes_pure sat⟩

private theorem waits_cons {a : Action} {as : List Action} {need : ℕ}
    (head : Waits uvSpawn (fun g => a.perform uvSpawn g sat.nextId (sat.prepared a)) need
      (sat.prepared a))
    (tail : ∀ sat₁, Ends uvSpawn fun g => performActions uvSpawn g as sat₁) :
    Waits uvSpawn (fun g => performActions uvSpawn g (a :: as) sat) need sat := by
  have attempts : (sat.prepared a).enterAttempts = sat.enterAttempts :=
    attempts_congr (launches_prepared sat a) _
  unfold Waits at head
  rw [attempts] at head
  exact (head.bind_zero fun _ sat₁ _ => tail sat₁).congr fun g => performActions_cons uvSpawn g a as sat

private theorem waits_urgent (idle : sat.currentState.Idle) (urgent : s.Urgent)
    (same : sat.currentState.enter 0 = s.enter 0) :
    Waits uvSpawn (fun g => performActions uvSpawn g (s.autonomousRules s) sat) 1 sat := by
  rw [State.autonomousRules_of_urgent s urgent]
  have again : (sat.currentState.enter 0).Urgent := by
    rw [same]
    exact urgent_enter_zero urgent
  have one : passNeed (sat.currentState.enter 0) = 1 := if_pos again
  have enter : Waits uvSpawn (fun g => EnterSafeMode.perform uvSpawn g sat.nextId s.emergency
      (sat.prepared (.enterSafeMode s.emergency))) 1 (sat.prepared (.enterSafeMode s.emergency)) :=
    one ▸ waits_enterSafeMode urgent.2 sat.nextId (by exact idle)
  exact waits_cons enter fun sat₁ => ends_triggers s s sat₁

private theorem waits_entry (idle : s.Idle) (state : sat.currentState = s) :
    Waits uvSpawn
      (fun g => performActions uvSpawn g (.enterSafeMode 3 :: s.autonomousRules s) sat)
      (entryNeed s) sat := by
  have attempts : (sat.prepared (.enterSafeMode 3)).enterAttempts = sat.enterAttempts :=
    attempts_congr (launches_prepared sat _) _
  have idle₀ : (sat.prepared (.enterSafeMode 3)).currentState.Idle := state ▸ idle
  have enter : Waits uvSpawn (fun g => EnterSafeMode.perform uvSpawn g sat.nextId 3
      (sat.prepared (.enterSafeMode 3))) (passNeed (s.enter 0)) (sat.prepared (.enterSafeMode 3)) :=
    state ▸ waits_enterSafeMode (by decide) sat.nextId idle₀
  by_cases urgent : s.Urgent
  · have still := urgent_enter_zero urgent
    have two : entryNeed s = passNeed (s.enter 0) + 1 := by
      simp only [entryNeed, passNeed, still, urgent.1, if_true]
    have one : passNeed (s.enter 0) = 1 := if_pos still
    unfold Waits at enter ⊢
    rw [attempts] at enter
    rw [two]
    refine (enter.bind fun n sat₁ head => ?_).congr fun g => performActions_cons uvSpawn g _ _ sat
    have serves : ServesFacts uvSpawn (onEvent uvSpawn n) := servesFacts_onEvent n
    have again : ((sat.prepared (.enterSafeMode 3)).currentState.enter 0).Urgent := by
      rw [currentState_prepared, state]
      exact still
    obtain ⟨m, first, attempts₁⟩ :=
      enterSafeMode_attempts serves (by decide) idle₀ again head
    rw [attempts] at first
    have same : sat₁.currentState.Idle ∧ sat₁.currentState.enter 0 = s.enter 0 := by
      rcases left_enterSafeMode serves (by decide) idle₀ head with ⟨_, _, left⟩ | ⟨_, left⟩
      · rw [left.state, currentState_prepared, state]
        exact ⟨idle.enter 3, rfl⟩
      · rw [left.state, currentState_prepared, state, State.settle_of_urgent still]
        exact ⟨(idle.enter 0).enter _, rfl⟩
    refine ⟨sat₁.enterAttempts, waits_urgent same.1 urgent same.2, ?_, ?_⟩
    · intro supply
      rw [attempts₁]
      rw [one] at supply
      exact (first.supplies_iff 1).mp supply
    · intro _ supply
      rw [attempts₁] at supply
      rw [one]
      exact (first.supplies_iff 1).mpr supply
  · have need : entryNeed s = passNeed (s.enter 0) := by
      unfold entryNeed passNeed
      by_cases again : (s.enter 0).Urgent
      · have modes : ¬ s.Normal := fun normal => urgent ⟨normal, again.2⟩
        rw [if_pos again, if_pos again, if_neg modes]
      · rw [if_neg again, if_neg again]
    rw [need]
    exact waits_cons enter fun sat₁ => ends_rules ((State.covered_iff s).mpr urgent) s sat₁

private theorem waits_safeModeReq (idle : sat.currentState.Idle) :
    Waits uvSpawn (fun g => g (.safeModeReq true) sat) (entryNeed sat.currentState) sat := by
  have attempts : (sat.asked (.safeModeReq true)).enterAttempts = sat.enterAttempts :=
    attempts_congr (launches_asked sat _) _
  have entry : Waits uvSpawn _ (entryNeed sat.currentState) (sat.asked (.safeModeReq true)) :=
    waits_entry idle rfl
  unfold Waits at entry ⊢
  rw [attempts] at entry
  exact takes_call (entry.congr fun g => onEventBody_request uvSpawn g rfl idle)

private theorem waits_leaveManualMode_done (idle : sat.currentState.Idle) :
    Waits uvSpawn (fun g => LeaveManualMode.done g sat)
      (if sat.currentState.safemode ≠ 0 then
        entryNeed { sat.currentState with safemode := 0 } else 0) sat := by
  by_cases safe : sat.currentState.safemode ≠ 0
  · rw [if_pos safe]
    have entry : Waits uvSpawn _ _ (sat.setState { sat.currentState with safemode := 0 }) :=
      waits_safeModeReq (by exact ⟨idle.enforced, idle.commands⟩)
    exact Takes.congr entry fun g => if_pos safe
  · rw [if_neg safe]
    exact takes_zero ⟨sat, (computes_pure sat).congr fun g => if_neg safe⟩

private theorem waits_leaveManualMode_script (id : ℕ) {s₁ : State} (off : s₁.manualmode = false)
    (idle : s₁.Idle) (state : sat.currentState = s₁.settle) :
    Waits uvSpawn (fun g => ShellCommand.perform uvSpawn g id .leaveManualMode sat)
      (if sat.leaveStarts uvSpawn = false ∧ s₁.emergency ≠ 0 then 2 else 0) sat := by
  cases started : sat.leaveStarts uvSpawn with
  | true =>
    have none : ¬ (true = false ∧ s₁.emergency ≠ 0) := fun h => by cases h.1
    rw [if_neg none]
    refine takes_zero ⟨_, (computes_pure ((sat.created id .leaveManualMode true).started id
      .leaveManualMode)).congr fun g => ?_⟩
    unfold leaveStarts at started
    simp only [ShellCommand.perform, Action.script, started, if_true]
  | false =>
    set failed := (sat.created id .leaveManualMode false).record
      (.exited id .leaveManualMode (-1)) with hfailed
    have launches : failed.launches =
        sat.launches ++ [⟨.leaveManualMode, sat.currentState, false⟩] := by
      simp [hfailed, LogEntry.launch?]
    have kept : failed.enterAttempts = sat.enterAttempts := by
      simp [enterAttempts_append launches, Action.script]
    have done : Waits uvSpawn (fun g => LeaveManualMode.done g failed) _ failed :=
      waits_leaveManualMode_done (by
        change sat.currentState.Idle
        rw [state]
        exact idle.settle)
    have need : (if failed.currentState.safemode ≠ 0 then
        entryNeed { failed.currentState with safemode := 0 } else 0) =
        if false = false ∧ s₁.emergency ≠ 0 then 2 else 0 := by
      change (if sat.currentState.safemode ≠ 0 then
        entryNeed { sat.currentState with safemode := 0 } else 0) = _
      rw [state]
      by_cases calm : s₁.emergency = 0
      · have settled : s₁.settle = s₁ := State.settle_of_not_urgent fun urgent => urgent.2 calm
        have quiet : ¬ (State.enter { s₁ with safemode := 0 } 0).Urgent :=
          fun urgent => urgent.2 calm
        simp only [settled, calm, entryNeed, quiet, if_false, ite_self, ne_eq, not_true_eq_false,
          and_false]
      · have safe : s₁.settle.safemode ≠ 0 := by
          rcases State.covered_settle s₁ with safe | manual | good
          · exact safe
          · rw [State.manualmode_settle, off] at manual
            cases manual
          · rw [← State.emergency_eq_zero_iff, State.emergency_settle] at good
            exact absurd good calm
        have normal : State.Normal { s₁.settle with safemode := 0 } :=
          ⟨rfl, (State.manualmode_settle s₁).trans off⟩
        have reason : s₁.settle.emergency ≠ 0 := by
          rwa [State.emergency_settle]
        have again : (State.enter { s₁.settle with safemode := 0 } 0).Urgent :=
          ⟨⟨rfl, normal.2⟩, reason⟩
        rw [if_pos safe, entryNeed, if_pos again, if_pos normal, if_pos ⟨rfl, calm⟩]
    rw [need, Waits, kept] at done
    have close := done.bind_zero (d := fun _ sat => some ((sat.record
      (.finished id false)).removeAction id)) fun _ sat₁ _ => ⟨_, computes_pure _⟩
    refine Takes.congr close fun g => ?_
    unfold leaveStarts at started
    simp only [ShellCommand.perform, Action.script, started, Bool.false_eq_true, if_false,
      ShellCommand.exited]
    rfl

private theorem waits_leaveManualMode (id : ℕ) (idle : sat.currentState.Idle) :
    Waits uvSpawn (fun g => LeaveManualMode.perform uvSpawn g id sat)
      (leaveNeed sat.currentState (sat.leaveStarts uvSpawn)) sat := by
  set s := sat.currentState with hs
  set s₁ := Event.update (.manualModeSignal false) s with hs₁
  have idle₁ : s₁.Idle := idle.update rfl
  have signal : Waits uvSpawn (fun g => g (.manualModeSignal false) sat) (passNeed s₁) sat :=
    waits_fact rfl idle
  refine signal.bind fun n sat₁ call => ?_
  have passed := servesFacts_onEvent n _ _ _ rfl idle call
  have script : Waits uvSpawn _ _ sat₁ :=
    waits_leaveManualMode_script id rfl idle₁ passed.state
  have starts : sat₁.leaveStarts uvSpawn = sat.leaveStarts uvSpawn := by
    rw [leaveStarts, leaveStarts, passed.attempts_leaveManualmode]
  rw [starts] at script
  have attempts₁ := passed.attempts
  refine ⟨sat₁.enterAttempts, script, ?_⟩
  by_cases urgent : s₁.Urgent
  · rw [if_pos urgent] at attempts₁
    obtain ⟨m, first, attempts₁⟩ := attempts₁
    have one : passNeed s₁ = 1 := if_pos urgent
    rw [one, attempts₁, Nat.add_comm]
    exact ⟨(first.supplies_iff _).mp, fun _ => (first.supplies_iff _).mpr⟩
  · rw [if_neg urgent] at attempts₁
    have none : passNeed s₁ = 0 := if_neg urgent
    rw [none, attempts₁, Nat.zero_add]
    exact ⟨fun supply => supply, fun _ supply => supply⟩

private theorem waits_signal {f : Event} (fact : f.isFact = true) {a : Action}
    (lenient : a.isLenient = true) (id : ℕ) (idle : sat.currentState.Idle) :
    Waits uvSpawn (fun g => (g f sat).bind (ShellCommand.perform uvSpawn g id a))
      (passNeed (f.update sat.currentState)) sat :=
  (waits_fact fact idle).bind_zero fun _ sat₁ _ => ends_lenient lenient id sat₁

variable (uvSpawn) in
def eventNeed (sat : Satellite) : Event → ℕ
  | .manualModeReq true => 0
  | .manualModeReq false =>
      if sat.currentState.manualmode = true then
        leaveNeed sat.currentState (sat.leaveStarts uvSpawn)
      else 0
  | .safeModeReq true => entryNeed sat.currentState
  | .safeModeReq false =>
      if sat.currentState.safemode ≠ 0 then passNeed { sat.currentState with safemode := 0 } else 0
  | .leopReq _ | .payloadReq _ | .controlMessage _ => 0
  | f => passNeed (f.update sat.currentState)

def doneNeed (sat : Satellite) (a : Action) (success : Bool) : ℕ :=
  match a with
  | .enterSafeMode _ =>
      if success = false then passNeed { sat.currentState with safemode := 0 } else 0
  | .leaveManualMode =>
      if sat.currentState.safemode ≠ 0 then entryNeed { sat.currentState with safemode := 0 } else 0
  | .shellCommand _ _ | .enterManualMode | .leaveSafeMode | .finishLEOP | .triggerMeasuring
  | .triggerDetumbling | .triggerSunpointing => 0

variable (uvSpawn) in
def need (sat : Satellite) : Input → ℕ
  | .event event => sat.eventNeed uvSpawn event
  | .exited child exitStatus termSignal =>
      if termSignal ≠ SIGTERM then sat.doneNeed child.action (exitStatus = 0) else 0

private theorem waits_asked {e : Event} (request : e.isFact = false) {a : Action} {n : ℕ}
    (steady : sat.currentState.Steady) (list : sat.currentState.requestActions e = [a])
    (head : Waits uvSpawn (fun g => a.perform uvSpawn g (sat.asked e).nextId
      ((sat.asked e).prepared a)) n ((sat.asked e).prepared a)) :
    Waits uvSpawn (fun g => g e sat) n sat := by
  have attempts : (sat.asked e).enterAttempts = sat.enterAttempts :=
    attempts_congr (launches_asked sat e) _
  have covered : (sat.currentState.requestState e).Covered := steady.covered.requestState e
  have whole := waits_cons head fun sat₁ =>
    ends_rules covered (e.update sat.currentState) sat₁
  unfold Waits at whole ⊢
  rw [attempts] at whole
  refine takes_call (whole.congr fun g => ?_)
  rw [onEventBody_request uvSpawn g request steady.idle, list, List.singleton_append]
  rfl

private theorem waits_met
    {e : Event} (request : e.isFact = false) (steady : sat.currentState.Steady)
    (met : sat.currentState.requestActions e = []) :
    Waits uvSpawn (fun g => g e sat) 0 sat := by
  have covered : (sat.currentState.requestState e).Covered := steady.covered.requestState e
  have rules : Waits uvSpawn _ 0 (sat.asked e) :=
    takes_zero (ends_rules covered (e.update sat.currentState) (sat.asked e))
  have attempts : (sat.asked e).enterAttempts = sat.enterAttempts :=
    attempts_congr (launches_asked sat e) _
  unfold Waits at rules ⊢
  rw [attempts] at rules
  refine takes_call (rules.congr fun g => ?_)
  rw [onEventBody_request uvSpawn g request steady.idle, met, List.nil_append]
  rfl

private theorem waits_asked_signal {e f : Event} {a : Action} (steady : sat.currentState.Steady)
    (request : e.isFact = false) (fact : f.isFact = true) (lenient : a.isLenient = true)
    (list : sat.currentState.requestActions e = [a])
    (perform : ∀ g id sat₁, a.perform uvSpawn g id sat₁ =
      (g f sat₁).bind (ShellCommand.perform uvSpawn g id a)) :
    Waits uvSpawn (fun g => g e sat) (passNeed (f.update (sat.currentState.requestState e)))
      sat := by
  have idle : ((sat.asked e).prepared a).currentState.Idle := steady.idle.requestState e
  have signal : Waits uvSpawn _ _ _ := waits_signal fact lenient (sat.asked e).nextId idle
  exact waits_asked request steady list (Takes.congr signal fun g => perform g _ _)

private theorem waits_manualModeReq {wanted : Bool} (steady : sat.currentState.Steady) :
    Waits uvSpawn (fun g => g (.manualModeReq wanted) sat)
      (sat.eventNeed uvSpawn (.manualModeReq wanted)) sat := by
  have idle := steady.idle
  have attempts (a : Action) :=
    attempts_congr (launches_prepared_asked sat (.manualModeReq wanted) a)
  cases wanted with
  | true =>
    cases manual : sat.currentState.manualmode with
    | true => exact waits_met rfl steady (by simp [State.requestActions, manual])
    | false =>
      have list : sat.currentState.requestActions (.manualModeReq true) = [.enterManualMode] := by
        simp [State.requestActions, manual]
      have signal : Waits uvSpawn _ _ sat :=
        waits_asked_signal (f := .manualModeSignal true) steady rfl rfl rfl list fun _ _ _ => rfl
      have none : passNeed (Event.update (.manualModeSignal true)
          (sat.currentState.requestState (.manualModeReq true))) = 0 :=
        if_neg fun urgent => by cases urgent.1.2
      rw [none] at signal
      exact signal
  | false =>
    cases manual : sat.currentState.manualmode with
    | false =>
      have zero : sat.eventNeed uvSpawn (.manualModeReq false) = 0 := by simp [eventNeed, manual]
      rw [zero]
      exact waits_met rfl steady (by simp [State.requestActions, manual])
    | true =>
      have list : sat.currentState.requestActions (.manualModeReq false) = [.leaveManualMode] := by
        simp [State.requestActions, manual]
      have need : sat.eventNeed uvSpawn (.manualModeReq false) =
          leaveNeed sat.currentState (sat.leaveStarts uvSpawn) := by simp [eventNeed, manual]
      have leave : Waits uvSpawn _ _ ((sat.asked (.manualModeReq false)).prepared
        .leaveManualMode) :=
        waits_leaveManualMode (sat.asked (.manualModeReq false)).nextId (by exact idle)
      rw [leaveStarts, attempts] at leave
      rw [need]
      exact waits_asked rfl steady list leave

private theorem waits_safeModeReq_false (steady : sat.currentState.Steady) :
    Waits uvSpawn (fun g => g (.safeModeReq false) sat)
      (sat.eventNeed uvSpawn (.safeModeReq false)) sat := by
  by_cases off : sat.currentState.safemode = 0
  · have zero : sat.eventNeed uvSpawn (.safeModeReq false) = 0 := by simp [eventNeed, off]
    rw [zero]
    exact waits_met rfl steady (by simp [State.requestActions, off])
  · have list : sat.currentState.requestActions (.safeModeReq false) = [.leaveSafeMode] := by
      simp [State.requestActions, off]
    have need : sat.eventNeed uvSpawn (.safeModeReq false) =
        passNeed { sat.currentState with safemode := 0 } := if_pos off
    rw [need]
    exact waits_asked_signal steady rfl rfl rfl list fun _ _ _ => rfl

private theorem waits_leopReq {wanted : LeopSeq} (steady : sat.currentState.Steady) :
    Waits uvSpawn (fun g => g (.leopReq wanted) sat) 0 sat := by
  by_cases finish : wanted ≠ sat.currentState.leop ∧ wanted = .done
  · have list : sat.currentState.requestActions (.leopReq wanted) = [.finishLEOP] := if_pos finish
    have signal : Waits uvSpawn _ _ sat :=
      waits_asked_signal (f := .leopSignal .done) steady rfl rfl rfl list fun _ _ _ => rfl
    have covered := steady.covered.requestState (.leopReq wanted)
    have none : passNeed (Event.update (.leopSignal .done)
        (sat.currentState.requestState (.leopReq wanted))) = 0 :=
      if_neg fun urgent => (State.covered_iff _).mp covered urgent
    rw [none] at signal
    exact signal
  · exact waits_met rfl steady (if_neg finish)

private theorem waits_controlMessage {message : ControlMessage} (steady : sat.currentState.Steady) :
    Waits uvSpawn (fun g => g (.controlMessage message) sat) 0 sat :=
  waits_asked rfl steady rfl (takes_zero (ends_lenient rfl _ _))

/-- Every event, in a state between two callbacks. -/
theorem waits_event (e : Event) (steady : sat.currentState.Steady) :
    Waits uvSpawn (fun g => g e sat) (sat.eventNeed uvSpawn e) sat := by
  cases e with
  | manualModeReq wanted => exact waits_manualModeReq steady
  | safeModeReq wanted =>
    cases wanted with
    | true => exact waits_safeModeReq steady.idle
    | false => exact waits_safeModeReq_false steady
  | leopReq wanted => exact waits_leopReq steady
  | payloadReq wanted => exact waits_met rfl steady rfl
  | controlMessage message => exact waits_controlMessage steady
  | _ => exact waits_fact rfl steady.idle

private theorem waits_done (a : Action) (success : Bool) (steady : sat.currentState.Steady) :
    Waits uvSpawn (fun g => a.done g success sat) (sat.doneNeed a success) sat := by
  have quiet : Waits uvSpawn (fun _ => some sat) 0 sat := takes_zero ⟨sat, computes_pure sat⟩
  have report (f : Event) (fact : f.isFact = true) (calm : ¬ (f.update sat.currentState).Urgent) :
      Waits uvSpawn (fun g => g f sat) 0 sat := by
    have waits : Waits uvSpawn (fun g => g f sat) _ sat := waits_fact fact steady.idle
    rwa [passNeed, if_neg calm] at waits
  have covered := (State.covered_iff _).mp steady.covered
  cases a with
  | enterSafeMode reason =>
    cases success with
    | true => exact quiet
    | false => exact waits_fact rfl steady.idle
  | leaveManualMode => exact waits_leaveManualMode_done steady.idle
  | triggerDetumbling =>
    cases success with
    | true => exact report (.adcsReqSignal .detumb) rfl covered
    | false => exact quiet
  | triggerSunpointing =>
    cases success with
    | true => exact report (.adcsReqSignal .sun) rfl covered
    | false => exact quiet
  | triggerMeasuring =>
    cases success with
    | true => exact report (.payloadSignal .measuring) rfl covered
    | false => exact quiet
  | shellCommand | enterManualMode | leaveSafeMode | finishLEOP => exact quiet

theorem waits_callback (input : Input) (steady : sat.currentState.Steady) :
    Waits uvSpawn (fun g => sat.callback g input) (sat.need uvSpawn input) sat := by
  set woken := sat.record (.callback sat.currentState) with hwoken
  have launches : woken.launches = sat.launches := by simp [hwoken, LogEntry.launch?]
  have attempts := attempts_congr launches
  cases input with
  | event e =>
    have event : Waits uvSpawn (fun g => g e woken) (woken.eventNeed uvSpawn e) woken :=
      waits_event e steady
    have need : woken.eventNeed uvSpawn e = sat.eventNeed uvSpawn e := by
      have state : woken.currentState = sat.currentState := rfl
      unfold eventNeed
      simp only [state, leaveStarts, attempts]
    rw [need, Waits, enterAttempts, attempts] at event
    exact event
  | exited child exitStatus termSignal =>
    by_cases reported : termSignal ≠ SIGTERM
    · set freed := (woken.ended child).record (.exited child.id child.action exitStatus) with hfreed
      have launches₁ : freed.launches = sat.launches := by
        simp [hfreed, launches, LogEntry.launch?]
      have done : Waits uvSpawn _ (freed.doneNeed child.action (exitStatus = 0)) freed :=
        waits_done child.action (exitStatus = 0) steady
      rw [Waits, enterAttempts, attempts_congr launches₁] at done
      have need : sat.need uvSpawn (.exited child exitStatus termSignal) =
          freed.doneNeed child.action (exitStatus = 0) := if_pos reported
      rw [need]
      exact Takes.congr (done.bind_zero fun _ sat₁ _ => ⟨_, computes_pure _⟩)
        fun g => if_pos reported
    · have none : sat.need uvSpawn (.exited child exitStatus termSignal) = 0 := if_neg reported
      rw [none]
      exact takes_zero ⟨_, (computes_pure (woken.ended child)).congr fun g => if_neg reported⟩

/-- The nested calls of a callback come to an end exactly if as many of the coming attempts at
`enter_safemode.sh` succeed as the input needs in the state it meets. Where they end, it still
depends on the life of the actions whether the callback returns. -/
theorem nesting_ends_iff (uvSpawn : Script → ℕ → Bool) (args : Arguments)
    (reachable : Reachable (Step uvSpawn) (Satellite.new args false) sat) (input : Input) :
    (∃ sat', sat.Calls uvSpawn input sat') ↔
      Supplies (enterOutcomes uvSpawn) (sat.need uvSpawn input) sat.enterAttempts := by
  have steady : sat.currentState.Steady :=
    reachable.invariant (I := fun sat => sat.currentState.Steady) (new_steady args) step_steady
  rw [← (waits_callback input steady).returns_iff]
  exact exists_comm

end Satellite

end Horst
