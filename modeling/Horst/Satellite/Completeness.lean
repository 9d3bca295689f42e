import Horst.Satellite.Counts

/-!
The ADCS rules are complete: a rule that matches the state an event ends in has had its
script launched while the event was served.
-/

set_option autoImplicit false
set_option relaxedAutoImplicit false

namespace Horst

open Foundation Foundation.Nested Foundation.Outcomes

/-- The documented condition of the detumbling rule. -/
def State.DetumblingDue (s : State) : Prop :=
  s.safemode = 0 ∧ s.manualmode = false ∧ s.maneuvermode = false ∧ s.leop ≠ .undeployed ∧
    s.adcs.pointing ≠ .sun ∧ s.adcs.pointing ≠ .detumb ∧
    s.adcs.requested ≠ .sun ∧ s.adcs.requested ≠ .detumb

def State.SunpointingDue (s : State) : Prop :=
  s.safemode = 0 ∧ s.manualmode = false ∧ s.maneuvermode = false ∧ s.leop ≠ .undeployed ∧
    s.adcs.pointing = .detumb

instance (s : State) : Decidable s.SunpointingDue := inferInstanceAs (Decidable (_ ∧ _))

private theorem State.DetumblingDue.mem_adcsRules {s : State} (due : s.DetumblingDue) :
    .triggerDetumbling ∈ s.adcsRules := by
  obtain ⟨_, _, off, deployed, sun, detumb, sun', detumb'⟩ := due
  rw [State.adcsRules, if_pos off, State.detumblingRule,
    if_pos ⟨sun, detumb, sun', detumb', deployed⟩]
  exact List.mem_cons_self

private theorem State.SunpointingDue.mem_adcsRules {s : State} (due : s.SunpointingDue) :
    .triggerSunpointing ∈ s.adcsRules := by
  obtain ⟨_, _, off, deployed, detumb⟩ := due
  rw [State.adcsRules, if_pos off, State.sunpointingRule, if_pos ⟨detumb, deployed⟩]
  exact List.mem_append_right _ List.mem_cons_self

namespace Satellite

variable {uvSpawn : Script → ℕ → Bool} {a : Action} {s : State} {sat sat' : Satellite} {e : Event}

private theorem calmCount_pos (normal : s.Normal) (due : a ∈ s.adcsRules) (target : State) :
    0 < calmCount a s target := by
  rw [calmCount, if_pos normal]
  exact List.count_pos_iff.mpr (List.mem_append_right _ due)

private theorem passCount_pos (normal : s.settle.Normal) (due : a ∈ s.settle.adcsRules) (k : ℕ) :
    0 < passCount uvSpawn a s k := by
  by_cases urgent : s.Urgent
  · rw [State.settle_of_urgent urgent] at normal
    exact absurd normal (State.not_normal_enter urgent.2)
  · rw [State.settle_of_not_urgent urgent] at normal due
    have calm : passCount uvSpawn a s k = calmCount a s s := by
      rw [passCount, if_neg urgent, calmCount]
    rw [calm]
    exact calmCount_pos normal due s

private theorem not_normal_entryState (spawns : ∀ script j, uvSpawn script j = true) (k : ℕ) :
    ¬ (entryState uvSpawn s k).Normal := by
  unfold entryState
  by_cases urgent : s.Urgent
  · rw [if_neg (fun calm => calm.2 urgent), settle_enter_zero urgent,
      State.settle_of_urgent urgent]
    exact State.not_normal_enter urgent.2
  · rw [if_pos ⟨spawns _ k, urgent⟩]
    exact State.not_normal_enter (by decide)

private theorem eventCount_pos (spawns : ∀ script j, uvSpawn script j = true)
    (steady : sat.currentState.Steady) (normal : (sat.answer uvSpawn e).Normal)
    (due : a ∈ (sat.answer uvSpawn e).adcsRules) : 0 < eventCount uvSpawn a sat e := by
  have covered := steady.covered
  have rules (same : sat.answer uvSpawn e = sat.currentState.requestState e)
      (request : e.isFact = false) : 0 < eventCount uvSpawn a sat e := by
    rw [same] at normal due
    have calm := calmCount_pos normal due (e.update sat.currentState)
    simp only [eventCount, request, Bool.false_eq_true, if_false]
    omega
  have action (count : 0 < requestCount uvSpawn a sat e) (request : e.isFact = false) :
      0 < eventCount uvSpawn a sat e := by
    simp only [eventCount, request, Bool.false_eq_true, if_false]
    omega
  cases e with
  | manualModeReq wanted =>
    cases wanted with
    | true => cases normal.2
    | false =>
      cases manual : sat.currentState.manualmode with
      | false =>
        refine rules ?_ rfl
        simp only [answer, manual, Bool.false_eq_true, if_false]
        rfl
      | true =>
        have settled : sat.answer uvSpawn (.manualModeReq false) =
            State.settle { sat.currentState with manualmode := false } := by
          simp [answer, manual, leaveState, leaveStarts, spawns]
        rw [settled] at normal due
        refine action ?_ rfl
        rw [requestCount, if_pos ⟨rfl, manual⟩, leaveCount]
        exact Nat.add_pos_left (passCount_pos normal due _) _
  | safeModeReq wanted =>
    cases wanted with
    | true => exact absurd normal (not_normal_entryState spawns _)
    | false =>
      by_cases off : sat.currentState.safemode = 0
      · refine rules ?_ rfl
        simp only [answer, off, ne_eq, not_true_eq_false, if_false]
        rfl
      · have settled : sat.answer uvSpawn (.safeModeReq false) =
            State.settle { sat.currentState with safemode := 0 } := if_pos off
        rw [settled] at normal due
        refine action ?_ rfl
        rw [requestCount, if_neg Bool.false_ne_true, if_pos off]
        exact passCount_pos normal due _
  | leopReq wanted =>
    by_cases finish : wanted ≠ sat.currentState.leop ∧ wanted = .done
    · obtain ⟨other, rfl⟩ := finish
      have kept : State.settle { sat.currentState with leop := .done } =
          { sat.currentState with leop := .done } := State.Covered.settle covered
      change State.Normal { sat.currentState with leop := .done } at normal
      change a ∈ State.adcsRules { sat.currentState with leop := .done } at due
      rw [← kept] at normal due
      refine action ?_ rfl
      rw [requestCount, if_pos ⟨other, rfl⟩]
      exact passCount_pos normal due _
    · refine rules ?_ rfl
      change { sat.currentState with leop := wanted } =
        if wanted = .done then sat.currentState else { sat.currentState with leop := wanted }
      split
      · have same : wanted = sat.currentState.leop := by tauto
        rw [same]
      · rfl
  | payloadReq | controlMessage => exact rules rfl rfl
  | thmSignal | epsSignal | adcsSignal | adcsReqSignal | payloadSignal | leopSignal
  | maneuverModeSignal | manualModeSignal | safeModeSignal =>
    exact passCount_pos normal due _

private theorem launched_of_due (spawns : ∀ script j, uvSpawn script j = true)
    (trigger : a.isTrigger = true) (steady : sat.currentState.Steady)
    (step : Step uvSpawn sat (.event e) sat') (normal : sat'.currentState.Normal)
    (due : a ∈ sat'.currentState.adcsRules) :
    ∃ ls, sat'.launches = sat.launches ++ ls ∧ ∃ l ∈ ls, l.action = a := by
  obtain ⟨_, n, call⟩ := step
  set woken := sat.record (.callback sat.currentState) with hwoken
  have launches : woken.launches = sat.launches := by simp [hwoken, LogEntry.launch?]
  have steady₁ : woken.currentState.Steady := steady
  have served : Satellite.onEvent uvSpawn n e woken = some sat' := call
  have left := left_onEvent steady₁ served
  rw [left.state] at normal due
  have counted : Attempts a (eventCount uvSpawn a woken e) woken sat' :=
    attempts_onEvent trigger steady₁ served
  have pos := eventCount_pos spawns steady₁ normal due
  obtain ⟨ls, append, _⟩ := left.launches
  refine ⟨ls, by rw [append, launches], ?_⟩
  have appended : Attempts a ((ls.map Launch.action).count a) woken sat' :=
    attempts_append trigger append
  have same : (ls.map Launch.action).count a = eventCount uvSpawn a woken e :=
    Nat.add_left_cancel (appended.symm.trans counted)
  rw [← same] at pos
  exact List.mem_map.mp (List.count_pos_iff.mp pos)

/-- Whenever the condition of an ADCS rule holds after an event, its script was launched. -/
theorem adcs_rules_complete (uvSpawn : Script → ℕ → Bool)
    (spawns : ∀ script j, uvSpawn script j = true) (args : Arguments) {sat sat' : Satellite}
    (reachable : Reachable (Step uvSpawn) (Satellite.new args false) sat) {e : Event}
    (step : Step uvSpawn sat (.event e) sat') :
    ∃ ls, sat'.launches = sat.launches ++ ls ∧
      (sat'.currentState.DetumblingDue → ∃ l ∈ ls, l.action = .triggerDetumbling) ∧
      (sat'.currentState.SunpointingDue → ∃ l ∈ ls, l.action = .triggerSunpointing) := by
  obtain ⟨ts, run⟩ := reachable
  have steady := run_steady run
  have modes {a : Action} (trigger : a.isTrigger = true) :=
    launched_of_due spawns trigger steady step
  obtain ⟨n, call⟩ := step.2
  obtain ⟨ls, append, _⟩ := (left_onEvent (by exact steady) call).launches
  have launches : (sat.record (.callback sat.currentState)).launches = sat.launches := by
    simp [LogEntry.launch?]
  rw [launches] at append
  have same {ls' : List Launch} (append' : sat'.launches = sat.launches ++ ls') : ls' = ls :=
    List.append_cancel_left (append'.symm.trans append)
  refine ⟨ls, append, fun due => ?_, fun due => ?_⟩
  · obtain ⟨ls', append', launched⟩ := modes rfl ⟨due.1, due.2.1⟩ due.mem_adcsRules
    rwa [← same append']
  · obtain ⟨ls', append', launched⟩ := modes rfl ⟨due.1, due.2.1⟩ due.mem_adcsRules
    rwa [← same append']

/-- Leaving safemode with a reported pointing of DETUMB points to the sun. -/
theorem adcs_rules_complete_sun :
    ∃ sat sat', Reachable (Step fun _ _ => true) (Satellite.new {} false) sat ∧
      Step (fun _ _ => true) sat (.event (.safeModeReq false)) sat' ∧
      sat'.currentState.SunpointingDue ∧
      ∃ ls, sat'.launches = sat.launches ++ ls ∧
        (sat'.currentState.DetumblingDue → ∃ l ∈ ls, l.action = .triggerDetumbling) ∧
        (sat'.currentState.SunpointingDue → ∃ l ∈ ls, l.action = .triggerSunpointing) := by
  obtain ⟨ts, _, run, _, test⟩ := exists_trace (step_of_next (fun _ _ => true) 5)
    (Satellite.new {} false)
    [.event (.adcsSignal .detumb), .event (.safeModeReq true), .event (.safeModeReq false)]
    (fun ts => ts.getLast?.any fun (t : Transition Satellite Input) =>
      decide (t.label = .event (.safeModeReq false) ∧ t.target.currentState.SunpointingDue))
    (by decide +kernel)
  obtain ⟨t, last, holds⟩ := (Option.any_eq_true _ _).mp test
  obtain ⟨label, due⟩ := of_decide_eq_true holds
  obtain ⟨reachable, step⟩ := run.transition (List.mem_of_getLast? last)
  rw [label] at step
  exact ⟨t.source, t.target, reachable, step, due,
    adcs_rules_complete _ (fun _ _ => rfl) _ reachable step⟩

end Satellite

end Horst
