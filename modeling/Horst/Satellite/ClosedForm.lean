import Horst.Satellite.Termination

/-!
The closed form of the re-entrant event processing: with every script started,
an event from outside changes the state as if no call were nested in another.
-/

set_option autoImplicit false
set_option relaxedAutoImplicit false

namespace Horst

open Foundation Foundation.Nested Foundation.Outcomes

/-- What an event of the outside is meant to make of a state. -/
def State.respond (s : State) : Event → State
  | .manualModeReq true => { s with manualmode := true }
  | .manualModeReq false =>
      if s.manualmode = true then State.settle { s with manualmode := false } else s
  | .safeModeReq true => { s with safemode := 3, maneuvermode := false }
  | .safeModeReq false =>
      if s.safemode ≠ 0 then State.settle { s with safemode := 0 } else s
  | .leopReq leop => { s with leop := leop }
  | .payloadReq _ | .controlMessage _ => s
  | f => (f.update s).settle

namespace Satellite

private theorem answer_of_spawns {uvSpawn : Script → ℕ → Bool}
    (spawns : ∀ script j, uvSpawn script j = true) {sat : Satellite}
    (covered : sat.currentState.Covered) (e : Event) :
    sat.answer uvSpawn e = sat.currentState.respond e := by
  have calm := (State.covered_iff _).mp covered
  cases e with
  | manualModeReq wanted =>
    cases wanted with
    | true => rfl
    | false =>
      have started : sat.leaveStarts uvSpawn = true := spawns _ _
      simp only [answer, State.respond, leaveState, started, Bool.true_eq_false, false_and,
        if_false]
  | safeModeReq wanted =>
    cases wanted with
    | true =>
      have success : enterOutcomes uvSpawn sat.enterAttempts = true := spawns _ _
      exact if_pos ⟨success, calm⟩
    | false => rfl
  | _ => rfl

/-- With every script started, `on_event` returns and leaves the state the event is meant for. -/
theorem onEvent_closed_form (uvSpawn : Script → ℕ → Bool)
    (spawns : ∀ script j, uvSpawn script j = true) (sat : Satellite)
    (covered : sat.currentState.Covered) (enforced : sat.currentState.enforcedSafemode = false)
    (commands : sat.currentState.computer.shellCommands = []) (e : Event) :
    ∃ sat' : Satellite, (∃ N, ∀ n ≥ N, Satellite.onEvent uvSpawn n e sat = some sat') ∧
      sat'.currentState = sat.currentState.respond e := by
  have steady : sat.currentState.Steady := ⟨⟨enforced, commands⟩, covered⟩
  have supply : Supplies (enterOutcomes uvSpawn) (sat.eventNeed uvSpawn e) sat.enterAttempts :=
    supplies_of_forall (spawns .enterSafemode) _ _
  obtain ⟨sat', computes⟩ := (waits_event e steady).ends supply
  obtain ⟨N, returns⟩ := Filter.eventually_atTop.mp computes
  have left : Left (sat.answer uvSpawn e) _ sat sat' := left_onEvent steady (returns N le_rfl)
  refine ⟨sat', ⟨N, returns⟩, ?_⟩
  rw [left.state, answer_of_spawns spawns covered]

theorem onEvent_closed_form_alarm :
    ∃ sat' : Satellite, (∃ N, ∀ n ≥ N, Satellite.onEvent (fun _ _ => true) n
      (.thmSignal .alarm) (Satellite.new {} false) = some sat') ∧
      sat'.currentState = (Satellite.new {} false).currentState.respond (.thmSignal .alarm) :=
  onEvent_closed_form _ (fun _ _ => rfl) _ (by decide +kernel) rfl rfl _

end Satellite

end Horst
