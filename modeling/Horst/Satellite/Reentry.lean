import Horst.Satellite.Enforced
import Horst.Satellite.Termination

/-!
Entering safemode once more: what becomes of a safemode that is already there
when `leave_manualmode.sh` has ended, and when one of several overlapping runs of
`enter_safemode.sh` fails.
-/

set_option autoImplicit false
set_option relaxedAutoImplicit false

namespace Horst

open Foundation Foundation.Nested Foundation.Outcomes

namespace Satellite

variable {uvSpawn : Script → ℕ → Bool} {onEvent : Handler Event Satellite}
  {s : State} {sat sat' : Satellite}

/-- A callback that starts `enter_safemode.sh` once, starts nothing else, and
leaves the satellite in safemode. -/
def Reasserts (uvSpawn : Script → ℕ → Bool) (sat : Satellite) (input : Input) : Prop :=
  ∃ sat', sat.Calls uvSpawn input sat' ∧ sat'.currentState.safemode ≠ 0 ∧
    ∃ l, sat'.launches = sat.launches ++ [l] ∧ l.action.script = .enterSafemode ∧
      l.spawned = true

private theorem urgent_launches
    (serves : ServesFacts uvSpawn onEvent) (idle : sat.currentState.Idle)
    (urgent : s.Urgent)
    (h : performActions uvSpawn onEvent (s.autonomousRules s) sat = some sat') :
    ∃ l ls, sat'.launches = sat.launches ++ l :: ls := by
  rw [State.autonomousRules_of_urgent s urgent, performActions_cons] at h
  obtain ⟨sat₁, enter, triggers⟩ := Option.bind_eq_some_iff.mp h
  obtain ⟨sat₂, run, _, _, ls, launches, _⟩ := performActions_triggers uvSpawn s s sat₁
  obtain rfl : sat₂ = sat' := Option.some.inj ((run onEvent).symm.trans triggers)
  rcases EnterSafeMode.perform_spec uvSpawn serves urgent.2 _ (by exact idle) enter with
    ⟨_, _, launches₁⟩ | ⟨_, sat₃, launches₃, again⟩
  · exact ⟨_, ls, by rw [launches, launches₁, launches_prepared, List.append_assoc,
      List.singleton_append]⟩
  · obtain ⟨ls', launches', _⟩ := again.launches
    exact ⟨_, ls' ++ ls, by rw [launches, launches', launches₃, launches_prepared,
      List.append_assoc, List.append_assoc, List.singleton_append]⟩

private theorem entry_reasserts_iff (serves : ServesFacts uvSpawn onEvent) (idle : s.Idle)
    (normal : s.Normal) (state : sat.currentState = s)
    (h : performActions uvSpawn onEvent (.enterSafeMode 3 :: s.autonomousRules s) sat =
      some sat') :
    (sat'.currentState.safemode ≠ 0 ∧ ∃ l, sat'.launches = sat.launches ++ [l] ∧
      l.action.script = .enterSafemode ∧ l.spawned = true) ↔
    enterOutcomes uvSpawn sat.enterAttempts = true ∧ s.emergency = 0 ∧ s.dueTriggers s = [] := by
  rw [performActions_cons] at h
  obtain ⟨sat₁, enter, rules⟩ := Option.bind_eq_some_iff.mp h
  have attempts : (sat.prepared (.enterSafeMode 3)).enterAttempts = sat.enterAttempts :=
    attempts_congr (launches_prepared sat _) _
  have spec := EnterSafeMode.perform_spec uvSpawn serves (by decide) _ (by exact state ▸ idle) enter
  rw [attempts, currentState_prepared, state, launches_prepared] at spec
  rcases spec with ⟨success, state₁, launches₁⟩ | ⟨fail, sat₂, launches₂, again⟩
  · have idle₁ : sat₁.currentState.Idle := by
      rw [state₁]
      exact idle.enter 3
    by_cases calm : s.emergency = 0
    · rw [State.autonomousRules_of_calm s normal calm] at rules
      obtain ⟨sat₂, run, state₂, _, ls, launches, each, reach⟩ :=
        performActions_triggers uvSpawn s s sat₁
      obtain rfl : sat₂ = sat' := Option.some.inj ((run onEvent).symm.trans rules)
      rw [launches₁, List.append_assoc, List.singleton_append] at launches
      constructor
      · rintro ⟨_, l, one, _⟩
        have none : ls = [] := by
          have := List.append_cancel_left (launches.symm.trans one)
          exact (List.cons.inj this).2
        subst none
        refine ⟨success, calm, ?_⟩
        by_contra due
        obtain ⟨l, mem, _⟩ := reach.mpr due
        cases mem
      · rintro ⟨_, _, due⟩
        have none : ls = [] := by
          refine List.eq_nil_iff_forall_not_mem.mpr fun l mem => ?_
          exact reach.mp ⟨l, mem, (each l mem).2⟩ due
        subst none
        refine ⟨?_, _, launches, rfl, rfl⟩
        rw [state₂, state₁]
        exact (by decide : (3 : UInt8) ≠ 0)
    · obtain ⟨l', ls, launches⟩ := urgent_launches serves idle₁ ⟨normal, calm⟩ rules
      refine iff_of_false ?_ fun h => calm h.2.1
      rintro ⟨_, l, one, _⟩
      rw [launches, launches₁, List.append_assoc] at one
      have := congrArg List.length (List.append_cancel_left one)
      simp at this
  · refine iff_of_false ?_ fun h => by rw [h.1] at fail; cases fail
    rintro ⟨_, l, one, _, spawned⟩
    obtain ⟨ls₁, launches₁, _⟩ := again.launches
    have idle₁ : sat₁.currentState.Idle := by
      rw [again.state]
      exact (idle.enter 0).settle
    obtain ⟨ls, launches⟩ : ∃ ls, sat'.launches = sat₁.launches ++ ls := by
      by_cases urgent : s.Urgent
      · obtain ⟨l', ls, launches⟩ := urgent_launches serves idle₁ urgent rules
        exact ⟨_, launches⟩
      · obtain ⟨ls, launches, _⟩ :=
          (left_rules ((State.covered_iff s).mpr urgent) s rules).launches
        exact ⟨ls, launches⟩
    -- the first script on the ledger is the one that could not be started
    rw [launches, launches₁, launches₂, List.append_assoc, List.append_assoc,
      List.singleton_append] at one
    have first := (List.cons.inj (List.append_cancel_left one)).1
    rw [← first] at spawned
    cases spawned

private theorem leave_callback {n : ℕ} {child : Child} (leave : child.action = .leaveManualMode)
    {exitStatus termSignal : Int} (reported : termSignal ≠ SIGTERM)
    (idle : sat.currentState.Idle) (safe : sat.currentState.safemode ≠ 0)
    (h : sat.callback (Satellite.onEvent uvSpawn n) (.exited child exitStatus termSignal) =
      some sat') :
    ∃ (m : ℕ) (sat₁ sat₂ : Satellite), sat₁.currentState = { sat.currentState with safemode := 0 } ∧
      sat₁.launches = sat.launches ∧
      performActions uvSpawn (Satellite.onEvent uvSpawn m)
        (.enterSafeMode 3 :: sat₁.currentState.autonomousRules sat₁.currentState) sat₁ = some sat₂ ∧
      sat'.currentState = sat₂.currentState ∧ sat'.launches = sat₂.launches := by
  simp only [callback] at h
  rw [if_pos reported] at h
  obtain ⟨sat₂, done, last⟩ := Option.bind_eq_some_iff.mp h
  obtain rfl := Option.some.inj last
  set freed := ((sat.record (.callback sat.currentState)).ended child).record
    (.exited child.id child.action exitStatus) with hfreed
  rw [leave] at done
  change LeaveManualMode.done _ freed = _ at done
  have safe₁ : freed.currentState.safemode ≠ 0 := safe
  rw [LeaveManualMode.done, if_pos safe₁] at done
  cases n with
  | zero => cases done
  | succ n =>
    change onEventBody uvSpawn (Satellite.onEvent uvSpawn n) _ _ = _ at done
    rw [onEventBody_request uvSpawn _ rfl (by exact ⟨idle.enforced, idle.commands⟩)] at done
    refine ⟨n, _, sat₂, ?_, ?_, done, rfl, by simp [LogEntry.launch?]⟩
    · rfl
    · simp [hfreed, LogEntry.launch?]

private theorem reasserts_iff {child : Child} (leave : child.action = .leaveManualMode)
    {exitStatus termSignal : Int} (reported : termSignal ≠ SIGTERM)
    (steady : sat.currentState.Steady) (safe : sat.currentState.safemode ≠ 0)
    (manual : sat.currentState.manualmode = false) :
    sat.Reasserts uvSpawn (.exited child exitStatus termSignal) ↔
      enterOutcomes uvSpawn sat.enterAttempts = true ∧ sat.currentState.emergency = 0 ∧
        sat.currentState.dueTriggers sat.currentState = [] := by
  have spec {n : ℕ} {sat'} (call : sat.callback (Satellite.onEvent uvSpawn n)
      (.exited child exitStatus termSignal) = some sat') :
      (sat'.currentState.safemode ≠ 0 ∧ ∃ l, sat'.launches = sat.launches ++ [l] ∧
        l.action.script = .enterSafemode ∧ l.spawned = true) ↔
      enterOutcomes uvSpawn sat.enterAttempts = true ∧ sat.currentState.emergency = 0 ∧
        sat.currentState.dueTriggers sat.currentState = [] := by
    obtain ⟨m, sat₁, sat₂, state₁, launches₁, run, state', launches'⟩ :=
      leave_callback leave reported steady.idle safe call
    have normal : sat₁.currentState.Normal := by
      rw [state₁]
      exact ⟨rfl, manual⟩
    have idle₁ : sat₁.currentState.Idle := by
      rw [state₁]
      exact ⟨steady.idle.enforced, steady.idle.commands⟩
    have iff := entry_reasserts_iff (servesFacts_onEvent m) idle₁ normal rfl run
    rw [launches₁, enterAttempts, attempts_congr launches₁, state₁] at iff
    rw [state', launches']
    exact iff
  constructor
  · rintro ⟨sat', ⟨n, call⟩, reasserts⟩
    exact (spec call).mp reasserts
  · intro calm
    have need : sat.need uvSpawn (.exited child exitStatus termSignal) = 0 := by
      have quiet : ¬ (State.enter { sat.currentState with safemode := 0 } 0).Urgent :=
        fun urgent => urgent.2 calm.2.1
      simp only [Satellite.need, doneNeed, leave, reported, safe, entryNeed, quiet, ne_eq,
        not_false_eq_true, if_true, if_false]
    have waits : Waits uvSpawn _ _ sat :=
      waits_callback (.exited child exitStatus termSignal) steady
    rw [need] at waits
    obtain ⟨n, sat', call⟩ := waits.returns_iff.mpr trivial
    exact ⟨sat', ⟨n, call⟩, (spec call).mpr calm⟩

/-- The end of `leave_manualmode.sh` only re-asserts safemode exactly if
`enter_safemode.sh` can be started, and there is neither an emergency nor a trigger due. -/
theorem leave_reasserts_iff (uvSpawn : Script → ℕ → Bool) (args : Arguments) (enforced : Bool)
    (reachable : Reachable (Step uvSpawn) (Satellite.new args enforced) sat) {child : Child}
    (leave : child.action = .leaveManualMode) {exitStatus termSignal : Int}
    (reported : termSignal ≠ SIGTERM) (safe : sat.currentState.safemode ≠ 0)
    (manual : sat.currentState.manualmode = false) :
    sat.Reasserts uvSpawn (.exited child exitStatus termSignal) ↔
      uvSpawn .enterSafemode (sat.attempts .enterSafemode) = true ∧
      sat.currentState.emergency = 0 ∧
      sat.currentState.dueTriggers sat.currentState = [] :=
  reasserts_iff leave reported (Reachable.steady reachable (Or.inl safe)) safe manual

/-- Manualmode is left in safemode while the pointing is unknown. -/
theorem leave_reasserts_iff_detumbling :
    ∃ sat, Reachable (Step fun _ _ => true) (Satellite.new {} false) sat ∧
      (⟨3, .leaveManualMode⟩ : Child) ∈ sat.running ∧
      (sat.Reasserts (fun _ _ => true) (.exited ⟨3, .leaveManualMode⟩ 0 0) ↔
        true = true ∧ sat.currentState.emergency = 0 ∧
        sat.currentState.dueTriggers sat.currentState = []) := by
  obtain ⟨ts, sat, run, _, test⟩ := exists_run (fun _ _ => true) 5 (Satellite.new {} false)
    [.event (.manualModeReq true), .event (.safeModeReq true), .event (.manualModeReq false)]
    (fun sat => decide (⟨3, .leaveManualMode⟩ ∈ sat.running ∧ sat.currentState.safemode ≠ 0 ∧
      sat.currentState.manualmode = false)) (by decide +kernel)
  obtain ⟨mem, safe, manual⟩ := of_decide_eq_true test
  exact ⟨sat, run.reachable, mem,
    leave_reasserts_iff _ _ _ run.reachable rfl (by decide) safe manual⟩

/-- There it does not only re-assert safemode: it starts to detumble. -/
theorem leave_starts_detumbling :
    ¬ ∀ (uvSpawn : Script → ℕ → Bool) (args : Arguments) (enforced : Bool) (sat : Satellite),
      Reachable (Step uvSpawn) (Satellite.new args enforced) sat →
      ∀ child ∈ sat.running, child.action = .leaveManualMode →
      ∀ exitStatus termSignal : Int, termSignal ≠ SIGTERM → sat.currentState.safemode ≠ 0 →
        sat.currentState.manualmode = false →
        sat.Reasserts uvSpawn (.exited child exitStatus termSignal) := by
  intro claim
  obtain ⟨ts, sat, run, _, test⟩ := exists_run (fun _ _ => true) 5 (Satellite.new {} false)
    [.event (.manualModeReq true), .event (.safeModeReq true), .event (.manualModeReq false)]
    (fun sat => decide (⟨3, .leaveManualMode⟩ ∈ sat.running ∧ sat.currentState.safemode ≠ 0 ∧
      sat.currentState.manualmode = false ∧
      sat.currentState.dueTriggers sat.currentState ≠ [])) (by decide +kernel)
  obtain ⟨mem, safe, manual, due⟩ := of_decide_eq_true test
  have reasserts := claim _ _ _ sat run.reachable _ mem rfl 0 0 (by decide) safe manual
  exact due ((reasserts_iff rfl (by decide) (run_steady run) safe manual).mp reasserts).2.2

/-! Overlapping runs of `enter_safemode.sh`. -/

end Satellite

def LogEntry.leaves : LogEntry → Bool
  | .event (.safeModeReq false) _ => true
  | _ => false

def LogEntry.enters (id : ℕ) : LogEntry → Bool
  | .run id' (.enterSafeMode _) _ => id' = id
  | _ => false

/-- The entry performs the `EnterSafeMode` with this id in a state that is in safemode. -/
def LogEntry.reenters (id : ℕ) : LogEntry → Bool
  | .run id' (.enterSafeMode _) state => id' = id && state.safemode != 0
  | _ => false

/-- The entry wakes the event loop out of safemode. -/
def LogEntry.wakesUnsafe : LogEntry → Bool
  | .callback state => state.safemode = 0
  | _ => false

namespace Satellite

variable {uvSpawn : Script → ℕ → Bool} {sat sat' : Satellite}

/-- Both actions were performed in one stretch of safemode that lasts until now:
whenever the event loop went on in the meantime, safemode was on. -/
def SamePeriod (sat : Satellite) (id id' : ℕ) : Prop :=
  sat.currentState.safemode ≠ 0 ∧ ∃ j,
    (sat.log.drop j).any (LogEntry.enters id) = true ∧
    (sat.log.drop j).any (LogEntry.enters id') = true ∧
    (sat.log.drop j).any LogEntry.wakesUnsafe = false

/-- The safemode that the `EnterSafeMode` with this id found or shares: it was on when
the action was performed, or another run of the script in the same period of
safemode has exited with 0; and since then no request to leave safemode was processed. -/
def Established (sat : Satellite) (id : ℕ) : Prop :=
  ∃ j, (sat.log.drop (j + 1)).any LogEntry.leaves = false ∧
    (sat.log[j]?.any (LogEntry.reenters id) = true ∨
      ∃ id' reason, sat.log[j]? = some (.exited id' (.enterSafeMode reason) 0) ∧
        id' ≠ id ∧ sat.SamePeriod id id')

/-- A callback that leaves the satellite in safemode and starts no trigger. -/
def KeepsSafemode (uvSpawn : Script → ℕ → Bool) (sat : Satellite) (input : Input) : Prop :=
  ∃ sat', sat.Step uvSpawn input sat' ∧ sat'.currentState.safemode ≠ 0 ∧
    ∃ ls, sat'.launches = sat.launches ++ ls ∧ ∀ l ∈ ls, l.action.isTrigger = false

/-- What is left after a failed `enter_safemode.sh` is what the table makes of the
emergency: with the satellite out of manualmode and an attempt at the script that
succeeds, and with no ADCS rule that matches before it does. -/
def Recovers (uvSpawn : Script → ℕ → Bool) (sat : Satellite) : Prop :=
  sat.currentState.manualmode = false ∧ sat.currentState.emergency ≠ 0 ∧
    (∃ j, sat.attempts .enterSafemode ≤ j ∧ uvSpawn .enterSafemode j = true) ∧
    (sat.currentState.adcsDue = [] ∨ (sat.currentState.maneuvermode = true ∧
      uvSpawn .enterSafemode (sat.attempts .enterSafemode) = true))

private theorem failed_callback {n : ℕ} {child : Child} {reason : UInt8}
    (enter : child.action = .enterSafeMode reason) {exitStatus termSignal : Int}
    (failed : exitStatus ≠ 0) (reported : termSignal ≠ SIGTERM) (idle : sat.currentState.Idle)
    (h : sat.callback (Satellite.onEvent uvSpawn n) (.exited child exitStatus termSignal) =
      some sat') :
    Passed uvSpawn { sat.currentState with safemode := 0 } sat sat' := by
  simp only [callback] at h
  rw [if_pos reported] at h
  obtain ⟨sat₁, done, last⟩ := Option.bind_eq_some_iff.mp h
  obtain rfl := Option.some.inj last
  rw [enter, decide_eq_false failed] at done
  have passed := servesFacts_onEvent n _ _ _ rfl (by exact idle) done
  exact passed.congr (by simp [LogEntry.launch?]) rfl (by simp [LogEntry.launch?])

private theorem failed_keeps_iff {child : Child} {reason : UInt8}
    (enter : child.action = .enterSafeMode reason) {exitStatus termSignal : Int}
    (failed : exitStatus ≠ 0) (reported : termSignal ≠ SIGTERM) (mem : child ∈ sat.running)
    (steady : sat.currentState.Steady) :
    sat.KeepsSafemode uvSpawn (.exited child exitStatus termSignal) ↔ sat.Recovers uvSpawn := by
  set s := sat.currentState with hs
  set r : State := { s with safemode := 0 } with hr
  have need : sat.need uvSpawn (.exited child exitStatus termSignal) = passNeed r := by
    simp only [Satellite.need, doneNeed, enter, reported, failed, decide_false, ne_eq,
      not_false_eq_true, if_true]
    rfl
  have waits : Waits uvSpawn _ (passNeed r) sat :=
    need ▸ waits_callback (.exited child exitStatus termSignal) steady
  -- which triggers an urgent pass starts depends on the next attempt at the script only
  have quiet_iff (urgent : r.Urgent) :
      ¬ PassTriggers uvSpawn r sat.enterAttempts ↔ s.adcsDue = [] ∨ (s.maneuvermode = true ∧
        uvSpawn .enterSafemode sat.enterAttempts = true) := by
    have due : r.adcsDue = s.adcsDue := rfl
    have maneuver : r.maneuvermode = s.maneuvermode := rfl
    rw [passTriggers_of_urgent urgent, due, maneuver, not_and_or, not_or, ne_eq, not_not]
    simp only [Bool.not_eq_false]
  constructor
  · rintro ⟨sat', ⟨_, n, call⟩, safe, ls, launches, quiet⟩
    have passed := failed_callback enter failed reported steady.idle call
    have urgent : r.Urgent := by
      by_contra calm
      rw [passed.state, State.settle_of_not_urgent calm] at safe
      exact safe rfl
    have supply := waits.returns_iff.mp ⟨n, sat', call⟩
    rw [passNeed, if_pos urgent] at supply
    refine ⟨urgent.1.2, urgent.2, supplies_one_iff.mp supply, (quiet_iff urgent).mp ?_⟩
    obtain ⟨ls', launches', _, reach⟩ := passed.launches
    obtain rfl : ls = ls' := List.append_cancel_left (launches.symm.trans launches')
    intro triggers
    obtain ⟨l, mem, trigger⟩ := reach.mpr triggers
    rw [quiet l mem] at trigger
    cases trigger
  · rintro ⟨manual, reason, supply, none⟩
    have urgent : r.Urgent := ⟨⟨rfl, manual⟩, reason⟩
    have one : passNeed r = 1 := if_pos urgent
    obtain ⟨n, sat', call⟩ := waits.returns_iff.mpr (one ▸ supplies_one_iff.mpr supply)
    have passed := failed_callback enter failed reported steady.idle call
    obtain ⟨ls, launches, _, reach⟩ := passed.launches
    refine ⟨sat', ⟨mem, n, call⟩, ?_, ls, launches, fun l mem => ?_⟩
    · rw [passed.state, State.settle_of_urgent urgent]
      exact urgent.2
    · by_contra trigger
      have triggers := reach.mp ⟨l, mem, Bool.not_eq_false _ ▸ trigger⟩
      exact (quiet_iff urgent).mpr none triggers

/-- The end of a failed `enter_safemode.sh` that must not cancel an established safemode:
it leaves safemode on and starts no trigger exactly if the table recovers it. -/
theorem failed_reentry_iff (uvSpawn : Script → ℕ → Bool) (args : Arguments) (enforced : Bool)
    {ts : List (Transition Satellite Input)}
    (run : Run (Step uvSpawn) (Satellite.new args enforced) ts sat) {child : Child}
    (mem : child ∈ sat.running) {reason : UInt8} (enter : child.action = .enterSafeMode reason)
    {exitStatus termSignal : Int} (failed : exitStatus ≠ 0) (reported : termSignal ≠ SIGTERM) :
    (sat.Established child.id → sat.KeepsSafemode uvSpawn (.exited child exitStatus termSignal)) ↔
      (sat.Established child.id → sat.Recovers uvSpawn) := by
  have steady : sat.currentState.Steady :=
    Reachable.steady run.reachable (Or.inr ⟨child, mem, by rw [enter]; rfl⟩)
  exact imp_congr_right fun _ => failed_keeps_iff enter failed reported mem steady

/-- Safemode is requested twice, and the second run of the script fails. -/
theorem failed_reentry_iff_request :
    ∃ ts sat, Run (Step fun _ _ => true) (Satellite.new {} false) ts sat ∧
      ts.map Transition.label = [.event (.safeModeReq true), .event (.safeModeReq true)] ∧
      ((sat.Established 2 →
          sat.KeepsSafemode (fun _ _ => true) (.exited ⟨2, .enterSafeMode 3⟩ 1 0)) ↔
        (sat.Established 2 → sat.Recovers fun _ _ => true)) := by
  obtain ⟨ts, sat, run, labels, test⟩ := exists_run (fun _ _ => true) 5 (Satellite.new {} false)
    [.event (.safeModeReq true), .event (.safeModeReq true)]
    (fun sat => decide (⟨2, .enterSafeMode 3⟩ ∈ sat.running)) (by decide +kernel)
  have mem := of_decide_eq_true test
  exact ⟨ts, sat, run, labels,
    failed_reentry_iff _ _ _ run mem rfl (by decide) (by decide)⟩

/-- It cancels the safemode that was on before. -/
theorem failed_reentry_cancels :
    ¬ ∀ (uvSpawn : Script → ℕ → Bool) (args : Arguments) (enforced : Bool)
      (ts : List (Transition Satellite Input)) (sat : Satellite),
      Run (Step uvSpawn) (Satellite.new args enforced) ts sat →
      ∀ child ∈ sat.running, ∀ reason, child.action = .enterSafeMode reason →
      ∀ exitStatus termSignal : Int, exitStatus ≠ 0 → termSignal ≠ SIGTERM →
        sat.Established child.id →
        sat.KeepsSafemode uvSpawn (.exited child exitStatus termSignal) := by
  intro claim
  obtain ⟨ts, sat, run, _, test⟩ := exists_run (fun _ _ => true) 5 (Satellite.new {} false)
    [.event (.safeModeReq true), .event (.safeModeReq true)]
    (fun sat => decide (⟨2, .enterSafeMode 3⟩ ∈ sat.running ∧ sat.currentState.emergency = 0 ∧
      (sat.log.drop 11).any LogEntry.leaves = false ∧
      sat.log[10]?.any (LogEntry.reenters 2) = true)) (by decide +kernel)
  obtain ⟨mem, calm, stays, reenters⟩ := of_decide_eq_true test
  have established : sat.Established 2 := ⟨10, stays, Or.inl reenters⟩
  have keeps := claim _ _ _ ts sat run _ mem 3 rfl 1 0 (by decide) (by decide) established
  have recovers := (failed_keeps_iff rfl (by decide) (by decide) mem (run_steady run)).mp keeps
  exact recovers.2.1 calm

end Satellite

end Horst
