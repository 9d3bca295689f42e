import Horst.Satellite.Answers

/-!
When an autonomous trigger is started outside normal operation: for every
callback a condition on the state it meets and on the scripts that cannot be
started, and with it the exact condition on whole runs.
-/

set_option autoImplicit false
set_option relaxedAutoImplicit false

namespace Horst

open Foundation Foundation.Nested Foundation.Outcomes

namespace Satellite

variable (uvSpawn : Script → ℕ → Bool)

/-- Whether `leave_manualmode.sh` can be started the next time. -/
abbrev leaveStarts (sat : Satellite) : Bool :=
  uvSpawn .leaveManualmode (sat.attempts .leaveManualmode)

def answer (sat : Satellite) : Event → State
  | .manualModeReq true => { sat.currentState with manualmode := true }
  | .manualModeReq false =>
      if sat.currentState.manualmode = true then
        leaveState uvSpawn sat.currentState sat.enterAttempts (sat.leaveStarts uvSpawn)
      else sat.currentState
  | .safeModeReq true => entryState uvSpawn sat.currentState sat.enterAttempts
  | .safeModeReq false =>
      if sat.currentState.safemode ≠ 0 then State.settle { sat.currentState with safemode := 0 }
      else sat.currentState
  | .leopReq leop => { sat.currentState with leop := leop }
  | .payloadReq _ | .controlMessage _ => sat.currentState
  | f => (f.update sat.currentState).settle

def EventStrays (sat : Satellite) : Event → Prop
  | .manualModeReq true =>
      sat.currentState.Normal ∧ sat.currentState.dueTriggers sat.currentState ≠ []
  | .manualModeReq false =>
      sat.currentState.manualmode = true ∧
        LeaveStrays uvSpawn sat.currentState sat.enterAttempts (sat.leaveStarts uvSpawn)
  | .safeModeReq true => EntryStrays uvSpawn sat.currentState sat.enterAttempts
  | .safeModeReq false =>
      sat.currentState.safemode ≠ 0 ∧
        PassStrays uvSpawn { sat.currentState with safemode := 0 } sat.enterAttempts
  | .leopReq _ | .payloadReq _ | .controlMessage _ => False
  | f => PassStrays uvSpawn (f.update sat.currentState) sat.enterAttempts

def DoneStrays (sat : Satellite) (a : Action) (success : Bool) : Prop :=
  match a with
  | .enterSafeMode _ =>
      success = false ∧
        PassStrays uvSpawn { sat.currentState with safemode := 0 } sat.enterAttempts
  | .leaveManualMode =>
      sat.currentState.safemode ≠ 0 ∧
        EntryStrays uvSpawn { sat.currentState with safemode := 0 } sat.enterAttempts
  | .shellCommand _ _ | .enterManualMode | .leaveSafeMode | .finishLEOP | .triggerMeasuring
  | .triggerDetumbling | .triggerSunpointing => False

/-- The callback starts a trigger in safemode or in manualmode. -/
def Strays (sat : Satellite) : Input → Prop
  | .event event => sat.EventStrays uvSpawn event
  | .exited child exitStatus termSignal =>
      termSignal ≠ SIGTERM ∧ sat.DoneStrays uvSpawn child.action (exitStatus = 0)

/-- Every trigger was started in neither safemode nor manualmode. -/
def StrayFree (sat : Satellite) : Prop :=
  ∀ l ∈ sat.launches, l.action.isTrigger = true →
    l.state.safemode = 0 ∧ l.state.manualmode = false

variable {uvSpawn} {onEvent : Handler Event Satellite} {sat sat' : Satellite}

private theorem left_unasked {s : State} (covered : s.Covered) (target : State)
    (state : sat.currentState = s)
    (h : performActions uvSpawn onEvent (s.autonomousRules target) sat = some sat') :
    Left s False sat sat' := by
  refine (left_rules covered target h).of_iff state ?_
  rw [state]
  simp only [iff_false]
  exact fun stray => stray.2.2 stray.1

private theorem left_asked
    {s t : State} {P : Prop} (covered : s.Covered) (target : State) {a : Action}
    (h : performActions uvSpawn onEvent (a :: s.autonomousRules target) sat = some sat')
    (first : ∀ sat₁, a.perform uvSpawn onEvent sat.nextId (sat.prepared a) = some sat₁ →
      Left t P (sat.prepared a) sat₁) :
    Left t (P ∨ (s.Normal ∧ s.dueTriggers target ≠ [] ∧ ¬ t.Normal)) sat sat' := by
  rw [performActions_cons] at h
  obtain ⟨sat₁, head, tail⟩ := Option.bind_eq_some_iff.mp h
  have left₁ := first sat₁ head
  have left₂ := left_rules covered target tail
  rw [left₁.state] at left₂
  exact (left₁.congr (launches_prepared sat a).symm rfl rfl).trans left₂

/-- The satellite while the body of `on_event` works on the list for a request. -/
def asked (sat : Satellite) (e : Event) : Satellite :=
  (sat.record (.event e sat.currentState)).setState (sat.currentState.requestState e)

theorem launches_asked (sat : Satellite) (e : Event) :
    (sat.asked e).launches = sat.launches := by
  simp [asked, LogEntry.launch?]

theorem launches_prepared_asked (sat : Satellite) (e : Event) (a : Action) :
    ((sat.asked e).prepared a).launches = sat.launches :=
  (launches_prepared _ a).trans (launches_asked sat e)

private theorem left_met {e : Event} {sat sat' : Satellite} (steady : sat.currentState.Steady)
    (met : sat.currentState.requestActions e = [])
    (h : performActions uvSpawn onEvent (sat.currentState.requestActions e ++
      (sat.currentState.requestState e).autonomousRules (e.update sat.currentState))
      (sat.asked e) = some sat') :
    Left (sat.currentState.requestState e) False sat sat' := by
  rw [met, List.nil_append] at h
  have rules := left_unasked (steady.covered.requestState e) _ rfl h
  exact rules.congr (launches_asked sat e).symm rfl rfl

private theorem left_manualModeReq_true {n : ℕ} (steady : sat.currentState.Steady)
    (h : Satellite.onEvent uvSpawn (n + 1) (.manualModeReq true) sat = some sat') :
    Left (sat.answer uvSpawn (.manualModeReq true))
      (sat.EventStrays uvSpawn (.manualModeReq true)) sat sat' := by
  replace h := performs_request rfl steady.idle h
  set s := sat.currentState with hs
  cases manual : s.manualmode with
  | true =>
    have met : s.requestActions (.manualModeReq true) = [] := by
      simp [State.requestActions, manual]
    refine (left_met steady met h).of_iff ?_ ?_
    · change s = { s with manualmode := true }
      rw [← manual]
    · simp [EventStrays, State.Normal, ← hs, manual]
  | false =>
    have list : s.requestActions (.manualModeReq true) = [.enterManualMode] := by
      simp [State.requestActions, manual]
    rw [list, List.singleton_append] at h
    have manual₁ : ¬ State.Normal { s with manualmode := true } := fun normal => by
      cases normal.2
    have first : ∀ sat₁, EnterManualMode.perform uvSpawn (Satellite.onEvent uvSpawn n)
        (sat.asked (.manualModeReq true)).nextId
        ((sat.asked (.manualModeReq true)).prepared .enterManualMode) = some sat₁ →
        Left { s with manualmode := true } False
          ((sat.asked (.manualModeReq true)).prepared .enterManualMode) sat₁ := by
      intro sat₁ head
      have signal := left_signal (servesFacts_onEvent n) rfl rfl rfl (by exact steady.idle) head
      refine signal.of_iff ?_ ?_
      · exact State.settle_of_not_urgent fun urgent => manual₁ urgent.1
      · exact iff_of_false (fun strays => manual₁ strays.1.1) not_false
    have steps := left_asked steady.covered _ h first
    refine (steps.congr (launches_asked sat (.manualModeReq true)).symm rfl rfl).of_iff rfl ?_
    simp only [false_or, manual₁, not_false_eq_true, and_true, EventStrays, ← hs]
    rfl

private theorem left_manualModeReq_false {n : ℕ} (steady : sat.currentState.Steady)
    (h : Satellite.onEvent uvSpawn (n + 1) (.manualModeReq false) sat = some sat') :
    Left (sat.answer uvSpawn (.manualModeReq false))
      (sat.EventStrays uvSpawn (.manualModeReq false)) sat sat' := by
  replace h := performs_request rfl steady.idle h
  set s := sat.currentState with hs
  cases manual : s.manualmode with
  | false =>
    have met : s.requestActions (.manualModeReq false) = [] := by
      simp [State.requestActions, manual]
    refine (left_met steady met h).of_iff ?_ ?_
    · simp [answer, ← hs, manual, State.requestState]
    · simp [EventStrays, ← hs, manual]
  | true =>
    have list : s.requestActions (.manualModeReq false) = [.leaveManualMode] := by
      simp [State.requestActions, manual]
    rw [list, List.singleton_append] at h
    have launches := launches_prepared_asked sat (.manualModeReq false) .leaveManualMode
    have first : ∀ sat₁, LeaveManualMode.perform uvSpawn (Satellite.onEvent uvSpawn n)
        (sat.asked (.manualModeReq false)).nextId
        ((sat.asked (.manualModeReq false)).prepared .leaveManualMode) = some sat₁ →
        Left (leaveState uvSpawn s sat.enterAttempts (sat.leaveStarts uvSpawn))
          (LeaveStrays uvSpawn s sat.enterAttempts (sat.leaveStarts uvSpawn))
          ((sat.asked (.manualModeReq false)).prepared .leaveManualMode) sat₁ := by
      intro sat₁ head
      have left := left_leaveManualMode (by exact steady.idle) head
      rw [enterAttempts, attempts_congr launches, attempts_congr launches] at left
      exact left
    have steps := left_asked steady.covered _ h first
    have manual₁ : ¬ s.Normal := fun normal => by
      rw [normal.2] at manual
      cases manual
    refine (steps.congr (launches_asked sat (.manualModeReq false)).symm rfl rfl).of_iff ?_ ?_
    · simp only [answer, ← hs, manual, if_true]
    · simp only [manual₁, false_and, or_false, EventStrays, ← hs, manual, true_and]

private theorem left_safeModeReq_false {n : ℕ} (steady : sat.currentState.Steady)
    (h : Satellite.onEvent uvSpawn (n + 1) (.safeModeReq false) sat = some sat') :
    Left (sat.answer uvSpawn (.safeModeReq false))
      (sat.EventStrays uvSpawn (.safeModeReq false)) sat sat' := by
  replace h := performs_request rfl steady.idle h
  set s := sat.currentState with hs
  by_cases off : s.safemode = 0
  · have met : s.requestActions (.safeModeReq false) = [] := by
      simp [State.requestActions, off]
    refine (left_met steady met h).of_iff ?_ ?_
    · simp [answer, ← hs, off, State.requestState]
    · simp [EventStrays, ← hs, off]
  · have list : s.requestActions (.safeModeReq false) = [.leaveSafeMode] := by
      simp [State.requestActions, off]
    rw [list, List.singleton_append] at h
    have launches := launches_prepared_asked sat (.safeModeReq false) .leaveSafeMode
    have first : ∀ sat₁, LeaveSafeMode.perform uvSpawn (Satellite.onEvent uvSpawn n)
        (sat.asked (.safeModeReq false)).nextId
        ((sat.asked (.safeModeReq false)).prepared .leaveSafeMode) = some sat₁ →
        Left (State.settle { s with safemode := 0 })
          (PassStrays uvSpawn { s with safemode := 0 } sat.enterAttempts)
          ((sat.asked (.safeModeReq false)).prepared .leaveSafeMode) sat₁ := by
      intro sat₁ head
      have signal := left_signal (servesFacts_onEvent n) rfl rfl rfl (by exact steady.idle) head
      rw [enterAttempts, attempts_congr launches] at signal
      exact signal
    have steps := left_asked steady.covered _ h first
    have safe : ¬ s.Normal := fun normal => off normal.1
    refine (steps.congr (launches_asked sat (.safeModeReq false)).symm rfl rfl).of_iff ?_ ?_
    · simp only [answer, ← hs, off, ne_eq, not_false_eq_true, if_true]
    · simp only [safe, false_and, or_false, EventStrays, ← hs, off, ne_eq, not_false_eq_true,
        true_and]

private theorem left_leopReq {n : ℕ} {wanted : LeopSeq} (steady : sat.currentState.Steady)
    (h : Satellite.onEvent uvSpawn (n + 1) (.leopReq wanted) sat = some sat') :
    Left (sat.answer uvSpawn (.leopReq wanted)) (sat.EventStrays uvSpawn (.leopReq wanted))
      sat sat' := by
  replace h := performs_request rfl steady.idle h
  set s := sat.currentState with hs
  by_cases finish : wanted ≠ s.leop ∧ wanted = .done
  · have list : s.requestActions (.leopReq wanted) = [.finishLEOP] := if_pos finish
    have kept : s.requestState (.leopReq wanted) = s := if_pos finish.2
    change performActions _ _ _ (sat.asked (.leopReq wanted)) = _ at h
    rw [list, List.singleton_append, kept] at h
    have covered : State.Covered { s with leop := wanted } := steady.covered
    have first : ∀ sat₁, FinishLEOP.perform uvSpawn (Satellite.onEvent uvSpawn n)
        (sat.asked (.leopReq wanted)).nextId
        ((sat.asked (.leopReq wanted)).prepared .finishLEOP) = some sat₁ →
        Left { s with leop := wanted } False
          ((sat.asked (.leopReq wanted)).prepared .finishLEOP) sat₁ := by
      intro sat₁ head
      have state : (sat.asked (.leopReq wanted)).currentState = s := kept
      have signal := left_signal (servesFacts_onEvent n) rfl rfl rfl
        (by rw [currentState_prepared, state]; exact steady.idle) head
      rw [currentState_prepared, state, ← finish.2] at signal
      refine signal.of_iff covered.settle ?_
      exact iff_of_false (fun strays => (State.covered_iff _).mp covered strays.1) not_false
    have steps := left_asked steady.covered _ h first
    refine (steps.congr (launches_asked sat (.leopReq wanted)).symm rfl rfl).of_iff rfl ?_
    change _ ∨ (s.Normal ∧ _ ∧ ¬ s.Normal) ↔ False
    tauto
  · have met : s.requestActions (.leopReq wanted) = [] := if_neg finish
    refine (left_met steady met h).of_iff ?_ Iff.rfl
    change (if wanted = .done then s else { s with leop := wanted }) = { s with leop := wanted }
    split
    · have same : wanted = s.leop := by tauto
      rw [same]
    · rfl

private theorem left_controlMessage
    {n : ℕ} {message : ControlMessage} (steady : sat.currentState.Steady)
    (h : Satellite.onEvent uvSpawn (n + 1) (.controlMessage message) sat = some sat') :
    Left (sat.answer uvSpawn (.controlMessage message))
      (sat.EventStrays uvSpawn (.controlMessage message)) sat sat' := by
  replace h := performs_request rfl steady.idle h
  set s := sat.currentState with hs
  have first : ∀ sat₁, ShellCommand.perform uvSpawn (Satellite.onEvent uvSpawn n)
      (sat.asked (.controlMessage message)).nextId (.shellCommand message.command message)
      ((sat.asked (.controlMessage message)).prepared (.shellCommand message.command message)) =
        some sat₁ →
      Left s False
        ((sat.asked (.controlMessage message)).prepared (.shellCommand message.command message))
        sat₁ := by
    intro sat₁ head
    refine (left_script rfl head).of_iff rfl ?_
    simp [Action.isTrigger]
  rw [show s.requestActions (.controlMessage message) =
    [.shellCommand message.command message] from rfl, List.singleton_append] at h
  have steps := left_asked steady.covered _ h first
  refine (steps.congr (launches_asked sat (.controlMessage message)).symm rfl rfl).of_iff rfl ?_
  change _ ∨ (s.Normal ∧ _ ∧ ¬ s.Normal) ↔ False
  tauto

/-- Every event, in a state between two callbacks. -/
theorem left_onEvent {n : ℕ} {e : Event} (steady : sat.currentState.Steady)
    (h : Satellite.onEvent uvSpawn n e sat = some sat') :
    Left (sat.answer uvSpawn e) (sat.EventStrays uvSpawn e) sat sat' := by
  cases n with
  | zero => cases h
  | succ n =>
    cases e with
    | manualModeReq wanted =>
      cases wanted with
      | true => exact left_manualModeReq_true steady h
      | false => exact left_manualModeReq_false steady h
    | safeModeReq wanted =>
      cases wanted with
      | true => exact left_safeModeReq steady.idle h
      | false => exact left_safeModeReq_false steady h
    | leopReq wanted => exact left_leopReq steady h
    | payloadReq wanted =>
      replace h := performs_request rfl steady.idle h
      exact left_met steady rfl h
    | controlMessage message => exact left_controlMessage steady h
    | _ => exact left_fact (servesFacts_onEvent _) rfl steady.idle h

private theorem left_report {n : ℕ} {f : Event} (fact : f.isFact = true)
    (steady : sat.currentState.Steady) (h : Satellite.onEvent uvSpawn n f sat = some sat')
    (kept : (f.update sat.currentState).Covered) :
    Left (f.update sat.currentState).settle False sat sat' := by
  refine (left_fact (servesFacts_onEvent n) fact steady.idle h).of_iff rfl ?_
  exact iff_of_false (fun strays => (State.covered_iff _).mp kept strays.1) not_false

private theorem left_done {n : ℕ} {a : Action} {success : Bool} (steady : sat.currentState.Steady)
    (h : a.done (Satellite.onEvent uvSpawn n) success sat = some sat') :
    ∃ t, Left t (sat.DoneStrays uvSpawn a success) sat sat' := by
  have quiet (same : some sat = some sat') : ∃ t, Left t False sat sat' := by
    obtain rfl := Option.some.inj same
    exact ⟨_, Left.refl sat⟩
  cases a with
  | enterSafeMode reason =>
    cases success with
    | true =>
      obtain ⟨t, left⟩ := quiet h
      exact ⟨t, left.of_iff rfl (by simp [DoneStrays])⟩
    | false =>
      have left := left_fact (servesFacts_onEvent n) rfl steady.idle h
      refine ⟨_, left.of_iff rfl ?_⟩
      simp only [DoneStrays, true_and]
      rfl
  | leaveManualMode => exact ⟨_, left_leaveManualMode_done steady.idle h⟩
  | triggerDetumbling | triggerSunpointing | triggerMeasuring =>
    cases success with
    | true => exact ⟨_, left_report rfl steady h steady.covered⟩
    | false => exact quiet h
  | shellCommand | enterManualMode | leaveSafeMode | finishLEOP => exact quiet h

private theorem eventStrays_congr {sat₁ : Satellite} (state : sat₁.currentState = sat.currentState)
    (launches : sat₁.launches = sat.launches) (e : Event) :
    sat₁.EventStrays uvSpawn e ↔ sat.EventStrays uvSpawn e := by
  have attempts := attempts_congr launches
  unfold EventStrays
  simp only [state, enterAttempts, leaveStarts, attempts]

private theorem doneStrays_congr {sat₁ : Satellite} (state : sat₁.currentState = sat.currentState)
    (launches : sat₁.launches = sat.launches) (a : Action) (success : Bool) :
    sat₁.DoneStrays uvSpawn a success ↔ sat.DoneStrays uvSpawn a success := by
  have attempts := attempts_congr launches
  unfold DoneStrays
  simp only [state, enterAttempts, attempts]

private theorem left_callback {n : ℕ} {input : Input} (steady : sat.currentState.Steady)
    (h : sat.callback (Satellite.onEvent uvSpawn n) input = some sat') :
    ∃ t, Left t (sat.Strays uvSpawn input) sat sat' := by
  have launches : (sat.record (.callback sat.currentState)).launches = sat.launches := by
    simp [LogEntry.launch?]
  cases input with
  | event e =>
    have left := left_onEvent (by exact steady) h
    replace left := left.congr launches.symm rfl rfl
    exact ⟨_, left.of_iff rfl (eventStrays_congr (by rfl) launches e)⟩
  | exited child exitStatus termSignal =>
    set woken := (sat.record (.callback sat.currentState)).ended child with hwoken
    have launches₁ : woken.launches = sat.launches := launches
    simp only [callback] at h
    split_ifs at h with reported
    · obtain ⟨sat₁, done, last⟩ := Option.bind_eq_some_iff.mp h
      obtain rfl := Option.some.inj last
      have launches₂ : (woken.record (.exited child.id child.action exitStatus)).launches =
          sat.launches := by simp [launches₁, LogEntry.launch?]
      obtain ⟨t, left⟩ := left_done (by exact steady) done
      replace left := left.congr launches₂.symm rfl rfl
      replace left : Left _ _ sat ((sat₁.record (.finished child.id (exitStatus = 0))).removeAction
        child.id) := left.congr rfl rfl (by simp [LogEntry.launch?])
      refine ⟨t, left.of_iff rfl ?_⟩
      rw [doneStrays_congr (by rfl) launches₂]
      simp only [Strays, reported, not_false_eq_true, true_and, ne_eq]
    · obtain rfl := Option.some.inj h
      have still : Left _ _ sat woken := (Left.refl sat).congr rfl rfl launches₁
      refine ⟨_, still.of_iff rfl ?_⟩
      simp only [Strays, reported, false_and]

private theorem Left.strayFree {t : State} {P : Prop} (left : Left t P sat sat') :
    sat'.StrayFree ↔ sat.StrayFree ∧ ¬ P := by
  obtain ⟨ls, append, strays⟩ := left.launches
  rw [← strays]
  constructor
  · intro free
    refine ⟨fun l mem => free l (append ▸ List.mem_append_left ls mem), ?_⟩
    rintro ⟨l, mem, trigger, modes⟩
    exact modes (free l (append ▸ List.mem_append_right sat.launches mem) trigger)
  · rintro ⟨free, none⟩ l mem trigger
    rw [append] at mem
    rcases List.mem_append.mp mem with early | late
    · exact free l early trigger
    · by_contra modes
      exact none ⟨l, late, trigger, modes⟩

/-- Over a run: no trigger was started outside normal operation exactly if no
callback of the run met a state that makes it start one. -/
theorem run_strayFree_iff {args : Arguments} {ts : List (Transition Satellite Input)}
    (run : Run (Step uvSpawn) (Satellite.new args false) ts sat) :
    sat.StrayFree ↔ ∀ t ∈ ts, ¬ t.source.Strays uvSpawn t.label := by
  refine Run.accumulates (I := fun sat => sat.currentState.Steady) (new_steady args) step_steady
    ?_ ?_ run
  · intro l mem
    cases mem
  · rintro sat input sat' steady ⟨_, n, call⟩
    obtain ⟨t, left⟩ := left_callback steady call
    exact left.strayFree

end Satellite

end Horst
