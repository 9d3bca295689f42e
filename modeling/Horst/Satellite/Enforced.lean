import Horst.Satellite.Strays

/-!
Runs in which the memory of `enforced_safemode` held true at the start. A pass in
safemode would then enter safemode without end, so no callback that returns ever
turned safemode on, and each of them does what it does with the flag off.
-/

set_option autoImplicit false
set_option relaxedAutoImplicit false

namespace Horst

open Foundation Foundation.Nested Foundation.Outcomes

/-! The same state, chronicle and satellite with the flag off. -/

def State.cleared (s : State) : State := { s with enforcedSafemode := false }

def LogEntry.cleared : LogEntry → LogEntry
  | .callback s => .callback s.cleared
  | .event e s => .event e s.cleared
  | .run id a s => .run id a s.cleared
  | .process id a cmd s3tp s spawned => .process id a cmd s3tp s.cleared spawned
  | .exited id a exitCode => .exited id a exitCode
  | .finished id success => .finished id success

def Launch.cleared (l : Launch) : Launch := { l with state := l.state.cleared }

namespace Satellite

def cleared (sat : Satellite) : Satellite :=
  { sat with currentState := sat.currentState.cleared, log := sat.log.map LogEntry.cleared }

theorem launches_cleared (sat : Satellite) :
    sat.cleared.launches = sat.launches.map Launch.cleared := by
  unfold launches cleared
  rw [List.filterMap_map, List.map_filterMap]
  congr 1
  funext entry
  cases entry <;> rfl

theorem attempts_cleared (sat : Satellite) (script : Script) :
    sat.cleared.attempts script = sat.attempts script := by
  simp only [attempts, launches_cleared, List.countP_map]
  rfl

private theorem cleared_record (sat : Satellite) (entry : LogEntry) :
    (sat.record entry).cleared = sat.cleared.record entry.cleared := by
  simp only [cleared, record, List.map_append, List.map_cons, List.map_nil]

private theorem cleared_created (sat : Satellite) (id : ℕ) (a : Action) (spawned : Bool) :
    (sat.created id a spawned).cleared = sat.cleared.created id a spawned :=
  cleared_record sat _

structure Pinned (sat : Satellite) : Prop where
  enforced : sat.currentState.enforcedSafemode = true
  commands : sat.currentState.computer.shellCommands = []
  off : sat.currentState.safemode = 0
  running : ∀ child ∈ sat.running, child.action.script ≠ .enterSafemode

variable {uvSpawn : Script → ℕ → Bool} {onEvent : Handler Event Satellite}
  {sat sat' : Satellite}

theorem enforced_cut_off (n : ℕ) {f : Event} (fact : f.isFact = true)
    (enforced : sat.currentState.enforcedSafemode = true)
    (commands : sat.currentState.computer.shellCommands = [])
    (safe : (f.update sat.currentState).safemode ≠ 0) :
    Satellite.onEvent uvSpawn n f sat = none := by
  induction n generalizing f sat with
  | zero => rfl
  | succ n ih =>
    change onEventBody uvSpawn (Satellite.onEvent uvSpawn n) f sat = none
    set s := f.update sat.currentState with hs
    have kept : s.enforcedSafemode = true ∧ s.computer.shellCommands = [] := by
      cases f <;> first
        | exact ⟨enforced, commands⟩
        | simp [Event.isFact] at fact
    have list : s.transformTo s = (s, [.enterSafeMode 3]) := by
      have modes : ¬ s.Normal := fun normal => safe normal.1
      rw [State.transformTo_eq, State.manualmodeRules_same rfl, State.leopRules_same rfl,
        State.autonomousRules_of_not_normal s modes]
      simp [Computer.transformTo, kept.2, State.safemodeRules, kept.1, safe]
    have stuck : Satellite.onEvent uvSpawn n (.safeModeSignal 3)
        (((sat.record (.event f sat.currentState)).setState s).prepared (.enterSafeMode 3)) = none :=
      ih rfl kept.1 kept.2 (show (3 : UInt8) ≠ 0 by decide)
    simp only [onEventBody, fact, if_true, currentState_record, ← hs, list, performActions_cons]
    change ((Satellite.onEvent uvSpawn n _ _).bind _).bind _ = none
    rw [stuck]
    rfl

theorem transformTo_cleared {s : State} (off : s.safemode = 0) {target target' : State}
    (same : target'.cleared = target.cleared) :
    s.cleared.transformTo target' = ((s.transformTo target).1.cleared, (s.transformTo target).2) := by
  simp only [State.cleared, State.mk.injEq, true_and] at same
  obtain ⟨_, computer, safemode, manualmode, _, leop, _, _, pl, _⟩ := same
  have daemon : target'.pl.daemon = target.pl.daemon := by rw [pl]
  have rules (t : State) : t.cleared.autonomousRules target' = t.autonomousRules target :=
    State.autonomousRules_congr daemon
  have safe : s.cleared.safemodeRules target' = s.safemodeRules target := by
    simp only [State.safemodeRules, State.cleared, safemode, off, true_or, and_true]
  have step : s.cleared.leopRules target' =
      ((s.leopRules target).1.cleared, (s.leopRules target).2) := by
    simp only [State.leopRules, leop]
    split_ifs <;> first
      | rfl
      | contradiction
  rw [State.transformTo_eq, State.transformTo_eq, step, rules, safe]
  simp only [State.manualmodeRules, manualmode, computer, Computer.transformTo]
  rfl

/-- A call that returns leaves the flag on and safemode off, and returns with the
flag off as well. -/
def Shadowed (c : Satellite → Option Satellite) : Prop :=
  ∀ sat sat' : Satellite, Pinned sat → c sat = some sat' →
    Pinned sat' ∧ c sat.cleared = some sat'.cleared

theorem Shadowed.bind {c d : Satellite → Option Satellite} (hc : Shadowed c) (hd : Shadowed d) :
    Shadowed fun sat => (c sat).bind d := by
  intro sat sat' pinned h
  obtain ⟨sat₁, first, second⟩ := Option.bind_eq_some_iff.mp h
  obtain ⟨pinned₁, first'⟩ := hc sat sat₁ pinned first
  obtain ⟨pinned', second'⟩ := hd sat₁ sat' pinned₁ second
  refine ⟨pinned', ?_⟩
  simp only [first', Option.bind_some, second']

theorem Pinned.record (pinned : Pinned sat) (entry : LogEntry) : Pinned (sat.record entry) :=
  ⟨pinned.enforced, pinned.commands, pinned.off, pinned.running⟩

private theorem shadowed_script {a : Action} (other : a.script ≠ .enterSafemode) (id : ℕ) :
    Shadowed (ShellCommand.perform uvSpawn onEvent id a) := by
  intro sat sat' pinned h
  have attempts := attempts_cleared sat a.script
  simp only [ShellCommand.perform, ShellCommand.exited] at h ⊢
  rw [attempts]
  cases spawned : uvSpawn a.script (sat.attempts a.script) with
  | true =>
    simp only [spawned, if_true, Option.some.injEq] at h ⊢
    subst h
    refine ⟨⟨pinned.enforced, pinned.commands, pinned.off, ?_⟩, ?_⟩
    · intro child mem
      rcases List.mem_append.mp mem with old | new
      · exact pinned.running child old
      · rw [List.mem_singleton.mp new]
        exact other
    · rw [← cleared_created]
      rfl
  | false =>
    simp only [spawned, Bool.false_eq_true, if_false] at h ⊢
    have ignored (sat₁ : Satellite) (off : sat₁.currentState.safemode = 0) :
        a.done onEvent (decide ((-1 : Int) = 0)) sat₁ = some sat₁ := by
      cases a with
      | enterSafeMode reason => exact absurd rfl other
      | leaveManualMode => exact if_neg fun safe => safe off
      | _ => rfl
    rw [ignored ((sat.created id a false).record (.exited id a (-1))) pinned.off,
      Option.bind_some] at h
    rw [ignored ((sat.cleared.created id a false).record (.exited id a (-1))) pinned.off,
      Option.bind_some]
    obtain rfl := Option.some.inj h
    refine ⟨⟨pinned.enforced, pinned.commands, pinned.off, pinned.running⟩, ?_⟩
    simp only [cleared, removeAction, created, Satellite.record, List.map_append, List.map_cons,
      List.map_nil]
    rfl

theorem shadowed_perform {n : ℕ}
    (calls : ∀ e, Shadowed (Satellite.onEvent uvSpawn n e)) {a : Action} (reason : a.HasReason)
    (id : ℕ) : Shadowed (a.perform uvSpawn (Satellite.onEvent uvSpawn n) id) := by
  cases a with
  | enterSafeMode r =>
    intro sat sat' pinned h
    obtain ⟨sat₁, signal, _⟩ := Option.bind_eq_some_iff.mp h
    have stuck : Satellite.onEvent uvSpawn n (.safeModeSignal r) sat = none :=
      enforced_cut_off n rfl pinned.enforced pinned.commands reason
    cases stuck.symm.trans signal
  | enterManualMode | leaveManualMode | leaveSafeMode | finishLEOP =>
    exact (calls _).bind (shadowed_script (by decide) id)
  | shellCommand | triggerMeasuring | triggerDetumbling | triggerSunpointing =>
    exact shadowed_script (by simp [Action.script]) id

private theorem shadowed_performActions {n : ℕ}
    (calls : ∀ e, Shadowed (Satellite.onEvent uvSpawn n e)) {as : List Action}
    (reasons : ∀ a ∈ as, a.HasReason) :
    Shadowed (performActions uvSpawn (Satellite.onEvent uvSpawn n) as) := by
  induction as with
  | nil =>
    intro sat sat' pinned h
    obtain rfl := Option.some.inj h
    exact ⟨pinned, rfl⟩
  | cons a as ih =>
    intro sat sat' pinned h
    have prepared : (sat.prepared a).cleared = sat.cleared.prepared a := cleared_record _ _
    rw [performActions_cons] at h ⊢
    rw [← prepared]
    have pinned₁ : Pinned (sat.prepared a) :=
      ⟨pinned.enforced, pinned.commands, pinned.off, pinned.running⟩
    have head := shadowed_perform calls (reasons a (by simp)) sat.nextId
    exact head.bind (ih fun b hb => reasons b (by simp [hb])) _ _ pinned₁ h

theorem hasReason_transformTo {s target : State} {a : Action}
    (mem : a ∈ (s.transformTo target).2) : a.HasReason := by
  rw [State.transformTo_eq] at mem
  simp only [List.mem_append] at mem
  rcases mem with (((computer | manual) | safe) | leop) | autonomous
  · obtain ⟨request, _, rfl⟩ := List.mem_map.mp computer
    trivial
  · unfold State.manualmodeRules at manual
    split_ifs at manual <;> simp_all [Action.HasReason]
  · unfold State.safemodeRules at safe
    split_ifs at safe <;> simp_all [Action.HasReason]
  · unfold State.leopRules at leop
    split_ifs at leop <;> simp_all [Action.HasReason]
  · exact State.hasReason_of_mem_autonomousRules autonomous

theorem transformTo_keeps (s target : State) :
    (s.transformTo target).1.enforcedSafemode = s.enforcedSafemode ∧
      (s.transformTo target).1.computer = s.computer ∧
      (s.transformTo target).1.safemode = s.safemode := by
  rw [State.transformTo_eq]
  unfold State.leopRules
  split_ifs <;> exact ⟨rfl, rfl, rfl⟩

/-- With the flag on, a call of `on_event` that returns does what it does with the flag off. -/
theorem shadowed_onEvent (n : ℕ) (e : Event) : Shadowed (Satellite.onEvent uvSpawn n e) := by
  induction n generalizing e with
  | zero =>
    intro sat sat' _ h
    cases h
  | succ n ih =>
    intro sat sat' pinned h
    have body : Satellite.onEvent uvSpawn (n + 1) = onEventBody uvSpawn (Satellite.onEvent uvSpawn n) := rfl
    have table {s target target' : State} (off : s.safemode = 0)
        (enforced : s.enforcedSafemode = true) (commands : s.computer.shellCommands = [])
        (same : target'.cleared = target.cleared)
        (run : performActions uvSpawn (Satellite.onEvent uvSpawn n) (s.transformTo target).2
          ((sat.record (.event e sat.currentState)).setState (s.transformTo target).1) =
            some sat') :
        Pinned sat' ∧ performActions uvSpawn (Satellite.onEvent uvSpawn n)
          (s.cleared.transformTo target').2
          ((sat.cleared.record (.event e sat.currentState.cleared)).setState
            (s.cleared.transformTo target').1) = some sat'.cleared := by
      obtain ⟨enforced', computer', off'⟩ := transformTo_keeps s target
      rw [transformTo_cleared off same]
      have pinned₁ : Pinned ((sat.record (.event e sat.currentState)).setState
          (s.transformTo target).1) :=
        ⟨enforced'.trans enforced, computer' ▸ commands, off'.trans off, pinned.running⟩
      have shadow := shadowed_performActions ih (fun a mem => hasReason_transformTo mem) _ _
        pinned₁ run
      refine ⟨shadow.1, ?_⟩
      rw [← shadow.2]
      simp only [cleared, Satellite.record, setState, List.map_append, List.map_cons, List.map_nil]
      rfl
    cases fact : e.isFact with
    | true =>
      have off : (e.update sat.currentState).safemode = 0 := by
        by_contra safe
        have stuck : Satellite.onEvent uvSpawn (n + 1) e sat = none :=
          enforced_cut_off (n + 1) fact pinned.enforced pinned.commands safe
        cases stuck.symm.trans h
      have kept : (e.update sat.currentState).enforcedSafemode = true ∧
          (e.update sat.currentState).computer.shellCommands = [] := by
        have enforced := pinned.enforced
        have commands := pinned.commands
        cases e <;> first
          | exact ⟨enforced, commands⟩
          | simp [Event.isFact] at fact
      have update : e.update sat.cleared.currentState = (e.update sat.currentState).cleared := by
        cases e <;> first
          | rfl
          | simp [Event.isFact] at fact
      rw [body] at h ⊢
      simp only [onEventBody, fact, if_true, currentState_record] at h ⊢
      rw [update]
      exact table off kept.1 kept.2 (by rfl) h
    | false =>
      have same : (e.update sat.cleared.currentState).cleared = (e.update sat.currentState).cleared := by
        cases e <;> rfl
      rw [body] at h ⊢
      simp only [onEventBody, fact, Bool.false_eq_true, if_false, currentState_record] at h ⊢
      exact table pinned.off pinned.enforced pinned.commands same h

private theorem shadowed_done (n : ℕ) (a : Action) (success : Bool) :
    Shadowed (a.done (Satellite.onEvent uvSpawn n) success) := by
  have quiet : Shadowed some := by
    intro sat sat' pinned h
    obtain rfl := Option.some.inj h
    exact ⟨pinned, rfl⟩
  cases a with
  | leaveManualMode =>
    intro sat sat' pinned h
    have ignored (sat₁ : Satellite) (off : sat₁.currentState.safemode = 0) :
        LeaveManualMode.done (Satellite.onEvent uvSpawn n) sat₁ = some sat₁ :=
      if_neg fun safe => safe off
    change LeaveManualMode.done _ sat = _ at h
    rw [ignored sat pinned.off] at h
    obtain rfl := Option.some.inj h
    exact ⟨pinned, ignored sat.cleared pinned.off⟩
  | enterSafeMode reason =>
    cases success with
    | true => exact quiet
    | false => exact shadowed_onEvent n (.safeModeSignal 0)
  | triggerDetumbling =>
    cases success with
    | true => exact shadowed_onEvent n (.adcsReqSignal .detumb)
    | false => exact quiet
  | triggerSunpointing =>
    cases success with
    | true => exact shadowed_onEvent n (.adcsReqSignal .sun)
    | false => exact quiet
  | triggerMeasuring =>
    cases success with
    | true => exact shadowed_onEvent n (.payloadSignal .measuring)
    | false => exact quiet
  | shellCommand | enterManualMode | leaveSafeMode | finishLEOP => exact quiet

private theorem shadowed_callback (n : ℕ) (input : Input) :
    Shadowed fun sat => sat.callback (Satellite.onEvent uvSpawn n) input := by
  intro sat sat' pinned h
  have woken := cleared_record sat (.callback sat.currentState)
  cases input with
  | event e =>
    have shadow := shadowed_onEvent n e _ sat' (pinned.record (.callback sat.currentState)) h
    rw [woken] at shadow
    exact shadow
  | exited child exitStatus termSignal =>
    set freed := (sat.record (.callback sat.currentState)).ended child with hfreed
    have pinned₁ : Pinned freed :=
      ⟨pinned.enforced, pinned.commands, pinned.off,
        fun other mem => pinned.running other (List.mem_of_mem_erase mem)⟩
    have same : freed.cleared = (sat.cleared.record (.callback sat.cleared.currentState)).ended
        child := by
      rw [← show (LogEntry.callback sat.currentState).cleared =
        .callback sat.cleared.currentState from rfl, ← woken]
      rfl
    simp only [callback] at h ⊢
    rw [← hfreed] at h
    rw [← same]
    by_cases reported : termSignal ≠ SIGTERM
    · rw [if_pos reported] at h ⊢
      have close : Shadowed fun sat => some ((sat.record
          (.finished child.id (exitStatus = 0))).removeAction child.id) := by
        intro sat₁ sat₂ pinned₁ h
        obtain rfl := Option.some.inj h
        refine ⟨⟨pinned₁.enforced, pinned₁.commands, pinned₁.off, pinned₁.running⟩, ?_⟩
        simp only [cleared, removeAction, Satellite.record, List.map_append, List.map_cons,
          List.map_nil]
        rfl
      have done : Shadowed fun sat =>
          (child.action.done (Satellite.onEvent uvSpawn n) (exitStatus = 0) sat).bind _ :=
        (shadowed_done n child.action (exitStatus = 0)).bind close
      have shadow := done _ sat' (pinned₁.record (.exited child.id child.action exitStatus)) h
      rw [cleared_record] at shadow
      exact shadow
    · rw [if_neg reported] at h ⊢
      obtain rfl := Option.some.inj h
      exact ⟨pinned₁, rfl⟩

private theorem new_pinned (args : Arguments) : Pinned (Satellite.new args true) :=
  ⟨rfl, rfl, rfl, fun _ mem => by cases mem⟩

theorem step_shadowed {input : Input} (pinned : Pinned sat)
    (h : Step uvSpawn sat input sat') :
    Pinned sat' ∧ Step uvSpawn sat.cleared input sat'.cleared := by
  obtain ⟨enabled, n, call⟩ := h
  obtain ⟨pinned', call'⟩ := shadowed_callback n input sat sat' pinned call
  refine ⟨pinned', ?_, n, call'⟩
  cases input <;> exact enabled

def clearedTransition (t : Transition Satellite Input) : Transition Satellite Input :=
  ⟨t.source.cleared, t.label, t.target.cleared⟩

/-- A run with the flag on is a run with the flag off. -/
theorem run_shadowed {args : Arguments} {ts : List (Transition Satellite Input)}
    (run : Run (Step uvSpawn) (Satellite.new args true) ts sat) :
    Pinned sat ∧
      Run (Step uvSpawn) (Satellite.new args false) (ts.map clearedTransition) sat.cleared := by
  induction run with
  | nil => exact ⟨new_pinned args, .nil⟩
  | snoc _ hs ih =>
    obtain ⟨pinned', step⟩ := step_shadowed ih.1 hs
    refine ⟨pinned', ?_⟩
    rw [List.map_append]
    exact ih.2.snoc step

theorem Reachable.steady {args : Arguments} {enforced : Bool}
    (reachable : Reachable (Step uvSpawn) (Satellite.new args enforced) sat)
    (entered : sat.currentState.safemode ≠ 0 ∨
      ∃ child ∈ sat.running, child.action.script = .enterSafemode) :
    sat.currentState.Steady := by
  obtain ⟨ts, run⟩ := reachable
  cases enforced with
  | false => exact run_steady run
  | true =>
    have pinned := (run_shadowed run).1
    rcases entered with safe | ⟨child, mem, script⟩
    · exact absurd pinned.off safe
    · exact absurd script (pinned.running child mem)

private theorem strays_cleared (sat : Satellite) (input : Input) :
    sat.cleared.Strays uvSpawn input ↔ sat.Strays uvSpawn input := by
  have attempts := attempts_cleared sat
  cases input with
  | event e =>
    unfold Strays EventStrays
    simp only [enterAttempts, leaveStarts, attempts]
    cases e with
    | manualModeReq wanted => cases wanted <;> exact Iff.rfl
    | safeModeReq wanted => cases wanted <;> exact Iff.rfl
    | _ => exact Iff.rfl
  | exited child exitStatus termSignal =>
    unfold Strays DoneStrays
    simp only [enterAttempts, attempts]
    cases child.action <;> exact Iff.rfl

private theorem strayFree_cleared (sat : Satellite) : sat.cleared.StrayFree ↔ sat.StrayFree := by
  unfold StrayFree
  rw [launches_cleared]
  constructor
  · intro free l mem
    exact free l.cleared (List.mem_map_of_mem mem)
  · intro free l mem
    obtain ⟨l', mem', rfl⟩ := List.mem_map.mp mem
    exact free l' mem'

/-- Over a run: no trigger was started outside normal operation exactly if no
callback of the run met a state that makes it start one. -/
theorem strayFree_iff (uvSpawn : Script → ℕ → Bool) (args : Arguments) (enforced : Bool)
    {ts : List (Transition Satellite Input)}
    (run : Run (Step uvSpawn) (Satellite.new args enforced) ts sat) :
    (∀ l ∈ sat.launches, l.action.isTrigger = true →
      l.state.safemode = 0 ∧ l.state.manualmode = false) ↔
    ∀ t ∈ ts, ¬ t.source.Strays uvSpawn t.label := by
  cases enforced with
  | false => exact run_strayFree_iff run
  | true =>
    have shadow := run_strayFree_iff (run_shadowed run).2
    rw [strayFree_cleared, List.forall_mem_map] at shadow
    refine shadow.trans (forall₂_congr fun t _ => not_congr ?_)
    exact strays_cleared t.source t.label

theorem strayFree_iff_alarm :
    ∃ ts sat, Run (Step fun _ _ => true) (Satellite.new {} false) ts sat ∧
      ts.map Transition.label = [.event (.thmSignal .alarm)] ∧
      ((∀ l ∈ sat.launches, l.action.isTrigger = true →
        l.state.safemode = 0 ∧ l.state.manualmode = false) ↔
      ∀ t ∈ ts, ¬ t.source.Strays (fun _ _ => true) t.label) := by
  obtain ⟨ts, sat, run, labels, _⟩ := exists_run (fun _ _ => true) 4 (Satellite.new {} false)
    [.event (.thmSignal .alarm)] (fun _ => true) (by decide +kernel)
  exact ⟨ts, sat, run, labels, strayFree_iff _ _ _ run⟩

/-- An alarm enters safemode, and then starts to detumble all the same. -/
theorem stray_on_alarm :
    ¬ ∀ (uvSpawn : Script → ℕ → Bool) (args : Arguments) (enforced : Bool)
      (ts : List (Transition Satellite Input)) (sat : Satellite),
      Run (Step uvSpawn) (Satellite.new args enforced) ts sat →
      ∀ l ∈ sat.launches, l.action.isTrigger = true →
        l.state.safemode = 0 ∧ l.state.manualmode = false := by
  intro claim
  obtain ⟨ts, sat, run, _, stray⟩ := exists_run (fun _ _ => true) 4 (Satellite.new {} false)
    [.event (.thmSignal .alarm)]
    (fun sat => sat.launches.any fun l => l.action.isTrigger && l.state.safemode != 0) (by decide +kernel)
  obtain ⟨l, mem, stray⟩ := List.any_eq_true.mp stray
  rw [Bool.and_eq_true, bne_iff_ne] at stray
  exact stray.2 (claim _ _ _ ts sat run l mem stray.1).1

end Satellite

end Horst
