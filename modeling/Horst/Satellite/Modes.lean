import Horst.Satellite.Scope

/-!
Manualmode and the LEOP sequence: only the requests for them change them, and only
such a request starts the script that belongs to it.
-/

set_option autoImplicit false
set_option relaxedAutoImplicit false

namespace Horst

open Foundation Foundation.Nested

/-- The state that a callback is meant to lead to, as far as it is asked for one. -/
def Input.target : Input → State → State
  | .event e, s => e.update s
  | .exited _ _ _, s => s

/-- The actions that a callback may start: those that settle the state, leaving
safemode, and those that belong to the change of mode it was asked for. -/
def Input.Starts (input : Input) (s : State) (a : Action) : Prop :=
  a.Settling ∨ (a = .enterManualMode ∧ (input.target s).manualmode = true ∧ s.manualmode = false) ∨
    (a = .leaveManualMode ∧ (input.target s).manualmode = false ∧ s.manualmode = true) ∨
    a = .leaveSafeMode ∨ (a = .finishLEOP ∧ (input.target s).leop = .done ∧ s.leop ≠ .done)

def Action.manualmodeAfter : Action → Bool → Bool
  | .enterManualMode, _ => true
  | .leaveManualMode, _ => false
  | .shellCommand _ _, mode | .enterSafeMode _, mode | .leaveSafeMode, mode | .finishLEOP, mode
  | .triggerMeasuring, mode | .triggerDetumbling, mode | .triggerSunpointing, mode => mode

def Action.leopAfter : Action → LeopSeq → LeopSeq
  | .finishLEOP, _ => .done
  | .shellCommand _ _, leop | .enterManualMode, leop | .leaveManualMode, leop
  | .enterSafeMode _, leop | .leaveSafeMode, leop | .triggerMeasuring, leop
  | .triggerDetumbling, leop | .triggerSunpointing, leop => leop

private theorem Action.Settling.manualmodeAfter {a : Action} (settling : a.Settling) (mode : Bool) :
    a.manualmodeAfter mode = mode := by
  cases a <;> first
    | rfl
    | exact settling.elim

private theorem Action.Settling.leopAfter {a : Action} (settling : a.Settling) (leop : LeopSeq) :
    a.leopAfter leop = leop := by
  cases a <;> first
    | rfl
    | exact settling.elim

private theorem foldl_settling {as : List Action} (settling : ∀ a ∈ as, a.Settling) (s : State) :
    as.foldl (fun mode a => a.manualmodeAfter mode) s.manualmode = s.manualmode ∧
      as.foldl (fun leop a => a.leopAfter leop) s.leop = s.leop := by
  induction as with
  | nil => exact ⟨rfl, rfl⟩
  | cons a as ih =>
    have here := settling a List.mem_cons_self
    rw [List.foldl_cons, List.foldl_cons, here.manualmodeAfter, here.leopAfter]
    exact ih fun b mem => settling b (List.mem_cons_of_mem a mem)

namespace Satellite

structure Settled (sat sat' : Satellite) : Prop where
  manualmode : sat'.currentState.manualmode = sat.currentState.manualmode
  leop : sat'.currentState.leop = sat.currentState.leop
  running : ∀ child ∈ sat'.running, child ∈ sat.running ∨ child.action.Settling
  launches : ∃ ls, sat'.launches = sat.launches ++ ls ∧ ∀ l ∈ ls, l.action.Settling

variable {uvSpawn : Script → ℕ → Bool} {sat sat₁ sat₂ sat' : Satellite}

theorem Settled.refl (sat : Satellite) : Settled sat sat :=
  ⟨rfl, rfl, fun _ mem => Or.inl mem, [], (List.append_nil _).symm, fun _ mem => by cases mem⟩

theorem Settled.trans (first : Settled sat sat₁) (second : Settled sat₁ sat') :
    Settled sat sat' := by
  obtain ⟨ls₁, append₁, all₁⟩ := first.launches
  obtain ⟨ls₂, append₂, all₂⟩ := second.launches
  refine ⟨second.manualmode.trans first.manualmode, second.leop.trans first.leop, ?_,
    ls₁ ++ ls₂, ?_, ?_⟩
  · intro child mem
    rcases second.running child mem with early | settling
    · exact first.running child early
    · exact Or.inr settling
  · rw [append₂, append₁, List.append_assoc]
  · intro l mem
    rcases List.mem_append.mp mem with mem | mem
    · exact all₁ l mem
    · exact all₂ l mem

private theorem settled_state
    (running : sat'.running = sat.running) (launches : sat'.launches = sat.launches)
    (manualmode : sat'.currentState.manualmode = sat.currentState.manualmode)
    (leop : sat'.currentState.leop = sat.currentState.leop) : Settled sat sat' := by
  refine ⟨manualmode, leop, ?_, [], ?_, fun _ mem => by cases mem⟩
  · intro child mem
    exact Or.inl (running ▸ mem)
  · rw [launches, List.append_nil]

theorem pass_fact_state {e : Event} (fact : e.isFact = true) (s : State) :
    (s.pass e).1 = e.update s := by
  rw [State.pass_fact fact, State.transformTo_eq, State.leopRules_same rfl]

theorem pass_request_state {e : Event} (request : e.isFact = false) (s : State) :
    (s.pass e).1 = s.requestState e := by
  rw [State.pass_request request, State.transformTo_eq]
  cases e with
  | leopReq wanted => rw [State.leopRules_leopReq]
  | manualModeReq | safeModeReq | payloadReq | controlMessage =>
    rw [State.leopRules_same (by rfl)]
    rfl
  | _ => cases request

private theorem kept_settled : Kept uvSpawn Scope.inner Settled where
  refl := Settled.refl
  trans := Settled.trans
  heard sat e inner := by
    have running : (sat.heard e).running = sat.running := rfl
    have state : (sat.heard e).currentState = (sat.currentState.pass e).1 := rfl
    have modes : (sat.currentState.pass e).1.manualmode = sat.currentState.manualmode ∧
        (sat.currentState.pass e).1.leop = sat.currentState.leop := by
      rcases inner with ⟨reason, rfl⟩ | ⟨mode, rfl⟩ | rfl
      · rw [pass_fact_state rfl]
        exact ⟨rfl, rfl⟩
      · rw [pass_fact_state rfl]
        exact ⟨rfl, rfl⟩
      · rw [pass_request_state rfl]
        exact ⟨rfl, rfl⟩
    rw [← state] at modes
    exact settled_state running (launches_heard sat e) modes.1 modes.2
  unsafed sat := settled_state rfl rfl rfl rfl
  started sat sat₁ a settling before _ := by
    obtain ⟨ls, append, all⟩ := before.launches
    refine ⟨before.manualmode, before.leop, ?_, ls ++ [⟨a, sat₁.currentState, true⟩], ?_, ?_⟩
    · intro child mem
      rcases List.mem_append.mp mem with early | new
      · exact before.running child early
      · rw [List.mem_singleton.mp new]
        exact Or.inr settling
    · rw [launches_started, launches_created, append, launches_prepared, List.append_assoc]
    · intro l mem
      rcases List.mem_append.mp mem with mem | mem
      · exact all l mem
      · rw [List.mem_singleton.mp mem]
        exact settling
  failed sat sat₁ sat₂ a settling before _ after := by
    obtain ⟨ls, append, all⟩ := before.launches
    have launched : Settled sat ((sat₁.created sat.nextId a false).record
        (.exited sat.nextId a (-1))) := by
      refine ⟨before.manualmode, before.leop, before.running,
        ls ++ [⟨a, sat₁.currentState, false⟩], ?_, ?_⟩
      · rw [launches_record, launches_created, append, launches_prepared]
        exact (List.append_nil _).trans (List.append_assoc _ _ _)
      · intro l mem
        rcases List.mem_append.mp mem with mem | mem
        · exact all l mem
        · rw [List.mem_singleton.mp mem]
          exact settling
    have freed : Settled sat₂ (sat₂.freed sat.nextId false) :=
      settled_state rfl (launches_freed sat₂ sat.nextId false) rfl rfl
    exact (launched.trans after).trans freed

/-- What performing any action does to the modes, and what it starts besides its own script. -/
structure Performed (sat : Satellite) (a : Action) (sat' : Satellite) : Prop where
  manualmode : sat'.currentState.manualmode = a.manualmodeAfter sat.currentState.manualmode
  leop : sat'.currentState.leop = a.leopAfter sat.currentState.leop
  running : ∀ child ∈ sat'.running,
    child ∈ sat.running ∨ child.action.Settling ∨ child.action = a
  launches : ∃ ls, sat'.launches = sat.launches ++ ls ∧
    ∀ l ∈ ls, l.action.Settling ∨ l.action = a

theorem Settled.performed {a : Action} (settled : Settled sat sat') (settling : a.Settling) :
    Performed sat a sat' := by
  obtain ⟨ls, append, all⟩ := settled.launches
  refine ⟨?_, ?_, ?_, ls, append, fun l mem => Or.inl (all l mem)⟩
  · rw [settling.manualmodeAfter, settled.manualmode]
  · rw [settling.leopAfter, settled.leop]
  · intro child mem
    rcases settled.running child mem with early | new
    · exact Or.inl early
    · exact Or.inr (Or.inl new)

private theorem performed_signal {n : ℕ} {a : Action} {f : Event} (fact : f.isFact = true)
    (manualmode : ∀ s : State, (f.update s).manualmode = a.manualmodeAfter s.manualmode)
    (leop : ∀ s : State, (f.update s).leop = a.leopAfter s.leop)
    (h : (onEvent uvSpawn n f (sat.prepared a)).bind
      (ShellCommand.perform uvSpawn (onEvent uvSpawn n) sat.nextId a) = some sat') :
    Performed sat a sat' := by
  obtain ⟨sat₁, signal, script⟩ := Option.bind_eq_some_iff.mp h
  have kept : Kept uvSpawn Scope.inner Settled := kept_settled
  have lists : ∀ b ∈ ((sat.prepared a).currentState.pass f).2, b.Settling := fun b mem =>
    State.settling_of_mem_pass (Or.inl fact) mem
  have settled := kept.call_heard n lists signal
  have state : ((sat.prepared a).heard f).currentState = f.update sat.currentState :=
    pass_fact_state fact sat.currentState
  have manualmode₁ : sat₁.currentState.manualmode = a.manualmodeAfter sat.currentState.manualmode := by
    rw [settled.manualmode, state, manualmode]
  have leop₁ : sat₁.currentState.leop = a.leopAfter sat.currentState.leop := by
    rw [settled.leop, state, leop]
  have running₁ : ∀ child ∈ sat₁.running, child ∈ sat.running ∨ child.action.Settling :=
    settled.running
  obtain ⟨ls, append, all⟩ := settled.launches
  rw [launches_heard, launches_prepared] at append
  rcases ShellCommand.perform_inv script with ⟨_, rfl⟩ | ⟨_, exits⟩
  · refine ⟨manualmode₁, leop₁, ?_, ls ++ [⟨a, sat₁.currentState, true⟩], ?_, ?_⟩
    · intro child mem
      rcases List.mem_append.mp mem with early | own
      · rcases running₁ child early with before | settling
        · exact Or.inl before
        · exact Or.inr (Or.inl settling)
      · rw [List.mem_singleton.mp own]
        exact Or.inr (Or.inr rfl)
    · rw [launches_started, launches_created, append, List.append_assoc]
    · intro l mem
      rcases List.mem_append.mp mem with early | own
      · exact Or.inl (all l early)
      · rw [List.mem_singleton.mp own]
        exact Or.inr rfl
  · obtain ⟨sat₂, done, last⟩ := Option.bind_eq_some_iff.mp exits
    have after := kept.done_failed (fun e _ _ mem call => kept.call n mem call) done
    rw [← Option.some.inj last]
    obtain ⟨ls₂, append₂, all₂⟩ := after.launches
    refine ⟨after.manualmode.trans manualmode₁, after.leop.trans leop₁, ?_,
      ls ++ ⟨a, sat₁.currentState, false⟩ :: ls₂, ?_, ?_⟩
    · intro child mem
      rcases after.running child mem with early | settling
      · rcases running₁ child early with before | settling
        · exact Or.inl before
        · exact Or.inr (Or.inl settling)
      · exact Or.inr (Or.inl settling)
    · change (sat₂.freed sat.nextId false).launches = _
      rw [launches_freed, append₂, launches_record, launches_created, append]
      simp [LogEntry.launch?]
    · intro l mem
      rcases List.mem_append.mp mem with early | late
      · exact Or.inl (all l early)
      · rcases List.mem_cons.mp late with rfl | late
        · exact Or.inr rfl
        · exact Or.inl (all₂ l late)

theorem performed {n : ℕ} {a : Action}
    (h : a.perform uvSpawn (onEvent uvSpawn n) sat.nextId (sat.prepared a) = some sat') :
    Performed sat a sat' := by
  have kept : Kept uvSpawn Scope.inner Settled := kept_settled
  have settling (yes : a.Settling) : Performed sat a sat' :=
    (kept.perform (fun e _ _ mem call => kept.call n mem call) yes h).performed yes
  cases a with
  | enterManualMode | leaveManualMode | leaveSafeMode | finishLEOP =>
    exact performed_signal rfl (fun _ => rfl) (fun _ => rfl) h
  | shellCommand | enterSafeMode | triggerMeasuring | triggerDetumbling | triggerSunpointing =>
    exact settling trivial

private theorem performed_all {n : ℕ} {as : List Action}
    (h : performActions uvSpawn (onEvent uvSpawn n) as sat = some sat') :
    sat'.currentState.manualmode =
        as.foldl (fun mode a => a.manualmodeAfter mode) sat.currentState.manualmode ∧
      sat'.currentState.leop = as.foldl (fun leop a => a.leopAfter leop) sat.currentState.leop ∧
      (∀ child ∈ sat'.running, child ∈ sat.running ∨ child.action.Settling ∨ child.action ∈ as) ∧
      ∃ ls, sat'.launches = sat.launches ++ ls ∧
        ∀ l ∈ ls, l.action.Settling ∨ l.action ∈ as := by
  induction as generalizing sat with
  | nil =>
    obtain rfl := Option.some.inj h
    exact ⟨rfl, rfl, fun _ mem => Or.inl mem, [], (List.append_nil _).symm, fun _ mem => by cases mem⟩
  | cons a as ih =>
    rw [performActions_cons] at h
    obtain ⟨sat₁, first, rest⟩ := Option.bind_eq_some_iff.mp h
    have head := performed first
    obtain ⟨manualmode, leop, running, ls, append, all⟩ := ih rest
    obtain ⟨ls₁, append₁, all₁⟩ := head.launches
    refine ⟨?_, ?_, ?_, ls₁ ++ ls, ?_, ?_⟩
    · rw [manualmode, head.manualmode, List.foldl_cons]
    · rw [leop, head.leop, List.foldl_cons]
    · intro child mem
      rcases running child mem with early | settling | listed
      · rcases head.running child early with before | settling | own
        · exact Or.inl before
        · exact Or.inr (Or.inl settling)
        · exact Or.inr (Or.inr (by rw [own]; exact List.mem_cons_self))
      · exact Or.inr (Or.inl settling)
      · exact Or.inr (Or.inr (List.mem_cons_of_mem a listed))
    · rw [append, append₁, List.append_assoc]
    · intro l mem
      rcases List.mem_append.mp mem with early | late
      · rcases all₁ l early with settling | own
        · exact Or.inl settling
        · exact Or.inr (by rw [own]; exact List.mem_cons_self)
      · rcases all l late with settling | listed
        · exact Or.inl settling
        · exact Or.inr (List.mem_cons_of_mem a listed)

end Satellite

private theorem State.transformTo_modes (s target : State) :
    (s.transformTo target).2.foldl (fun mode a => a.manualmodeAfter mode)
        (s.transformTo target).1.manualmode = target.manualmode ∧
      (s.transformTo target).2.foldl (fun leop a => a.leopAfter leop)
        (s.transformTo target).1.leop = target.leop := by
  have computer : ∀ a ∈ s.computer.transformTo target.computer, a.Settling := by
    intro a mem
    obtain ⟨_, _, rfl⟩ := List.mem_map.mp mem
    trivial
  have rules : ∀ a ∈ (s.leopRules target).1.autonomousRules target, a.Settling := fun a mem =>
    State.settling_of_mem_autonomousRules mem
  have safe (mode : Bool) (leop : LeopSeq) :
      (s.safemodeRules target).foldl (fun mode a => a.manualmodeAfter mode) mode = mode ∧
        (s.safemodeRules target).foldl (fun leop a => a.leopAfter leop) leop = leop := by
    unfold State.safemodeRules
    split
    · exact ⟨rfl, rfl⟩
    · split <;> exact ⟨rfl, rfl⟩
  have manual (leop : LeopSeq) :
      (s.manualmodeRules target).foldl (fun mode a => a.manualmodeAfter mode) s.manualmode =
          target.manualmode ∧
        (s.manualmodeRules target).foldl (fun leop a => a.leopAfter leop) leop = leop := by
    unfold State.manualmodeRules
    cases target.manualmode <;> cases s.manualmode <;> exact ⟨rfl, rfl⟩
  have leop (mode : Bool) :
      (s.leopRules target).1.manualmode = s.manualmode ∧
        (s.leopRules target).2.foldl (fun mode a => a.manualmodeAfter mode) mode = mode ∧
        (s.leopRules target).2.foldl (fun leop a => a.leopAfter leop) (s.leopRules target).1.leop =
          target.leop := by
    unfold State.leopRules
    split_ifs with different done
    · exact ⟨rfl, rfl, done.symm⟩
    · exact ⟨rfl, rfl, rfl⟩
    · exact ⟨rfl, rfl, (not_not.mp different).symm⟩
  have quiet (as : List Action) (settling : ∀ a ∈ as, a.Settling) (mode : Bool) (leop : LeopSeq) :
      as.foldl (fun mode a => a.manualmodeAfter mode) mode = mode ∧
        as.foldl (fun leop a => a.leopAfter leop) leop = leop :=
    foldl_settling settling { s with manualmode := mode, leop := leop }
  rw [State.transformTo_eq]
  simp only [List.foldl_append]
  constructor
  · rw [(leop true).1, (quiet _ computer _ s.leop).1, (manual s.leop).1, (safe _ s.leop).1,
      (leop _).2.1, (quiet _ rules _ s.leop).1]
  · rw [(quiet _ computer true _).2, (manual _).2, (safe true _).2, (leop true).2.2,
      (quiet _ rules true _).2]

private theorem State.mem_transformTo {s target : State} {a : Action}
    (mem : a ∈ (s.transformTo target).2) :
    a.Settling ∨ (a = .enterManualMode ∧ target.manualmode = true ∧ s.manualmode = false) ∨
      (a = .leaveManualMode ∧ target.manualmode = false ∧ s.manualmode = true) ∨
      a = .leaveSafeMode ∨ (a = .finishLEOP ∧ target.leop = .done ∧ s.leop ≠ .done) := by
  rw [State.transformTo_eq] at mem
  simp only [List.mem_append] at mem
  rcases mem with (((computer | manual) | safe) | leop) | autonomous
  · obtain ⟨_, _, rfl⟩ := List.mem_map.mp computer
    exact Or.inl trivial
  · unfold State.manualmodeRules at manual
    split_ifs at manual with enter leave
    · exact Or.inr (Or.inl ⟨List.mem_singleton.mp manual, enter⟩)
    · exact Or.inr (Or.inr (Or.inl ⟨List.mem_singleton.mp manual, leave⟩))
    · cases manual
  · unfold State.safemodeRules at safe
    split_ifs at safe
    · rw [List.mem_singleton.mp safe]
      exact Or.inl trivial
    · exact Or.inr (Or.inr (Or.inr (Or.inl (List.mem_singleton.mp safe))))
    · cases safe
  · unfold State.leopRules at leop
    split_ifs at leop with different done
    · refine Or.inr (Or.inr (Or.inr (Or.inr ⟨List.mem_singleton.mp leop, done, ?_⟩)))
      exact fun same => different (done.trans same.symm)
    · cases leop
    · cases leop
  · exact Or.inl (State.settling_of_mem_autonomousRules autonomous)

namespace Satellite

variable {uvSpawn : Script → ℕ → Bool} {sat sat₁ sat' : Satellite}

/-- What a callback makes of the modes, and what it starts. -/
structure Answered (sat : Satellite) (input : Input) (sat' : Satellite) : Prop where
  manualmode : sat'.currentState.manualmode = (input.target sat.currentState).manualmode
  leop : sat'.currentState.leop = (input.target sat.currentState).leop
  running : ∀ child ∈ sat'.running,
    child ∈ sat.running ∨ input.Starts sat.currentState child.action
  launches : ∃ ls, sat'.launches = sat.launches ++ ls ∧
    ∀ l ∈ ls, input.Starts sat.currentState l.action

private theorem starts_of_mem_pass {e : Event} {s : State} {a : Action} (mem : a ∈ (s.pass e).2) :
    (Input.event e).Starts s a := by
  cases fact : e.isFact with
  | true => exact Or.inl (State.settling_of_mem_pass (Or.inl fact) mem)
  | false =>
    rw [State.pass_request fact] at mem
    exact State.mem_transformTo mem

private theorem answered_event {n : ℕ} {e : Event}
    (h : sat.callback (onEvent uvSpawn n) (.event e) = some sat') :
    Answered sat (.event e) sat' := by
  set woken := sat.record (.callback sat.currentState) with hwoken
  have launches : woken.launches = sat.launches :=
    (launches_record sat _).trans (List.append_nil _)
  cases n with
  | zero => cases h
  | succ n =>
    change onEventBody uvSpawn (onEvent uvSpawn n) e woken = some sat' at h
    rw [onEventBody_eq] at h
    obtain ⟨manualmode, leop, running, ls, append, all⟩ := performed_all h
    have modes : sat'.currentState.manualmode = (e.update sat.currentState).manualmode ∧
        sat'.currentState.leop = (e.update sat.currentState).leop := by
      rw [manualmode, leop]
      cases fact : e.isFact with
      | true =>
        change (sat.currentState.pass e).2.foldl _ (sat.currentState.pass e).1.manualmode = _ ∧
          (sat.currentState.pass e).2.foldl _ (sat.currentState.pass e).1.leop = _
        rw [State.pass_fact fact]
        exact State.transformTo_modes _ _
      | false =>
        change (sat.currentState.pass e).2.foldl _ (sat.currentState.pass e).1.manualmode = _ ∧
          (sat.currentState.pass e).2.foldl _ (sat.currentState.pass e).1.leop = _
        rw [State.pass_request fact]
        exact State.transformTo_modes _ _
    refine ⟨modes.1, modes.2, ?_, ls, ?_, ?_⟩
    · intro child mem
      rcases running child mem with early | settling | listed
      · exact Or.inl early
      · exact Or.inr (Or.inl settling)
      · exact Or.inr (starts_of_mem_pass listed)
    · rw [append, launches_heard, launches]
    · intro l mem
      rcases all l mem with settling | listed
      · exact Or.inl settling
      · exact starts_of_mem_pass listed

private theorem settled_reported (sat : Satellite) (a : Action) (success : Bool) :
    Settled sat (sat.reported a success) := by
  rcases reported_cases sat a success with same | ⟨e, report, heard⟩
  · rw [same]
    exact Settled.refl sat
  · rw [heard]
    have state (e : Event) (fact : e.isFact = true) :
        (sat.heard e).currentState = e.update sat.currentState := pass_fact_state fact _
    have running : (sat.heard e).running = sat.running := rfl
    cases a with
    | triggerDetumbling | triggerSunpointing | triggerMeasuring =>
      obtain rfl := Option.some.inj report
      apply settled_state running (launches_heard sat _)
      · rw [state _ rfl]
        rfl
      · rw [state _ rfl]
        rfl
    | shellCommand | enterManualMode | leaveManualMode | enterSafeMode | leaveSafeMode
    | finishLEOP => cases report

theorem Settled.answered (settled : Settled sat sat') {child : Child} {exitStatus termSignal : Int} :
    Answered sat (.exited child exitStatus termSignal) sat' := by
  obtain ⟨ls, append, all⟩ := settled.launches
  refine ⟨settled.manualmode, settled.leop, ?_, ls, append, fun l mem => Or.inl (all l mem)⟩
  intro other mem
  rcases settled.running other mem with early | settling
  · exact Or.inl early
  · exact Or.inr (Or.inl settling)

private theorem answered_exited {n : ℕ} {child : Child} {exitStatus termSignal : Int}
    (h : sat.callback (onEvent uvSpawn n) (.exited child exitStatus termSignal) = some sat') :
    Answered sat (.exited child exitStatus termSignal) sat' := by
  set ended := (sat.record (.callback sat.currentState)).ended child with hended
  have launches : ended.launches = sat.launches :=
    (launches_record sat _).trans (List.append_nil _)
  have gone : Settled sat ended := by
    refine ⟨rfl, rfl, ?_, [], ?_, fun _ mem => by cases mem⟩
    · intro other mem
      exact Or.inl (List.mem_of_mem_erase mem)
    · rw [launches, List.append_nil]
  unfold callback at h
  change (if termSignal ≠ SIGTERM then _ else some ended) = some sat' at h
  split at h
  · have kept : Kept uvSpawn Scope.inner Settled := kept_settled
    obtain ⟨sat₁, done, rfl⟩ := kept.exited n h
    have reported : Settled ended (ended.record (.exited child.id child.action exitStatus)) :=
      settled_state rfl ((launches_record ended _).trans (List.append_nil _)) rfl rfl
    have freed : Settled sat₁ (sat₁.freed child.id (exitStatus = 0)) :=
      settled_state rfl (launches_freed sat₁ _ _) rfl rfl
    have told := settled_reported (ended.record (.exited child.id child.action exitStatus))
      child.action (exitStatus = 0)
    exact (gone.trans (reported.trans (told.trans (done.trans freed)))).answered
  · rw [← Option.some.inj h]
    exact gone.answered

theorem answered {input : Input} (h : Step uvSpawn sat input sat') : Answered sat input sat' := by
  obtain ⟨_, n, call⟩ := h
  cases input with
  | event e => exact answered_event call
  | exited child exitStatus termSignal => exact answered_exited call

end Satellite

end Horst
