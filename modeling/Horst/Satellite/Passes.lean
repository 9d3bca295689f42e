import Horst.Foundation.Outcomes
import Horst.Satellite.Model
import Horst.Satellite.Settle

/-!
What a call of `on_event` with a fact does, with all the calls nested in it and
for every pattern of failing `uv_spawn`s: the state it settles in, and the
scripts it starts on the way.
-/

set_option autoImplicit false
set_option relaxedAutoImplicit false

namespace Horst

open Foundation.Nested Foundation.Outcomes

namespace Satellite

variable (uvSpawn : Script → ℕ → Bool)

/-- The outcomes of starting `enter_safemode.sh`. -/
abbrev enterOutcomes : ℕ → Bool := uvSpawn .enterSafemode

/-- The number of attempts at `enter_safemode.sh` so far. -/
abbrev enterAttempts (sat : Satellite) : ℕ := sat.attempts .enterSafemode

/-- A pass over the state `s` reaches a trigger: its rule matches, or it matches
without maneuvermode and a failed `enter_safemode.sh` makes the table run again. -/
def PassTriggers (s : State) (k : ℕ) : Prop :=
  s.Normal ∧ (s.dueTriggers s ≠ [] ∨
    (s.emergency ≠ 0 ∧ enterOutcomes uvSpawn k = false ∧ s.adcsDue ≠ []))

/-- What a completed pass over the state `s` leaves behind. -/
structure Passed (s : State) (sat sat' : Satellite) : Prop where
  state : sat'.currentState = s.settle
  launches : ∃ ls, sat'.launches = sat.launches ++ ls ∧
    (∀ l ∈ ls, l.state = s.settle ∧ s.Normal ∧
      (l.action.isTrigger = true ∨ l.action = .enterSafeMode s.emergency ∧ s.emergency ≠ 0)) ∧
    ((∃ l ∈ ls, l.action.isTrigger = true) ↔ PassTriggers uvSpawn s sat.enterAttempts)
  attempts : if s.Urgent then
      ∃ m, FirstSuccess (enterOutcomes uvSpawn) sat.enterAttempts m ∧ sat'.enterAttempts = m + 1
    else sat'.enterAttempts = sat.enterAttempts

/-- A handler that serves facts as `on_event` should. -/
def ServesFacts (onEvent : Handler Event Satellite) : Prop :=
  ∀ (f : Event) (sat sat' : Satellite), f.isFact = true → sat.currentState.Idle →
    onEvent f sat = some sat' → Passed uvSpawn (f.update sat.currentState) sat sat'

end Satellite

/-- Actions that only run their script and have nothing to undo when it fails. -/
def Action.isPlain : Action → Bool
  | .shellCommand _ _ | .triggerMeasuring | .triggerDetumbling | .triggerSunpointing => true
  | .enterManualMode | .leaveManualMode | .enterSafeMode _ | .leaveSafeMode | .finishLEOP => false

/-- Actions whose callback ignores a failure of the script. -/
def Action.isLenient : Action → Bool
  | .enterSafeMode _ | .leaveManualMode => false
  | .shellCommand _ _ | .enterManualMode | .leaveSafeMode | .finishLEOP | .triggerMeasuring
  | .triggerDetumbling | .triggerSunpointing => true

theorem Action.isPlain_of_isTrigger {a : Action} (h : a.isTrigger = true) : a.isPlain = true := by
  cases a <;> simp_all [Action.isTrigger, Action.isPlain]

theorem Action.isLenient_of_isPlain {a : Action} (h : a.isPlain = true) :
    a.isLenient = true := by
  cases a <;> simp_all [Action.isLenient, Action.isPlain]

private theorem Action.done_of_isLenient (onEvent : Handler Event Satellite) {a : Action}
    (h : a.isLenient = true) (sat : Satellite) : a.done onEvent false sat = some sat := by
  cases a <;> simp_all [Action.isLenient, Action.done, TriggerDetumbling.done,
    TriggerSunpointing.done, TriggerMeasuring.done]

theorem Action.perform_of_isPlain (uvSpawn : Script → ℕ → Bool)
    (onEvent : Handler Event Satellite) (id : ℕ) {a : Action} (h : a.isPlain = true) :
    a.perform uvSpawn onEvent id = ShellCommand.perform uvSpawn onEvent id a := by
  cases a <;> first
    | rfl
    | simp [Action.isPlain] at h

section

variable (uvSpawn : Script → ℕ → Bool)

/-- The entry of the ledger for a script started in the present state. -/
def Satellite.launch (sat : Satellite) (a : Action) : Launch :=
  ⟨a, sat.currentState, uvSpawn a.script (sat.attempts a.script)⟩

private theorem Satellite.launch_congr {sat sat' : Satellite}
    (state : sat'.currentState = sat.currentState) (launches : sat'.launches = sat.launches)
    (a : Action) : sat'.launch uvSpawn a = sat.launch uvSpawn a := by
  simp only [Satellite.launch, state, Satellite.attempts_congr launches]

/-- The satellite once an action of the list has been added and is about to be performed. -/
def Satellite.prepared (sat : Satellite) (a : Action) : Satellite :=
  (sat.addAction a).2.record (.run sat.nextId a sat.currentState)

@[simp] theorem Satellite.currentState_prepared (sat : Satellite) (a : Action) :
    (sat.prepared a).currentState = sat.currentState := rfl

@[simp] theorem Satellite.launches_prepared (sat : Satellite) (a : Action) :
    (sat.prepared a).launches = sat.launches := by
  simp [Satellite.prepared, LogEntry.launch?]

theorem performActions_cons (onEvent : Handler Event Satellite) (a : Action) (as : List Action)
    (sat : Satellite) :
    performActions uvSpawn onEvent (a :: as) sat =
      (a.perform uvSpawn onEvent sat.nextId (sat.prepared a)).bind
        (performActions uvSpawn onEvent as) := rfl

theorem performActions_append (onEvent : Handler Event Satellite) (as bs : List Action)
    (sat : Satellite) :
    performActions uvSpawn onEvent (as ++ bs) sat =
      (performActions uvSpawn onEvent as sat).bind (performActions uvSpawn onEvent bs) := by
  induction as generalizing sat with
  | nil => rfl
  | cons b as ih =>
    rw [List.cons_append, performActions_cons, performActions_cons, Option.bind_assoc]
    exact Option.bind_congr fun sat₁ _ => ih sat₁

variable {uvSpawn} in
theorem ShellCommand.perform_inv {onEvent : Handler Event Satellite} {id : ℕ} {a : Action}
    {sat sat' : Satellite} (h : ShellCommand.perform uvSpawn onEvent id a sat = some sat') :
    uvSpawn a.script (sat.attempts a.script) = true ∧
        sat' = (sat.created id a true).started id a ∨
      uvSpawn a.script (sat.attempts a.script) = false ∧
        ShellCommand.exited onEvent id a (-1) (sat.created id a false) = some sat' := by
  unfold ShellCommand.perform at h
  cases spawned : uvSpawn a.script (sat.attempts a.script) with
  | true =>
    simp only [spawned, if_true] at h
    exact Or.inl ⟨rfl, (Option.some.inj h).symm⟩
  | false =>
    simp only [spawned, Bool.false_eq_true, if_false] at h
    exact Or.inr ⟨rfl, h⟩

theorem ShellCommand.perform_lenient (id : ℕ) {a : Action} (h : a.isLenient = true)
    (sat : Satellite) :
    ∃ sat', (∀ onEvent, ShellCommand.perform uvSpawn onEvent id a sat = some sat') ∧
      sat'.currentState = sat.currentState ∧
      sat'.launches = sat.launches ++ [sat.launch uvSpawn a] := by
  cases spawned : uvSpawn a.script (sat.attempts a.script) with
  | true =>
    refine ⟨(sat.created id a true).started id a, fun onEvent => ?_, rfl, ?_⟩
    · simp only [ShellCommand.perform, spawned, if_true]
    · simp [Satellite.launch, spawned]
  | false =>
    refine ⟨(((sat.created id a false).record (.exited id a (-1))).record
      (.finished id false)).removeAction id, fun onEvent => ?_, rfl, ?_⟩
    · simp only [ShellCommand.perform, spawned, ShellCommand.exited, Bool.false_eq_true, if_false]
      rw [show decide ((-1 : Int) = 0) = false from rfl, Action.done_of_isLenient onEvent h,
        Option.bind_some]
    · simp [Satellite.launch, spawned, LogEntry.launch?]

theorem performActions_plain (as : List Action) (plain : ∀ a ∈ as, a.isPlain = true)
    (sat : Satellite) :
    ∃ sat', (∀ onEvent, performActions uvSpawn onEvent as sat = some sat') ∧
      sat'.currentState = sat.currentState ∧
      ∃ ls, sat'.launches = sat.launches ++ ls ∧ ls.map Launch.action = as ∧
        ∀ l ∈ ls, l.state = sat.currentState := by
  induction as generalizing sat with
  | nil => exact ⟨sat, fun _ => rfl, rfl, [], by simp⟩
  | cons a as ih =>
    have ha : a.isPlain = true := plain a (by simp)
    obtain ⟨sat₁, run₁, state₁, launches₁⟩ :=
      ShellCommand.perform_lenient uvSpawn sat.nextId (Action.isLenient_of_isPlain ha)
        (sat.prepared a)
    obtain ⟨sat₂, run₂, state₂, ls, launches₂, actions, states⟩ :=
      ih (fun b hb => plain b (by simp [hb])) sat₁
    rw [Satellite.currentState_prepared] at state₁
    have same : (sat.prepared a).launch uvSpawn a = sat.launch uvSpawn a :=
      Satellite.launch_congr uvSpawn (by simp) (by simp) a
    rw [Satellite.launches_prepared, same] at launches₁
    refine ⟨sat₂, fun onEvent => ?_, state₂.trans state₁, sat.launch uvSpawn a :: ls, ?_, ?_, ?_⟩
    · rw [performActions_cons, Action.perform_of_isPlain uvSpawn onEvent _ ha, run₁ onEvent,
        Option.bind_some, run₂ onEvent]
    · rw [launches₂, launches₁, List.append_assoc]
      rfl
    · rw [List.map_cons, actions]
      rfl
    · intro l mem
      rcases List.mem_cons.mp mem with rfl | later
      · rfl
      · rw [states l later, state₁]

/-! Passes, one mode at a time. -/

namespace Satellite

variable {uvSpawn} {s : State} {sat sat' : Satellite}

theorem passTriggers_of_urgent (urgent : s.Urgent) (k : ℕ) :
    PassTriggers uvSpawn s k ↔
      s.adcsDue ≠ [] ∧ (s.maneuvermode = false ∨ enterOutcomes uvSpawn k = false) := by
  rw [PassTriggers, State.dueTriggers_of_emergency s urgent.2, State.adcsRules_eq]
  have normal := urgent.1
  have emergency := urgent.2
  cases s.maneuvermode <;> simp [normal, emergency, and_comm]

private theorem passTriggers_of_calm (normal : s.Normal) (calm : s.emergency = 0) (k : ℕ) :
    PassTriggers uvSpawn s k ↔ s.dueTriggers s ≠ [] := by
  simp [PassTriggers, normal, calm]

theorem urgent_enter_zero (urgent : s.Urgent) : (s.enter 0).Urgent :=
  ⟨⟨rfl, urgent.1.2⟩, urgent.2⟩

theorem settle_enter_zero (urgent : s.Urgent) : (s.enter 0).settle = s.settle := by
  rw [State.settle_of_urgent urgent, State.settle_of_urgent (urgent_enter_zero urgent)]
  rfl

theorem Passed.congr {sat₁ sat₁' : Satellite} (h : Passed uvSpawn s sat sat')
    (launches : sat₁.launches = sat.launches) (state : sat₁'.currentState = sat'.currentState)
    (launches' : sat₁'.launches = sat'.launches) : Passed uvSpawn s sat₁ sat₁' := by
  obtain ⟨hs, hl, ha⟩ := h
  refine ⟨state.trans hs, ?_, ?_⟩
  · simpa only [launches, launches', enterAttempts, attempts_congr launches] using hl
  · simpa only [enterAttempts, attempts_congr launches, attempts_congr launches'] using ha

theorem Passed.unchanged (h : Passed uvSpawn s sat sat') (modes : ¬ s.Normal) :
    sat'.currentState = s ∧ sat'.launches = sat.launches := by
  obtain ⟨ls, append, each, _⟩ := h.launches
  have none : ls = [] := List.eq_nil_iff_forall_not_mem.mpr fun l mem => modes (each l mem).2.1
  constructor
  · rw [h.state, State.settle_of_not_urgent (State.not_urgent_of_not_normal modes)]
  · rw [append, none, List.append_nil]

theorem enterAttempts_append {ls : List Launch} (h : sat'.launches = sat.launches ++ ls) :
    sat'.enterAttempts = sat.enterAttempts +
      ls.countP fun l => l.action.script = .enterSafemode :=
  attempts_of_launches h _

private theorem countP_enter_of_triggers {ls : List Launch}
    (h : ∀ l ∈ ls, l.action.isTrigger = true) :
    ls.countP (fun l => l.action.script = .enterSafemode) = 0 := by
  refine List.countP_eq_zero.mpr fun l mem => ?_
  have trigger := h l mem
  cases ha : l.action <;> simp_all [Action.isTrigger, Action.script]

end Satellite

theorem EnterSafeMode.signals_spec {onEvent : Handler Event Satellite}
    (serves : Satellite.ServesFacts uvSpawn onEvent) {reason : UInt8} (nonzero : reason ≠ 0)
    {sat sat₁ sat₂ : Satellite} (idle : sat.currentState.Idle)
    (signal : onEvent (.safeModeSignal reason) sat = some sat₁)
    (maneuver : onEvent (.maneuverModeSignal false) sat₁ = some sat₂) :
    sat₂.currentState = sat.currentState.enter reason ∧ sat₂.launches = sat.launches := by
  obtain ⟨state₁, launches₁⟩ := (serves _ _ _ rfl idle signal).unchanged fun n => nonzero n.1
  have idle₁ : sat₁.currentState.Idle := by
    rw [state₁]
    exact idle.update rfl
  obtain ⟨state₂, launches₂⟩ := (serves _ _ _ rfl idle₁ maneuver).unchanged (by
    rw [state₁]
    exact fun n => nonzero n.1)
  rw [state₁] at state₂
  exact ⟨state₂, launches₂.trans launches₁⟩

theorem EnterSafeMode.perform_calls {onEvent : Handler Event Satellite}
    (serves : Satellite.ServesFacts uvSpawn onEvent) {reason : UInt8} (nonzero : reason ≠ 0)
    (id : ℕ) {sat sat' : Satellite} (idle : sat.currentState.Idle)
    (h : EnterSafeMode.perform uvSpawn onEvent id reason sat = some sat') :
    (Satellite.enterOutcomes uvSpawn sat.enterAttempts = true ∧
      sat'.currentState = sat.currentState.enter reason ∧
      sat'.launches = sat.launches ++
        [⟨.enterSafeMode reason, sat.currentState.enter reason, true⟩]) ∨
    (Satellite.enterOutcomes uvSpawn sat.enterAttempts = false ∧
      ∃ sat₁ sat₂, sat₁.currentState = sat.currentState.enter reason ∧
        sat₁.launches = sat.launches ++
          [⟨.enterSafeMode reason, sat.currentState.enter reason, false⟩] ∧
        onEvent (.safeModeSignal 0) sat₁ = some sat₂ ∧
        sat'.currentState = sat₂.currentState ∧ sat'.launches = sat₂.launches) := by
  obtain ⟨sat₁, signal, rest⟩ := Option.bind_eq_some_iff.mp h
  obtain ⟨sat₂, maneuver, script⟩ := Option.bind_eq_some_iff.mp rest
  obtain ⟨entered, launches⟩ := EnterSafeMode.signals_spec uvSpawn serves nonzero idle signal maneuver
  have attempts : sat₂.attempts .enterSafemode = sat.enterAttempts :=
    Satellite.attempts_congr launches _
  simp only [ShellCommand.perform, Action.script, attempts] at script
  cases spawned : uvSpawn .enterSafemode sat.enterAttempts with
  | true =>
    simp only [spawned, if_true, Option.some.injEq] at script
    subst script
    refine Or.inl ⟨spawned, entered, ?_⟩
    simp [launches, entered]
  | false =>
    simp only [spawned, Bool.false_eq_true, if_false, ShellCommand.exited] at script
    obtain ⟨sat₃, undo, last⟩ := Option.bind_eq_some_iff.mp script
    simp only [Option.some.injEq] at last
    subst last
    set failed := (sat₂.created id (.enterSafeMode reason) false).record
      (.exited id (.enterSafeMode reason) (-1)) with hfailed
    have call : onEvent (.safeModeSignal 0) failed = some sat₃ := undo
    refine Or.inr ⟨spawned, failed, sat₃, entered, ?_, call, rfl, ?_⟩
    · simp [hfailed, launches, entered, LogEntry.launch?]
    · simp [LogEntry.launch?]

/-- Entering safemode: the script starts, or the failure runs the table again
on the state without safemode and maneuvermode. -/
theorem EnterSafeMode.perform_spec {onEvent : Handler Event Satellite}
    (serves : Satellite.ServesFacts uvSpawn onEvent) {reason : UInt8} (nonzero : reason ≠ 0)
    (id : ℕ) {sat sat' : Satellite} (idle : sat.currentState.Idle)
    (h : EnterSafeMode.perform uvSpawn onEvent id reason sat = some sat') :
    (Satellite.enterOutcomes uvSpawn sat.enterAttempts = true ∧
      sat'.currentState = sat.currentState.enter reason ∧
      sat'.launches = sat.launches ++
        [⟨.enterSafeMode reason, sat.currentState.enter reason, true⟩]) ∨
    (Satellite.enterOutcomes uvSpawn sat.enterAttempts = false ∧
      ∃ sat₁, sat₁.launches = sat.launches ++
          [⟨.enterSafeMode reason, sat.currentState.enter reason, false⟩] ∧
        Satellite.Passed uvSpawn (sat.currentState.enter 0) sat₁ sat') := by
  rcases EnterSafeMode.perform_calls uvSpawn serves nonzero id idle h with
    started | ⟨fail, sat₁, sat₂, state₁, launches₁, call, state, launches⟩
  · exact Or.inl started
  · refine Or.inr ⟨fail, sat₁, launches₁, ?_⟩
    have again := serves _ _ _ rfl (by rw [state₁]; exact idle.enter reason) call
    rw [state₁] at again
    exact again.congr rfl state launches

namespace Satellite

variable {uvSpawn}

variable (uvSpawn) in
/-- What the body of `on_event` makes of a fact: the autonomous rules of the updated state. -/
theorem onEventBody_fact (onEvent : Handler Event Satellite) {f : Event}
    (fact : f.isFact = true) {sat : Satellite} (idle : sat.currentState.Idle) :
    onEventBody uvSpawn onEvent f sat =
      performActions uvSpawn onEvent
        ((f.update sat.currentState).autonomousRules (f.update sat.currentState))
        ((sat.record (.event f sat.currentState)).setState (f.update sat.currentState)) := by
  simp only [onEventBody, fact, if_true, currentState_record,
    State.transformTo_self (idle.update fact)]

variable (uvSpawn) in
/-- What the body of `on_event` makes of a request: the actions that meet it, and
the autonomous rules of the state as it was before them. -/
theorem onEventBody_request (onEvent : Handler Event Satellite) {e : Event}
    (request : e.isFact = false) {sat : Satellite} (idle : sat.currentState.Idle) :
    onEventBody uvSpawn onEvent e sat =
      performActions uvSpawn onEvent
        (sat.currentState.requestActions e ++
          (sat.currentState.requestState e).autonomousRules (e.update sat.currentState))
        ((sat.record (.event e sat.currentState)).setState
          (sat.currentState.requestState e)) := by
  simp only [onEventBody, request, Bool.false_eq_true, if_false, currentState_record,
    State.transformTo_request idle request]

theorem performs_request {n : ℕ} {e : Event} (request : e.isFact = false) {sat sat' : Satellite}
    (idle : sat.currentState.Idle) (h : Satellite.onEvent uvSpawn (n + 1) e sat = some sat') :
    performActions uvSpawn (Satellite.onEvent uvSpawn n)
      (sat.currentState.requestActions e ++
        (sat.currentState.requestState e).autonomousRules (e.update sat.currentState))
      ((sat.record (.event e sat.currentState)).setState (sat.currentState.requestState e)) =
      some sat' :=
  (onEventBody_request uvSpawn _ request idle).symm.trans h

variable (uvSpawn) in
theorem performActions_triggers (s target : State) (sat : Satellite) :
    ∃ sat', (∀ onEvent, performActions uvSpawn onEvent (s.dueTriggers target) sat = some sat') ∧
      sat'.currentState = sat.currentState ∧ sat'.enterAttempts = sat.enterAttempts ∧
      ∃ ls, sat'.launches = sat.launches ++ ls ∧
        (∀ l ∈ ls, l.state = sat.currentState ∧ l.action.isTrigger = true) ∧
        ((∃ l ∈ ls, l.action.isTrigger = true) ↔ s.dueTriggers target ≠ []) := by
  obtain ⟨sat', run, state, ls, launches, actions, states⟩ :=
    performActions_plain uvSpawn (s.dueTriggers target)
      (fun a mem => Action.isPlain_of_isTrigger (State.isTrigger_of_mem_dueTriggers mem)) sat
  have triggers : ∀ l ∈ ls, l.action.isTrigger = true := fun l mem =>
    State.isTrigger_of_mem_dueTriggers (actions ▸ List.mem_map_of_mem mem)
  refine ⟨sat', run, state, ?_, ls, launches, fun l mem => ⟨states l mem, triggers l mem⟩, ?_⟩
  · rw [enterAttempts_append launches, countP_enter_of_triggers triggers, Nat.add_zero]
  · rw [← actions]
    cases ls with
    | nil => simp
    | cons l ls => simpa using Or.inl (triggers l (by simp))

private theorem passed_calm {onEvent : Handler Event Satellite} {s : State} {sat sat' : Satellite}
    (calm : ¬ s.Urgent) (state : sat.currentState = s)
    (h : performActions uvSpawn onEvent (s.autonomousRules s) sat = some sat') :
    Passed uvSpawn s sat sat' := by
  have settled : s.settle = s := State.settle_of_not_urgent calm
  by_cases normal : s.Normal
  · have noEmergency : s.emergency = 0 := by
      by_contra nonzero
      exact calm ⟨normal, nonzero⟩
    rw [State.autonomousRules_of_calm s normal noEmergency] at h
    obtain ⟨sat₁, run, state₁, attempts, ls, launches, each, reach⟩ :=
      performActions_triggers uvSpawn s s sat
    obtain rfl : sat₁ = sat' := Option.some.inj ((run onEvent).symm.trans h)
    refine ⟨?_, ⟨ls, launches, fun l mem => ⟨?_, normal, Or.inl (each l mem).2⟩, ?_⟩, ?_⟩
    · rw [state₁, state, settled]
    · rw [(each l mem).1, state, settled]
    · rw [passTriggers_of_calm normal noEmergency, reach]
    · rw [if_neg calm, attempts]
  · rw [State.autonomousRules_of_not_normal s normal] at h
    obtain rfl : sat = sat' := Option.some.inj h
    refine ⟨by rw [state, settled], ⟨[], by simp, by simp, ?_⟩, ?_⟩
    · simp [PassTriggers, normal]
    · rw [if_neg calm]

private theorem entered_urgent
    {onEvent : Handler Event Satellite} (serves : ServesFacts uvSpawn onEvent)
    {s : State} (urgent : s.Urgent) (idle : s.Idle) (id : ℕ) {sat sat' : Satellite}
    (state : sat.currentState = s)
    (h : EnterSafeMode.perform uvSpawn onEvent id s.emergency sat = some sat') :
    sat'.currentState = s.settle ∧
    (∃ m, FirstSuccess (enterOutcomes uvSpawn) sat.enterAttempts m ∧
      sat'.enterAttempts = m + 1) ∧
    ∃ ls, sat'.launches = sat.launches ++ ls ∧
      (∀ l ∈ ls, l.state = s.settle ∧
        (l.action.isTrigger = true ∨ l.action = .enterSafeMode s.emergency)) ∧
      ((∃ l ∈ ls, l.action.isTrigger = true) ↔
        s.adcsDue ≠ [] ∧ enterOutcomes uvSpawn sat.enterAttempts = false) := by
  have settled : s.settle = s.enter s.emergency := State.settle_of_urgent urgent
  have spec := EnterSafeMode.perform_spec uvSpawn serves urgent.2 id (state ▸ idle) h
  rw [state, ← settled] at spec
  rcases spec with ⟨success, state', launches⟩ | ⟨fail, sat₁, launches₁, again⟩
  · refine ⟨state', ⟨_, firstSuccess_self success, ?_⟩, _, launches, ?_, ?_⟩
    · simp [enterAttempts_append launches, Action.script]
    · simp
    · simp [Action.isTrigger, success]
  · have urgent' := urgent_enter_zero urgent
    have attempts₁ : sat₁.enterAttempts = sat.enterAttempts + 1 := by
      simp [enterAttempts_append launches₁, Action.script]
    obtain ⟨ls, launches, each, reach⟩ := again.launches
    have first := again.attempts
    rw [if_pos urgent', attempts₁] at first
    obtain ⟨m, first, attempts⟩ := first
    refine ⟨again.state.trans (settle_enter_zero urgent), ⟨m, first.of_fail fail, attempts⟩,
      ⟨.enterSafeMode s.emergency, s.settle, false⟩ :: ls, ?_, ?_, ?_⟩
    · rw [launches, launches₁, List.append_assoc, List.singleton_append]
    · intro l mem
      rcases List.mem_cons.mp mem with rfl | later
      · exact ⟨rfl, Or.inr rfl⟩
      · obtain ⟨hs, _, kind⟩ := each l later
        exact ⟨hs.trans (settle_enter_zero urgent), kind.imp_right And.left⟩
    · have nested := reach.trans (passTriggers_of_urgent urgent' sat₁.enterAttempts)
      have due : (s.enter 0).adcsDue = s.adcsDue := rfl
      have off : (s.enter 0).maneuvermode = false := rfl
      simp only [due, off, true_or, and_true] at nested
      simpa [Action.isTrigger, fail] using nested

private theorem passed_urgent
    {onEvent : Handler Event Satellite} (serves : ServesFacts uvSpawn onEvent)
    {s : State} {sat sat' : Satellite} (urgent : s.Urgent) (idle : s.Idle)
    (state : sat.currentState = s)
    (h : performActions uvSpawn onEvent (s.autonomousRules s) sat = some sat') :
    Passed uvSpawn s sat sat' := by
  rw [State.autonomousRules_of_urgent s urgent, performActions_cons] at h
  obtain ⟨sat₁, enter, rest⟩ := Option.bind_eq_some_iff.mp h
  obtain ⟨state₁, ⟨m, first, attempts₁⟩, ls₁, launches₁, each₁, reach₁⟩ :=
    entered_urgent serves urgent idle sat.nextId ((currentState_prepared sat _).trans state) enter
  rw [launches_prepared] at launches₁
  rw [enterAttempts, attempts_congr (launches_prepared sat _)] at first reach₁
  obtain ⟨sat₂, run, state₂, attempts₂, ls₂, launches₂, each₂, reach₂⟩ :=
    performActions_triggers uvSpawn s s sat₁
  obtain rfl : sat₂ = sat' := Option.some.inj ((run onEvent).symm.trans rest)
  refine ⟨state₂.trans state₁, ⟨ls₁ ++ ls₂, ?_, ?_, ?_⟩, ?_⟩
  · rw [launches₂, launches₁, List.append_assoc]
  · intro l mem
    rcases List.mem_append.mp mem with early | late
    · obtain ⟨hs, kind⟩ := each₁ l early
      exact ⟨hs, urgent.1, kind.imp_right fun ha => ⟨ha, urgent.2⟩⟩
    · obtain ⟨hs, trigger⟩ := each₂ l late
      exact ⟨hs.trans state₁, urgent.1, Or.inl trigger⟩
  · have split : (∃ l ∈ ls₁ ++ ls₂, l.action.isTrigger = true) ↔
        (∃ l ∈ ls₁, l.action.isTrigger = true) ∨ ∃ l ∈ ls₂, l.action.isTrigger = true := by
      simp only [List.mem_append, or_and_right, exists_or]
    rw [split, reach₁, reach₂, passTriggers_of_urgent urgent,
      State.dueTriggers_of_emergency s urgent.2, State.adcsRules_eq]
    cases s.maneuvermode <;> simp
    exact fun due _ => due
  · rw [if_pos urgent]
    exact ⟨m, first, attempts₂.trans attempts₁⟩

/-- `on_event` serves facts, at every nesting depth. -/
theorem servesFacts_onEvent (n : ℕ) : ServesFacts uvSpawn (onEvent uvSpawn n) := by
  refine depth_induction ?_ (fun nested serves => ?_) n
  · intro f sat sat' _ _ h
    cases h
  · intro f sat sat' fact idle h
    rw [onEventBody_fact uvSpawn nested fact idle] at h
    have launches : ((sat.record (.event f sat.currentState)).setState
        (f.update sat.currentState)).launches = sat.launches := by simp [LogEntry.launch?]
    by_cases urgent : (f.update sat.currentState).Urgent
    · exact (passed_urgent serves urgent (idle.update fact) rfl h).congr launches.symm rfl rfl
    · exact (passed_calm urgent rfl h).congr launches.symm rfl rfl

end Satellite

end

end Horst
