import Horst.Satellite.Scope
import Horst.Satellite.Strays

/-!
How often a callback tries to start an autonomous trigger, with all the calls nested
in it: a number that only depends on the state it meets and on the coming attempts
at `enter_safemode.sh`.
-/

set_option autoImplicit false
set_option relaxedAutoImplicit false

namespace Horst

open Foundation Foundation.Nested Foundation.Outcomes

namespace Satellite

variable (uvSpawn : Script → ℕ → Bool) (a : Action)

/-- A pass over the state `s`: every failed `enter_safemode.sh` runs the table again. -/
noncomputable def passCount (s : State) (k : ℕ) : ℕ :=
  if s.Urgent then
    failures (enterOutcomes uvSpawn) k * s.adcsDue.count a + s.adcsRules.count a
  else if s.Normal then
    (s.dueTriggers s).count a
  else 0

/-- The attempts at `enter_safemode.sh` after such a pass. -/
noncomputable def passLeft (s : State) (k : ℕ) : ℕ :=
  if s.Urgent then k + failures (enterOutcomes uvSpawn) k + 1 else k

noncomputable def enterCount (s : State) (k : ℕ) : ℕ :=
  if enterOutcomes uvSpawn k = true then 0 else passCount uvSpawn a (s.enter 0) (k + 1)

noncomputable def enterLeft (s : State) (k : ℕ) : ℕ :=
  if enterOutcomes uvSpawn k = true then k + 1 else passLeft uvSpawn (s.enter 0) (k + 1)

def calmCount (s target : State) : ℕ := if s.Normal then (s.dueTriggers target).count a else 0

noncomputable def entryCount (s : State) (k : ℕ) : ℕ :=
  enterCount uvSpawn a s k +
    if s.Urgent then enterCount uvSpawn a s (enterLeft uvSpawn s k) + s.adcsRules.count a
    else calmCount a s s

noncomputable def unsafeCount (s : State) (k : ℕ) : ℕ :=
  if s.safemode ≠ 0 then entryCount uvSpawn a { s with safemode := 0 } k else 0

/-- Leaving manualmode in the state `s`; `started` tells whether `leave_manualmode.sh`
could be started. -/
noncomputable def leaveCount (s : State) (k : ℕ) (started : Bool) : ℕ :=
  passCount uvSpawn a { s with manualmode := false } k +
    if started = true then 0
    else unsafeCount uvSpawn a (State.settle { s with manualmode := false })
      (passLeft uvSpawn { s with manualmode := false } k)

noncomputable def requestCount (sat : Satellite) : Event → ℕ
  | .manualModeReq wanted =>
      if wanted = false ∧ sat.currentState.manualmode = true then
        leaveCount uvSpawn a sat.currentState sat.enterAttempts (sat.leaveStarts uvSpawn)
      else 0
  | .safeModeReq wanted =>
      if wanted = true then enterCount uvSpawn a sat.currentState sat.enterAttempts
      else if sat.currentState.safemode ≠ 0 then
        passCount uvSpawn a { sat.currentState with safemode := 0 } sat.enterAttempts
      else 0
  | .leopReq wanted =>
      if wanted ≠ sat.currentState.leop ∧ wanted = .done then
        passCount uvSpawn a { sat.currentState with leop := .done } sat.enterAttempts
      else 0
  | _ => 0

noncomputable def eventCount (sat : Satellite) (e : Event) : ℕ :=
  if e.isFact = true then passCount uvSpawn a (e.update sat.currentState) sat.enterAttempts
  else requestCount uvSpawn a sat e +
    calmCount a (sat.currentState.requestState e) (e.update sat.currentState)

noncomputable def doneCount (sat : Satellite) (ended : Action) (success : Bool) : ℕ :=
  match ended with
  | .enterSafeMode _ =>
      if success = true then 0
      else passCount uvSpawn a { sat.currentState with safemode := 0 } sat.enterAttempts
  | .leaveManualMode => unsafeCount uvSpawn a sat.currentState sat.enterAttempts
  | .triggerMeasuring | .triggerDetumbling | .triggerSunpointing =>
      match ended.report with
      | some e =>
          if success = true then
            passCount uvSpawn a (e.update sat.currentState) sat.enterAttempts
          else 0
      | none => 0
  | .shellCommand _ _ | .enterManualMode | .leaveSafeMode | .finishLEOP => 0

/-- The number of attempts at a trigger that a callback makes. -/
noncomputable def coming (sat : Satellite) : Input → ℕ
  | .event e => sat.eventCount uvSpawn a e
  | .exited child exitStatus termSignal =>
      if termSignal ≠ SIGTERM then sat.doneCount uvSpawn a child.action (exitStatus = 0) else 0

def Attempts (n : ℕ) (sat sat' : Satellite) : Prop :=
  sat'.attempts a.script = sat.attempts a.script + n

variable {uvSpawn} {a} {onEvent : Handler Event Satellite} {s : State} {m n k : ℕ}
  {sat sat₁ sat' : Satellite}

theorem Attempts.trans (first : Attempts a m sat sat₁) (second : Attempts a n sat₁ sat') :
    Attempts a (m + n) sat sat' := by
  have early : sat₁.attempts a.script = sat.attempts a.script + m := first
  have late : sat'.attempts a.script = sat₁.attempts a.script + n := second
  change sat'.attempts a.script = sat.attempts a.script + (m + n)
  omega

private theorem attempts_same (launches : sat'.launches = sat.launches) : Attempts a 0 sat sat' :=
  attempts_congr launches _

theorem Attempts.of_eq (h : Attempts a m sat sat') (eq : m = n) : Attempts a n sat sat' := eq ▸ h

theorem script_eq_iff (trigger : a.isTrigger = true) (b : Action) :
    b.script = a.script ↔ b = a := by
  cases a with
  | triggerMeasuring | triggerDetumbling | triggerSunpointing =>
    cases b <;> simp [Action.script]
  | shellCommand | enterManualMode | leaveManualMode | enterSafeMode | leaveSafeMode
  | finishLEOP => cases trigger

theorem attempts_append (trigger : a.isTrigger = true) {ls : List Launch}
    (append : sat'.launches = sat.launches ++ ls) :
    Attempts a ((ls.map Launch.action).count a) sat sat' := by
  have counted := attempts_of_launches append a.script
  have same : (ls.countP fun l => l.action.script = a.script) = (ls.map Launch.action).count a := by
    rw [List.count, List.countP_map]
    apply List.countP_congr
    intro l _
    simp [script_eq_iff trigger]
  unfold Attempts
  rw [counted, same]

private theorem attempts_launch (trigger : a.isTrigger = true) {l : Launch} (other : l.action ≠ a)
    (append : sat'.launches = sat.launches ++ [l]) : Attempts a 0 sat sat' := by
  refine (attempts_append trigger append).of_eq ?_
  rw [List.map_singleton, List.count_singleton]
  simp [other]

private theorem trigger_ne
    {b : Action} (trigger : a.isTrigger = true) (other : b.isTrigger = false) :
    b ≠ a := by
  rintro rfl
  rw [trigger] at other
  cases other

private theorem attempts_triggers (trigger : a.isTrigger = true) (s target : State)
    (h : performActions uvSpawn onEvent (s.dueTriggers target) sat = some sat') :
    Attempts a ((s.dueTriggers target).count a) sat sat' := by
  obtain ⟨sat₁, run, _, ls, append, actions, _⟩ :=
    performActions_plain uvSpawn (s.dueTriggers target)
      (fun _ mem => Action.isPlain_of_isTrigger (State.isTrigger_of_mem_dueTriggers mem)) sat
  obtain rfl : sat₁ = sat' := Option.some.inj ((run onEvent).symm.trans h)
  exact (attempts_append trigger append).of_eq (by rw [actions])

private theorem attempts_calm (trigger : a.isTrigger = true) (covered : s.Covered) (target : State)
    (h : performActions uvSpawn onEvent (s.autonomousRules target) sat = some sat') :
    Attempts a (calmCount a s target) sat sat' := by
  unfold calmCount
  by_cases normal : s.Normal
  · rw [State.autonomousRules_of_calm target normal (covered.emergency_of_normal normal)] at h
    rw [if_pos normal]
    exact attempts_triggers trigger s target h
  · rw [State.autonomousRules_of_not_normal target normal] at h
    obtain rfl := Option.some.inj h
    rw [if_neg normal]
    exact attempts_same rfl

private theorem attempts_script
    (trigger : a.isTrigger = true) {b : Action} (lenient : b.isLenient = true)
    (other : b.isTrigger = false) {id : ℕ}
    (h : ShellCommand.perform uvSpawn onEvent id b sat = some sat') : Attempts a 0 sat sat' := by
  obtain ⟨sat₁, run, _, launches⟩ := ShellCommand.perform_lenient uvSpawn id lenient sat
  obtain rfl : sat₁ = sat' := Option.some.inj ((run onEvent).symm.trans h)
  exact attempts_launch trigger (trigger_ne trigger other) launches

variable (uvSpawn a) in
def CountsFacts (onEvent : Handler Event Satellite) : Prop :=
  ∀ (f : Event) (sat sat' : Satellite), f.isFact = true → sat.currentState.Idle →
    onEvent f sat = some sat' →
    Attempts a (passCount uvSpawn a (f.update sat.currentState) sat.enterAttempts) sat sat'

private theorem attempts_enterSafeMode (trigger : a.isTrigger = true)
    (serves : ServesFacts uvSpawn onEvent) (counts : CountsFacts uvSpawn a onEvent)
    {reason : UInt8} (nonzero : reason ≠ 0) {id : ℕ} (idle : sat.currentState.Idle)
    (h : EnterSafeMode.perform uvSpawn onEvent id reason sat = some sat') :
    Attempts a (enterCount uvSpawn a sat.currentState sat.enterAttempts) sat sat' ∧
      sat'.enterAttempts = enterLeft uvSpawn sat.currentState sat.enterAttempts := by
  have other : Action.enterSafeMode reason ≠ a := trigger_ne trigger rfl
  rcases EnterSafeMode.perform_calls uvSpawn serves nonzero id idle h with
    ⟨success, _, launches⟩ | ⟨fail, sat₁, sat₂, state₁, launches₁, call, _, launches⟩
  · unfold enterCount enterLeft
    rw [if_pos success, if_pos success]
    refine ⟨attempts_launch trigger other launches, ?_⟩
    simp [enterAttempts_append launches, Action.script]
  · have again : ¬ enterOutcomes uvSpawn sat.enterAttempts = true := by
      rw [fail]
      exact Bool.false_ne_true
    have attempts₁ : sat₁.enterAttempts = sat.enterAttempts + 1 := by
      simp [enterAttempts_append launches₁, Action.script]
    have idle₁ : sat₁.currentState.Idle := by
      rw [state₁]
      exact idle.enter reason
    have state : Event.update (.safeModeSignal 0) sat₁.currentState = sat.currentState.enter 0 := by
      rw [state₁]
      rfl
    have first := attempts_launch trigger other launches₁
    have second := counts _ _ _ rfl idle₁ call
    have passed := (serves _ _ _ rfl idle₁ call).attempts
    rw [state, attempts₁] at second passed
    unfold enterCount enterLeft
    rw [if_neg again, if_neg again]
    constructor
    · have whole := (first.trans second).trans (attempts_same launches)
      exact whole.of_eq (by omega)
    · have same : sat'.enterAttempts = sat₂.enterAttempts := attempts_congr launches _
      unfold passLeft
      rw [same]
      split at passed
      · rename_i urgent
        obtain ⟨m, first, left⟩ := passed
        rw [if_pos urgent, left, ← first.add_failures]
      · rename_i calm
        rw [if_neg calm, passed]

private theorem enterCount_urgent (urgent : s.Urgent) {m : ℕ}
    (first : FirstSuccess (enterOutcomes uvSpawn) k m) :
    enterCount uvSpawn a s k = failures (enterOutcomes uvSpawn) k * s.adcsDue.count a := by
  unfold enterCount
  split
  · rename_i success
    rw [failures_of_success success, Nat.zero_mul]
  · rename_i fail
    rw [Bool.not_eq_true] at fail
    have later : FirstSuccess (enterOutcomes uvSpawn) (k + 1) m := by
      obtain ⟨le, success, fails⟩ := first
      have different : k ≠ m := by
        rintro rfl
        rw [fail] at success
        cases success
      exact ⟨by omega, success, fun j above below => fails j (by omega) below⟩
    have due : (s.enter 0).adcsDue = s.adcsDue := rfl
    have rules : (s.enter 0).adcsRules = s.adcsDue := State.adcsRules_enter s 0
    unfold passCount
    rw [if_pos (urgent_enter_zero urgent), due, rules, later.failures_of_fail fail, Nat.succ_mul]

private theorem countsFacts_onEvent (trigger : a.isTrigger = true) (n : ℕ) :
    CountsFacts uvSpawn a (Satellite.onEvent uvSpawn n) := by
  induction n with
  | zero =>
    intro f sat sat' _ _ h
    cases h
  | succ n ih =>
    intro f sat sat' fact idle h
    have serves : ServesFacts uvSpawn (Satellite.onEvent uvSpawn n) := servesFacts_onEvent n
    have passed := servesFacts_onEvent (n + 1) f sat sat' fact idle h
    change onEventBody uvSpawn (Satellite.onEvent uvSpawn n) f sat = some sat' at h
    rw [onEventBody_fact uvSpawn _ fact idle] at h
    set s := f.update sat.currentState with hs
    set sat₀ := (sat.record (.event f sat.currentState)).setState s with hsat₀
    have launches₀ : sat₀.launches = sat.launches := by simp [hsat₀, LogEntry.launch?]
    have attempts₀ : sat₀.enterAttempts = sat.enterAttempts := attempts_congr launches₀ _
    have start : Attempts a 0 sat sat₀ := attempts_same launches₀
    unfold passCount
    by_cases urgent : s.Urgent
    · rw [if_pos urgent]
      have attempts := passed.attempts
      rw [if_pos urgent] at attempts
      obtain ⟨m, first, _⟩ := attempts
      rw [State.autonomousRules_of_urgent s urgent, performActions_cons] at h
      obtain ⟨sat₁, enter, triggers⟩ := Option.bind_eq_some_iff.mp h
      have idle₀ : (sat₀.prepared (.enterSafeMode s.emergency)).currentState.Idle :=
        idle.update fact
      have entered := (attempts_enterSafeMode trigger serves ih urgent.2 idle₀ enter).1
      have attempts : (sat₀.prepared (.enterSafeMode s.emergency)).enterAttempts =
          sat.enterAttempts := (attempts_congr (launches_prepared sat₀ _) _).trans attempts₀
      have state : (sat₀.prepared (.enterSafeMode s.emergency)).currentState = s := rfl
      rw [attempts, state, enterCount_urgent urgent first] at entered
      have prepared : Attempts a 0 sat₀ (sat₀.prepared (.enterSafeMode s.emergency)) :=
        attempts_same (launches_prepared sat₀ _)
      have rest := attempts_triggers trigger s s triggers
      rw [State.dueTriggers_of_emergency s urgent.2] at rest
      exact (((start.trans prepared).trans entered).trans rest).of_eq (by omega)
    · rw [if_neg urgent]
      have rest := attempts_calm trigger ((State.covered_iff s).mpr urgent) s h
      exact (start.trans rest).of_eq (Nat.zero_add _)

private theorem attempts_urgent
    (trigger : a.isTrigger = true) (serves : ServesFacts uvSpawn onEvent)
    (counts : CountsFacts uvSpawn a onEvent) (idle : sat.currentState.Idle) (urgent : s.Urgent)
    (same : sat.currentState.enter 0 = s.enter 0)
    (h : performActions uvSpawn onEvent (s.autonomousRules s) sat = some sat') :
    Attempts a (enterCount uvSpawn a s sat.enterAttempts + s.adcsRules.count a) sat sat' := by
  rw [State.autonomousRules_of_urgent s urgent, performActions_cons] at h
  obtain ⟨sat₁, enter, triggers⟩ := Option.bind_eq_some_iff.mp h
  have prepared : Attempts a 0 sat (sat.prepared (.enterSafeMode s.emergency)) :=
    attempts_same (launches_prepared sat _)
  have attempts : (sat.prepared (.enterSafeMode s.emergency)).enterAttempts = sat.enterAttempts :=
    attempts_congr (launches_prepared sat _) _
  have entered := (attempts_enterSafeMode trigger serves counts urgent.2 (by exact idle) enter).1
  have count : enterCount uvSpawn a sat.currentState sat.enterAttempts =
      enterCount uvSpawn a s sat.enterAttempts := by
    unfold enterCount
    rw [same]
  rw [attempts, currentState_prepared, count] at entered
  have rest := attempts_triggers trigger s s triggers
  rw [State.dueTriggers_of_emergency s urgent.2] at rest
  exact ((prepared.trans entered).trans rest).of_eq (by omega)

private theorem attempts_entry (trigger : a.isTrigger = true) (serves : ServesFacts uvSpawn onEvent)
    (counts : CountsFacts uvSpawn a onEvent) (idle : s.Idle) (state : sat.currentState = s)
    (h : performActions uvSpawn onEvent (.enterSafeMode 3 :: s.autonomousRules s) sat =
      some sat') :
    Attempts a (entryCount uvSpawn a s sat.enterAttempts) sat sat' := by
  have left := left_entry serves idle state h
  rw [performActions_cons] at h
  obtain ⟨sat₁, enter, rules⟩ := Option.bind_eq_some_iff.mp h
  have nonzero : (3 : UInt8) ≠ 0 := by decide
  have prepared : Attempts a 0 sat (sat.prepared (.enterSafeMode 3)) :=
    attempts_same (launches_prepared sat _)
  have attempts : (sat.prepared (.enterSafeMode 3)).enterAttempts = sat.enterAttempts :=
    attempts_congr (launches_prepared sat _) _
  have idle₀ : (sat.prepared (.enterSafeMode 3)).currentState.Idle := by
    rw [currentState_prepared, state]
    exact idle
  obtain ⟨entered, used⟩ := attempts_enterSafeMode trigger serves counts nonzero idle₀ enter
  have kept : sat₁.currentState.Idle ∧ sat₁.currentState.enter 0 = s.enter 0 := by
    rcases left_enterSafeMode serves nonzero idle₀ enter with ⟨_, _, first⟩ | ⟨_, first⟩
    · rw [first.state, currentState_prepared, state]
      exact ⟨idle.enter 3, rfl⟩
    · rw [first.state, currentState_prepared, state]
      refine ⟨(idle.enter 0).settle, ?_⟩
      unfold State.settle
      split <;> rfl
  rw [attempts, currentState_prepared, state] at entered used
  have both := prepared.trans entered
  unfold entryCount
  by_cases urgent : s.Urgent
  · rw [if_pos urgent]
    have rest := attempts_urgent trigger serves counts kept.1 urgent kept.2 rules
    rw [used] at rest
    exact (both.trans rest).of_eq (by omega)
  · rw [if_neg urgent]
    have rest := attempts_calm trigger ((State.covered_iff s).mpr urgent) s rules
    exact (both.trans rest).of_eq (by omega)

private theorem attempts_safeModeReq (trigger : a.isTrigger = true) {n : ℕ}
    (idle : sat.currentState.Idle)
    (h : Satellite.onEvent uvSpawn n (.safeModeReq true) sat = some sat') :
    Attempts a (entryCount uvSpawn a sat.currentState sat.enterAttempts) sat sat' := by
  cases n with
  | zero => cases h
  | succ n =>
    replace h := performs_request rfl idle h
    have serves : ServesFacts uvSpawn (Satellite.onEvent uvSpawn n) := servesFacts_onEvent n
    have start : Attempts a 0 sat (sat.asked (.safeModeReq true)) :=
      attempts_same (launches_asked sat _)
    have used : (sat.asked (.safeModeReq true)).enterAttempts = sat.enterAttempts :=
      attempts_congr (launches_asked sat _) _
    have entry := attempts_entry trigger serves (countsFacts_onEvent trigger n) idle (by exact rfl) h
    change Attempts a _ (sat.asked (.safeModeReq true)) sat' at entry
    change Attempts a (entryCount uvSpawn a sat.currentState
      (sat.asked (.safeModeReq true)).enterAttempts) _ _ at entry
    rw [used] at entry
    exact (start.trans entry).of_eq (Nat.zero_add _)

private theorem attempts_leaveManualMode_done (trigger : a.isTrigger = true) {n : ℕ}
    (idle : sat.currentState.Idle)
    (h : LeaveManualMode.done (Satellite.onEvent uvSpawn n) sat = some sat') :
    Attempts a (unsafeCount uvSpawn a sat.currentState sat.enterAttempts) sat sat' := by
  unfold LeaveManualMode.done at h
  unfold unsafeCount
  split at h
  · rename_i safe
    rw [if_pos safe]
    have idle₁ : State.Idle { sat.currentState with safemode := 0 } := ⟨idle.enforced, idle.commands⟩
    exact attempts_safeModeReq trigger idle₁ h
  · rename_i off
    obtain rfl := Option.some.inj h
    rw [if_neg off]
    exact attempts_same rfl

private theorem attempts_signal (trigger : a.isTrigger = true)
    (counts : CountsFacts uvSpawn a onEvent) {f : Event} (fact : f.isFact = true)
    {b : Action} (lenient : b.isLenient = true) (other : b.isTrigger = false) {id : ℕ}
    (idle : sat.currentState.Idle)
    (h : (onEvent f sat).bind (ShellCommand.perform uvSpawn onEvent id b) = some sat') :
    Attempts a (passCount uvSpawn a (f.update sat.currentState) sat.enterAttempts) sat sat' := by
  obtain ⟨sat₁, signal, script⟩ := Option.bind_eq_some_iff.mp h
  have first := counts f sat sat₁ fact idle signal
  exact first.trans (attempts_script trigger lenient other script)

private theorem attempts_leaveManualMode (trigger : a.isTrigger = true) {n : ℕ}
    (idle : sat.currentState.Idle) {id : ℕ}
    (h : LeaveManualMode.perform uvSpawn (Satellite.onEvent uvSpawn n) id sat = some sat') :
    Attempts a (leaveCount uvSpawn a sat.currentState sat.enterAttempts
      (uvSpawn .leaveManualmode (sat.attempts .leaveManualmode))) sat sat' := by
  obtain ⟨sat₁, signal, script⟩ := Option.bind_eq_some_iff.mp h
  have other : Action.leaveManualMode ≠ a := trigger_ne trigger rfl
  have passed := servesFacts_onEvent n _ _ _ rfl idle signal
  have first := countsFacts_onEvent trigger n _ _ _ rfl idle signal
  have attempts := passed.attempts_leaveManualmode
  have left := passed.attempts
  set s := sat.currentState with hs
  set s₁ := Event.update (.manualModeSignal false) s with hs₁
  have used : sat₁.enterAttempts = passLeft uvSpawn s₁ sat.enterAttempts := by
    unfold passLeft
    split at left
    · rename_i urgent
      obtain ⟨m, success, left⟩ := left
      rw [if_pos urgent, left, ← success.add_failures]
    · rename_i calm
      rw [if_neg calm, left]
  simp only [ShellCommand.perform, Action.script, attempts] at script
  unfold leaveCount
  cases started : uvSpawn .leaveManualmode (sat.attempts .leaveManualmode) with
  | true =>
    rw [started] at script
    obtain rfl := Option.some.inj script
    have second : Attempts a 0 sat₁ ((sat₁.created id .leaveManualMode true).started id
        .leaveManualMode) := attempts_launch trigger other (launches_created sat₁ id _ true)
    exact first.trans second
  | false =>
    rw [started] at script
    obtain ⟨sat₂, done, last⟩ := Option.bind_eq_some_iff.mp script
    obtain rfl := Option.some.inj last
    set failed := (sat₁.created id .leaveManualMode false).record
      (.exited id .leaveManualMode (-1)) with hfailed
    have launches : failed.launches =
        sat₁.launches ++ [⟨.leaveManualMode, sat₁.currentState, false⟩] := by
      simp [hfailed, LogEntry.launch?]
    have second : Attempts a 0 sat₁ failed := attempts_launch trigger other launches
    have state : failed.currentState = s₁.settle := passed.state
    have idle₁ : failed.currentState.Idle := by
      rw [state]
      exact (idle.update rfl).settle
    have kept : failed.enterAttempts = sat₁.enterAttempts := by
      simp [enterAttempts_append launches, Action.script]
    have third := attempts_leaveManualMode_done trigger idle₁ done
    rw [state, kept, used] at third
    have freed : Attempts a 0 sat₂ (sat₂.freed id false) :=
      attempts_same (launches_freed sat₂ id false)
    exact ((first.trans second).trans (third.trans freed)).of_eq (by simp; rfl)

private theorem performActions_singleton {b : Action}
    (h : performActions uvSpawn onEvent [b] sat = some sat') :
    b.perform uvSpawn onEvent sat.nextId (sat.prepared b) = some sat' := by
  rw [performActions_cons] at h
  obtain ⟨sat₁, head, rest⟩ := Option.bind_eq_some_iff.mp h
  obtain rfl := Option.some.inj rest
  exact head

section Head

variable {n : ℕ} {e : Event}

private theorem attempts_prepared_asked (sat : Satellite) (e : Event) (b : Action) :
    Attempts a 0 (sat.asked e) ((sat.asked e).prepared b) :=
  attempts_same (launches_prepared (sat.asked e) b)

private theorem enterAttempts_prepared_asked (sat : Satellite) (e : Event) (b : Action) :
    ((sat.asked e).prepared b).enterAttempts = sat.enterAttempts :=
  attempts_congr (launches_prepared_asked sat e b) _

private theorem attempts_met (met : sat.currentState.requestActions e = [])
    (h : performActions uvSpawn onEvent (sat.currentState.requestActions e) (sat.asked e) =
      some sat') :
    Attempts a 0 (sat.asked e) sat' := by
  rw [met] at h
  obtain rfl := Option.some.inj h
  exact attempts_same rfl

private theorem attempts_signalled (trigger : a.isTrigger = true) {b : Action} {f : Event}
    (steady : sat.currentState.Steady) (fact : f.isFact = true) (lenient : b.isLenient = true)
    (other : b.isTrigger = false) (kept : sat.currentState.requestState e = sat.currentState)
    {id : ℕ}
    (h : (Satellite.onEvent uvSpawn n f ((sat.asked e).prepared b)).bind
      (ShellCommand.perform uvSpawn (Satellite.onEvent uvSpawn n) id b) = some sat') :
    Attempts a (passCount uvSpawn a (f.update sat.currentState) sat.enterAttempts)
      (sat.asked e) sat' := by
  have state : ((sat.asked e).prepared b).currentState = sat.currentState := kept
  have idle : ((sat.asked e).prepared b).currentState.Idle := by
    rw [state]
    exact steady.idle
  have signal := attempts_signal trigger (countsFacts_onEvent trigger n) fact lenient other idle h
  rw [state, enterAttempts_prepared_asked] at signal
  exact ((attempts_prepared_asked sat e b).trans signal).of_eq (Nat.zero_add _)

private theorem attempts_head_manualModeReq (trigger : a.isTrigger = true) {wanted : Bool}
    (steady : sat.currentState.Steady)
    (h : performActions uvSpawn (Satellite.onEvent uvSpawn n)
      (sat.currentState.requestActions (.manualModeReq wanted))
      (sat.asked (.manualModeReq wanted)) = some sat') :
    Attempts a (requestCount uvSpawn a sat (.manualModeReq wanted))
      (sat.asked (.manualModeReq wanted)) sat' := by
  set s := sat.currentState with hs
  cases wanted with
  | true =>
    have entering : ¬ (true = false ∧ s.manualmode = true) := fun leave => by cases leave.1
    have count : requestCount uvSpawn a sat (.manualModeReq true) = 0 := by
      rw [requestCount]
      exact if_neg entering
    rw [count]
    cases manual : s.manualmode with
    | true => exact attempts_met (by simp [State.requestActions, ← hs, manual]) h
    | false =>
      have list : s.requestActions (.manualModeReq true) = [.enterManualMode] := by
        simp [State.requestActions, manual]
      rw [list] at h
      have signal := attempts_signalled trigger steady rfl rfl rfl rfl (performActions_singleton h)
      have modes : ¬ State.Normal (Event.update (.manualModeSignal true) s) := fun normal => by
        cases normal.2
      refine signal.of_eq ?_
      unfold passCount
      rw [if_neg fun urgent => modes urgent.1, if_neg modes]
  | false =>
    cases manual : s.manualmode with
    | false =>
      have count : requestCount uvSpawn a sat (.manualModeReq false) = 0 := by
        refine if_neg fun leave => ?_
        have on := manual.symm.trans leave.2
        cases on
      rw [count]
      exact attempts_met (by simp [State.requestActions, ← hs, manual]) h
    | true =>
      have list : s.requestActions (.manualModeReq false) = [.leaveManualMode] := by
        simp [State.requestActions, manual]
      have count : requestCount uvSpawn a sat (.manualModeReq false) =
          leaveCount uvSpawn a s sat.enterAttempts (sat.leaveStarts uvSpawn) := if_pos ⟨rfl, manual⟩
      rw [list] at h
      have idle : ((sat.asked (.manualModeReq false)).prepared
          .leaveManualMode).currentState.Idle := steady.idle
      have leave := attempts_leaveManualMode trigger idle (performActions_singleton h)
      have launches := launches_prepared_asked sat (.manualModeReq false) .leaveManualMode
      rw [enterAttempts_prepared_asked, attempts_congr launches] at leave
      have whole := (attempts_prepared_asked sat _ _).trans leave
      exact whole.of_eq ((Nat.zero_add _).trans count.symm)

private theorem attempts_head_safeModeReq (trigger : a.isTrigger = true) {wanted : Bool}
    (steady : sat.currentState.Steady)
    (h : performActions uvSpawn (Satellite.onEvent uvSpawn n)
      (sat.currentState.requestActions (.safeModeReq wanted))
      (sat.asked (.safeModeReq wanted)) = some sat') :
    Attempts a (requestCount uvSpawn a sat (.safeModeReq wanted))
      (sat.asked (.safeModeReq wanted)) sat' := by
  set s := sat.currentState with hs
  cases wanted with
  | true =>
    have list : s.requestActions (.safeModeReq true) = [.enterSafeMode 3] := rfl
    have count : requestCount uvSpawn a sat (.safeModeReq true) =
        enterCount uvSpawn a s sat.enterAttempts := by
      rw [requestCount]
      exact if_pos rfl
    rw [list] at h
    have nonzero : (3 : UInt8) ≠ 0 := by decide
    have idle : ((sat.asked (.safeModeReq true)).prepared
        (.enterSafeMode 3)).currentState.Idle := steady.idle
    have enter := (attempts_enterSafeMode trigger (servesFacts_onEvent n)
      (countsFacts_onEvent trigger n) nonzero idle (performActions_singleton h)).1
    rw [enterAttempts_prepared_asked] at enter
    exact ((attempts_prepared_asked sat _ _).trans enter).of_eq ((Nat.zero_add _).trans count.symm)
  | false =>
    have asked : requestCount uvSpawn a sat (.safeModeReq false) =
        if s.safemode ≠ 0 then
          passCount uvSpawn a { s with safemode := 0 } sat.enterAttempts
        else 0 := by
      rw [requestCount]
      exact if_neg Bool.false_ne_true
    rw [asked]
    by_cases off : s.safemode = 0
    · rw [if_neg fun safe => safe off]
      exact attempts_met (by simp [State.requestActions, ← hs, off]) h
    · have list : s.requestActions (.safeModeReq false) = [.leaveSafeMode] := by
        simp [State.requestActions, off]
      rw [if_pos off]
      rw [list] at h
      exact attempts_signalled trigger steady rfl rfl rfl rfl (performActions_singleton h)

private theorem attempts_head_leopReq (trigger : a.isTrigger = true) {wanted : LeopSeq}
    (steady : sat.currentState.Steady)
    (h : performActions uvSpawn (Satellite.onEvent uvSpawn n)
      (sat.currentState.requestActions (.leopReq wanted)) (sat.asked (.leopReq wanted)) =
        some sat') :
    Attempts a (requestCount uvSpawn a sat (.leopReq wanted)) (sat.asked (.leopReq wanted))
      sat' := by
  by_cases finish : wanted ≠ sat.currentState.leop ∧ wanted = .done
  · have list : sat.currentState.requestActions (.leopReq wanted) = [.finishLEOP] := if_pos finish
    have kept : sat.currentState.requestState (.leopReq wanted) = sat.currentState :=
      if_pos finish.2
    have count : requestCount uvSpawn a sat (.leopReq wanted) =
        passCount uvSpawn a { sat.currentState with leop := .done } sat.enterAttempts :=
      if_pos finish
    rw [list] at h
    have signal := attempts_signalled trigger steady rfl rfl rfl kept (performActions_singleton h)
    exact signal.of_eq count.symm
  · have count : requestCount uvSpawn a sat (.leopReq wanted) = 0 := if_neg finish
    rw [count]
    exact attempts_met (if_neg finish) h

private theorem attempts_head (trigger : a.isTrigger = true) (steady : sat.currentState.Steady)
    (h : performActions uvSpawn (Satellite.onEvent uvSpawn n) (sat.currentState.requestActions e)
      (sat.asked e) = some sat') :
    Attempts a (requestCount uvSpawn a sat e) (sat.asked e) sat' := by
  cases e with
  | manualModeReq wanted => exact attempts_head_manualModeReq trigger steady h
  | safeModeReq wanted => exact attempts_head_safeModeReq trigger steady h
  | leopReq wanted => exact attempts_head_leopReq trigger steady h
  | controlMessage message =>
    have list : sat.currentState.requestActions (.controlMessage message) =
        [.shellCommand message.command message] := rfl
    rw [list] at h
    have script : Attempts a 0 _ sat' :=
      attempts_script trigger rfl rfl (performActions_singleton h)
    exact (attempts_prepared_asked sat _ _).trans script
  | _ => exact attempts_met rfl h

end Head

theorem attempts_onEvent (trigger : a.isTrigger = true) {n : ℕ} {e : Event}
    (steady : sat.currentState.Steady) (h : Satellite.onEvent uvSpawn n e sat = some sat') :
    Attempts a (eventCount uvSpawn a sat e) sat sat' := by
  unfold eventCount
  cases fact : e.isFact with
  | true => exact countsFacts_onEvent trigger n e sat sat' fact steady.idle h
  | false =>
    rw [if_neg Bool.false_ne_true]
    cases n with
    | zero => cases h
    | succ n =>
      replace h := performs_request fact steady.idle h
      rw [performActions_append] at h
      obtain ⟨sat₁, head, rules⟩ := Option.bind_eq_some_iff.mp h
      have start : Attempts a 0 sat (sat.asked e) := attempts_same (launches_asked sat e)
      have first := attempts_head trigger steady head
      have second := attempts_calm trigger (steady.covered.requestState e) _ rules
      exact ((start.trans first).trans second).of_eq (by omega)

private theorem attempts_done (trigger : a.isTrigger = true) {n : ℕ} {b : Action} {success : Bool}
    (steady : sat.currentState.Steady)
    (h : b.done (Satellite.onEvent uvSpawn n) success sat = some sat') :
    Attempts a (doneCount uvSpawn a sat b success) sat sat' := by
  have quiet (same : some sat = some sat') : Attempts a 0 sat sat' := by
    obtain rfl := Option.some.inj same
    exact attempts_same rfl
  have fact {f : Event} (is : f.isFact = true)
      (call : Satellite.onEvent uvSpawn n f sat = some sat') :
      Attempts a (passCount uvSpawn a (f.update sat.currentState) sat.enterAttempts) sat sat' :=
    countsFacts_onEvent trigger n f sat sat' is steady.idle call
  cases b with
  | enterSafeMode reason =>
    cases success with
    | true => exact quiet h
    | false => exact fact rfl h
  | leaveManualMode => exact attempts_leaveManualMode_done trigger steady.idle h
  | triggerDetumbling | triggerSunpointing | triggerMeasuring =>
    cases success with
    | true => exact fact rfl h
    | false => exact quiet h
  | shellCommand | enterManualMode | leaveSafeMode | finishLEOP => exact quiet h

private theorem eventCount_congr {sat₁ : Satellite} (state : sat₁.currentState = sat.currentState)
    (launches : sat₁.launches = sat.launches) (e : Event) :
    sat₁.eventCount uvSpawn a e = sat.eventCount uvSpawn a e := by
  have attempts := attempts_congr launches
  unfold eventCount requestCount
  simp only [state, enterAttempts, leaveStarts, attempts]

private theorem doneCount_congr {sat₁ : Satellite} (state : sat₁.currentState = sat.currentState)
    (launches : sat₁.launches = sat.launches) (b : Action) (success : Bool) :
    sat₁.doneCount uvSpawn a b success = sat.doneCount uvSpawn a b success := by
  have attempts := attempts_congr launches
  unfold doneCount
  simp only [state, enterAttempts, attempts]

/-- One callback, in a state between two callbacks. -/
theorem attempts_callback (trigger : a.isTrigger = true) {input : Input}
    (steady : sat.currentState.Steady) (h : Step uvSpawn sat input sat') :
    Attempts a (sat.coming uvSpawn a input) sat sat' := by
  obtain ⟨_, n, call⟩ := h
  have launches : (sat.record (.callback sat.currentState)).launches = sat.launches := by
    simp [LogEntry.launch?]
  cases input with
  | event e =>
    have start : Attempts a 0 sat (sat.record (.callback sat.currentState)) := attempts_same launches
    have served := attempts_onEvent trigger (by exact steady) call
    rw [eventCount_congr (by rfl) launches] at served
    exact (start.trans served).of_eq (Nat.zero_add _)
  | exited child exitStatus termSignal =>
    set woken := (sat.record (.callback sat.currentState)).ended child with hwoken
    have launches₁ : woken.launches = sat.launches := launches
    change Attempts a (if termSignal ≠ SIGTERM then _ else 0) sat sat'
    simp only [callback] at call
    split at call
    · rename_i reported
      rw [if_pos reported]
      obtain ⟨sat₁, done, last⟩ := Option.bind_eq_some_iff.mp call
      obtain rfl := Option.some.inj last
      have launches₂ : (woken.record (.exited child.id child.action exitStatus)).launches =
          sat.launches := by simp [launches₁, LogEntry.launch?]
      have served := attempts_done trigger (by exact steady) done
      rw [doneCount_congr (by rfl) launches₂] at served
      have start : Attempts a 0 sat (woken.record (.exited child.id child.action exitStatus)) :=
        attempts_same launches₂
      have freed : Attempts a 0 sat₁ (sat₁.freed child.id (exitStatus = 0)) :=
        attempts_same (launches_freed sat₁ _ _)
      exact ((start.trans served).trans freed).of_eq (by omega)
    · rename_i killed
      obtain rfl := Option.some.inj call
      rw [if_neg killed]
      exact attempts_same launches₁

end Satellite

end Horst
