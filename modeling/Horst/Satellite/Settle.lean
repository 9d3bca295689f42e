import Horst.State

/-!
What an event is for: the modes a state settles in once the nested passes are
over, and what the state transition table asks for in a state.
-/

set_option autoImplicit false
set_option relaxedAutoImplicit false

namespace Horst

namespace State

/-- The emergency reason of a state, zero if there is none. -/
def emergency (s : State) : UInt8 :=
  if s.thm.allTemp = .alarm then 1
  else if s.eps.batteryLevel < s.batteryTreshold then 2
  else 0

def Normal (s : State) : Prop := s.safemode = 0 ∧ s.manualmode = false

instance (s : State) : Decidable s.Normal := inferInstanceAs (Decidable (_ ∧ _))

def Urgent (s : State) : Prop := s.Normal ∧ s.emergency ≠ 0

instance (s : State) : Decidable s.Urgent := inferInstanceAs (Decidable (_ ∧ _))

def enter (s : State) (reason : UInt8) : State :=
  { s with safemode := reason, maneuvermode := false }

/-- Safemode for the emergency at hand, unless a mode already takes care of it. -/
def settle (s : State) : State := if s.Urgent then s.enter s.emergency else s

def Covered (s : State) : Prop :=
  s.safemode ≠ 0 ∨ s.manualmode = true ∨
    (s.thm.allTemp ≠ .alarm ∧ s.batteryTreshold ≤ s.eps.batteryLevel)

instance (s : State) : Decidable s.Covered := inferInstanceAs (Decidable (_ ∨ _))

structure Idle (s : State) : Prop where
  enforced : s.enforcedSafemode = false
  commands : s.computer.shellCommands = []

/-- The triggers whose rules match, were it not for the modes. -/
def dueTriggers (s target : State) : List Action := s.measuringRule target ++ s.adcsRules

/-! The emergency reason and the modes. -/

theorem emergency_eq_zero_iff (s : State) :
    s.emergency = 0 ↔ s.thm.allTemp ≠ .alarm ∧ s.batteryTreshold ≤ s.eps.batteryLevel := by
  unfold emergency
  by_cases alarm : s.thm.allTemp = .alarm
  · simp [alarm]
  · by_cases low : s.eps.batteryLevel < s.batteryTreshold
    · simp [alarm, low]
    · simp only [alarm, low, if_false, true_iff, ne_eq, not_false_eq_true, true_and]
      exact UInt16.not_lt.mp low

theorem covered_iff (s : State) : s.Covered ↔ ¬ s.Urgent := by
  rw [Covered, Urgent, Normal, ← emergency_eq_zero_iff]
  by_cases hs : s.safemode = 0 <;> cases hm : s.manualmode <;> simp [hs]

@[simp] theorem emergency_enter (s : State) (reason : UInt8) :
    (s.enter reason).emergency = s.emergency := rfl

@[simp] theorem emergency_safemode (s : State) (r : UInt8) :
    emergency { s with safemode := r } = s.emergency := rfl

@[simp] theorem emergency_maneuvermode (s : State) (b : Bool) :
    emergency { s with maneuvermode := b } = s.emergency := rfl

@[simp] theorem emergency_manualmode (s : State) (b : Bool) :
    emergency { s with manualmode := b } = s.emergency := rfl

@[simp] theorem emergency_leop (s : State) (l : LeopSeq) :
    emergency { s with leop := l } = s.emergency := rfl

theorem not_normal_enter {s : State} {reason : UInt8} (nonzero : reason ≠ 0) :
    ¬ (s.enter reason).Normal := fun h => nonzero h.1

theorem not_urgent_of_not_normal {s : State} (h : ¬ s.Normal) : ¬ s.Urgent :=
  fun urgent => h urgent.1

theorem settle_of_urgent {s : State} (h : s.Urgent) : s.settle = s.enter s.emergency := if_pos h

theorem settle_of_not_urgent {s : State} (h : ¬ s.Urgent) : s.settle = s := if_neg h

theorem cleared_of_urgent {s : State} (h : s.Urgent) :
    s.settle.safemode ≠ 0 ∧ { s.settle with safemode := 0 } = s.enter 0 := by
  rw [settle_of_urgent h]
  exact ⟨h.2, rfl⟩

theorem Covered.settle {s : State} (h : s.Covered) : s.settle = s :=
  settle_of_not_urgent ((covered_iff s).mp h)

theorem covered_enter {s : State} {reason : UInt8} (nonzero : reason ≠ 0) :
    (s.enter reason).Covered := Or.inl nonzero

theorem covered_settle (s : State) : s.settle.Covered := by
  by_cases urgent : s.Urgent
  · rw [settle_of_urgent urgent]
    exact covered_enter urgent.2
  · rw [settle_of_not_urgent urgent]
    exact (covered_iff s).mpr urgent

theorem manualmode_settle (s : State) : s.settle.manualmode = s.manualmode := by
  unfold settle
  split <;> rfl

theorem emergency_settle (s : State) : s.settle.emergency = s.emergency := by
  unfold settle
  split <;> rfl

theorem Covered.emergency_of_normal {s : State} (h : s.Covered) (normal : s.Normal) :
    s.emergency = 0 := by
  by_contra nonzero
  exact (covered_iff s).mp h ⟨normal, nonzero⟩

theorem Idle.enter {s : State} (h : s.Idle) (reason : UInt8) : (s.enter reason).Idle :=
  ⟨h.enforced, h.commands⟩

theorem Idle.settle {s : State} (h : s.Idle) : s.settle.Idle := by
  unfold State.settle
  split
  · exact h.enter _
  · exact h

theorem Idle.update {s : State} (h : s.Idle) {f : Event} (fact : f.isFact = true) :
    (f.update s).Idle := by
  cases f <;> first
    | exact ⟨h.enforced, h.commands⟩
    | simp [Event.isFact] at fact

/-! The table. -/

theorem emergencyRules_eq (s : State) :
    s.emergencyRules = if s.emergency ≠ 0 then [.enterSafeMode s.emergency] else [] := by
  unfold emergencyRules emergency
  split_ifs <;> simp_all

theorem autonomousRules_of_urgent {s : State} (target : State) (h : s.Urgent) :
    s.autonomousRules target = .enterSafeMode s.emergency :: s.dueTriggers target := by
  have normal : s.safemode = 0 ∧ s.manualmode = false := h.1
  simp [autonomousRules, normal, emergencyRules_eq, h.2, dueTriggers]

theorem autonomousRules_of_calm {s : State} (target : State) (normal : s.Normal)
    (h : s.emergency = 0) : s.autonomousRules target = s.dueTriggers target := by
  have modes : s.safemode = 0 ∧ s.manualmode = false := normal
  simp [autonomousRules, modes, emergencyRules_eq, h, dueTriggers]

theorem autonomousRules_of_not_normal {s : State} (target : State) (h : ¬ s.Normal) :
    s.autonomousRules target = [] := if_neg h

theorem isTrigger_of_mem_dueTriggers {s target : State} {a : Action}
    (mem : a ∈ s.dueTriggers target) : a.isTrigger = true := by
  have measuring : a ∈ s.measuringRule target → a = .triggerMeasuring := by
    unfold measuringRule
    split <;> simp
  have detumbling : a ∈ s.detumblingRule → a = .triggerDetumbling := by
    unfold detumblingRule
    split <;> simp
  have sunpointing : a ∈ s.sunpointingRule → a = .triggerSunpointing := by
    unfold sunpointingRule
    split <;> simp
  unfold dueTriggers adcsRules at mem
  rcases List.mem_append.mp mem with mem | mem
  · rw [measuring mem]
    rfl
  · split at mem
    · rcases List.mem_append.mp mem with mem | mem
      · rw [detumbling mem]
        rfl
      · rw [sunpointing mem]
        rfl
    · simp at mem

private theorem measuringRule_of_emergency {s : State} (target : State) (h : s.emergency ≠ 0) :
    s.measuringRule target = [] := by
  unfold measuringRule
  rw [if_neg]
  rintro ⟨_, charged, good, _⟩
  apply h
  rw [emergency_eq_zero_iff]
  exact ⟨by simp [good], UInt16.le_of_lt charged⟩

theorem dueTriggers_of_emergency {s : State} (target : State) (h : s.emergency ≠ 0) :
    s.dueTriggers target = s.adcsRules := by
  simp [dueTriggers, measuringRule_of_emergency target h]

/-- The ADCS rules of the state once maneuvermode is off. -/
def adcsDue (s : State) : List Action := s.detumblingRule ++ s.sunpointingRule

theorem adcsRules_eq (s : State) :
    s.adcsRules = if s.maneuvermode = false then s.adcsDue else [] := rfl

theorem adcsRules_enter (s : State) (reason : UInt8) : (s.enter reason).adcsRules = s.adcsDue := rfl

theorem transformTo_eq (s target : State) :
    s.transformTo target = ((s.leopRules target).1,
      s.computer.transformTo target.computer ++ s.manualmodeRules target ++
        s.safemodeRules target ++ (s.leopRules target).2 ++
        (s.leopRules target).1.autonomousRules target) := rfl

theorem manualmodeRules_same {s target : State} (h : target.manualmode = s.manualmode) :
    s.manualmodeRules target = [] := by
  rw [manualmodeRules, h]
  cases s.manualmode <;> simp

theorem safemodeRules_same {s target : State} (h : target.safemode = s.safemode)
    (enforced : target.enforcedSafemode = false) : s.safemodeRules target = [] := by
  rw [safemodeRules, h, enforced]
  by_cases zero : s.safemode = 0 <;> simp [zero]

theorem leopRules_same {s target : State} (h : target.leop = s.leop) :
    s.leopRules target = (s, []) := by simp [leopRules, h]

/-- A pass over a state that is its own target only meets the autonomous rules. -/
theorem transformTo_self {s : State} (h : s.Idle) :
    s.transformTo s = (s, s.autonomousRules s) := by
  rw [transformTo_eq, manualmodeRules_same rfl, safemodeRules_same rfl h.enforced,
    leopRules_same rfl]
  simp [Computer.transformTo, h.commands]

/-- What the rules for requests ask for when the target differs by one request. -/
def requestActions (s : State) : Event → List Action
  | .manualModeReq wanted =>
      if wanted = true ∧ s.manualmode = false then [.enterManualMode]
      else if wanted = false ∧ s.manualmode = true then [.leaveManualMode]
      else []
  | .safeModeReq wanted =>
      if wanted = true then [.enterSafeMode 3]
      else if s.safemode ≠ 0 then [.leaveSafeMode]
      else []
  | .leopReq wanted => if wanted ≠ s.leop ∧ wanted = .done then [.finishLEOP] else []
  | .controlMessage message => [.shellCommand message.command message]
  | _ => []

/-- A LEOP sequence other than DONE is taken over by the table itself. -/
def requestState (s : State) : Event → State
  | .leopReq wanted => if wanted = .done then s else { s with leop := wanted }
  | _ => s

theorem Idle.requestState {s : State} (h : s.Idle) (e : Event) : (s.requestState e).Idle := by
  unfold State.requestState
  split
  · split
    · exact h
    · exact ⟨h.enforced, h.commands⟩
  · exact h

theorem Covered.requestState {s : State} (h : s.Covered) (e : Event) :
    (s.requestState e).Covered := by
  unfold State.requestState
  split
  · split <;> exact h
  · exact h

theorem autonomousRules_congr {s target target' : State}
    (h : target.pl.daemon = target'.pl.daemon) :
    s.autonomousRules target = s.autonomousRules target' := by
  simp only [autonomousRules, measuringRule, h]

theorem leopRules_leopReq (s : State) (wanted : LeopSeq) :
    s.leopRules (Event.update (.leopReq wanted) s) =
      (s.requestState (.leopReq wanted), s.requestActions (.leopReq wanted)) := by
  have target : (Event.update (.leopReq wanted) s).leop = wanted := rfl
  by_cases same : wanted = s.leop
  · have kept : { s with leop := wanted } = s := by rw [same]
    by_cases done : wanted = .done
    · rw [leopRules_same (target.trans same)]
      simp only [requestState, requestActions, if_pos done]
      rw [if_neg fun h => h.1 same]
    · rw [leopRules_same (target.trans same)]
      simp only [requestState, requestActions, if_neg done, kept]
      rw [if_neg fun h => h.1 same]
  · by_cases done : wanted = .done
    · subst done
      simp [leopRules, Event.update, requestState, requestActions, same]
    · simp [leopRules, Event.update, requestState, requestActions, same, done]

theorem transformTo_request {s : State} (idle : s.Idle) {e : Event} (request : e.isFact = false) :
    s.transformTo (e.update s) =
      (s.requestState e, s.requestActions e ++ (s.requestState e).autonomousRules (e.update s)) := by
  have none : s.computer.transformTo s.computer = [] := by
    simp [Computer.transformTo, idle.commands]
  set target := e.update s with htarget
  have manual (h : target.manualmode = s.manualmode) : s.manualmodeRules target = [] :=
    manualmodeRules_same h
  have safe (h : target.safemode = s.safemode)
      (h' : target.enforcedSafemode = s.enforcedSafemode) : s.safemodeRules target = [] :=
    safemodeRules_same h (h'.trans idle.enforced)
  have leop (h : target.leop = s.leop) : s.leopRules target = (s, []) := leopRules_same h
  have computer (h : target.computer = s.computer) :
      s.computer.transformTo target.computer = [] := by rw [h, none]
  rw [transformTo_eq]
  cases e with
  | manualModeReq wanted =>
    rw [computer rfl, safe rfl rfl, leop rfl, manualmodeRules]
    simp [htarget, Event.update, requestActions, requestState]
  | safeModeReq wanted =>
    rw [computer rfl, manual rfl, leop rfl, safemodeRules]
    cases wanted <;> simp [htarget, Event.update, requestActions, requestState]
  | leopReq wanted =>
    rw [computer rfl, manual rfl, safe rfl rfl]
    rw [leopRules_leopReq]
    rfl
  | payloadReq wanted =>
    rw [computer rfl, manual rfl, safe rfl rfl, leop rfl]
    simp [requestActions, requestState]
  | controlMessage message =>
    rw [manual rfl, safe rfl rfl, leop rfl]
    simp [Computer.transformTo, htarget, Event.update, idle.commands, requestActions, requestState]
  | _ => simp [Event.isFact] at request

end State

end Horst
