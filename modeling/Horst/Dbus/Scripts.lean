import Horst.Dbus.States

/-!
How many scripts the messages bring about, and what has been started once they are handled:
every end of a script is paid for by a message, or by an `enter_safemode.sh` that has failed.
-/

set_option autoImplicit false
set_option relaxedAutoImplicit false

namespace Horst

open Foundation

/-- The scripts that the end of a script can bring about, unless it fails to enter safemode. -/
def Action.follow : Action → ℕ
  | .leaveManualMode => 3
  | .triggerMeasuring => 1
  | _ => 0

/-- Scripts that are started, with those that their ends can bring about. -/
def cost (as : List Action) : ℕ := (as.map fun a => a.follow + 1).sum

private theorem cost_append (as bs : List Action) : cost (as ++ bs) = cost as + cost bs := by
  rw [cost, List.map_append, List.sum_append]
  rfl

private theorem cost_cons
    (a : Action) (as : List Action) : cost (a :: as) = a.follow + 1 + cost as := by
  rw [cost, List.map_cons, List.sum_cons]
  rfl

namespace State

variable {s target : State}

private theorem cost_measuringRule (s target : State) : cost (s.measuringRule target) ≤ 2 := by
  unfold measuringRule
  split
  · exact Nat.le_refl 2
  · exact Nat.zero_le 2

private theorem measuringRule_of_told (told : target.pl.daemon ≠ .wantmeasure) :
    s.measuringRule target = [] := by
  unfold measuringRule
  rw [if_neg]
  rintro ⟨wanted, _⟩
  exact told wanted

private theorem cost_adcsRules (s : State) : cost s.adcsRules ≤ 1 := by
  unfold adcsRules
  split
  · unfold detumblingRule sunpointingRule
    split
    · rename_i due
      have other : ¬ (s.adcs.pointing = .detumb ∧ s.leop ≠ .undeployed) :=
        fun sun => due.2.1 sun.1
      rw [if_neg other]
      exact Nat.le_refl 1
    · split
      · exact Nat.le_refl 1
      · exact Nat.zero_le 1
  · exact Nat.zero_le 1

private theorem cost_rules (s target : State) : cost (s.autonomousRules target) ≤ 3 := by
  by_cases normal : s.Normal
  · have adcs := cost_adcsRules s
    by_cases none : s.emergency = 0
    · have measuring := cost_measuringRule s target
      rw [autonomousRules_of_calm target normal none, dueTriggers, cost_append]
      omega
    · rw [autonomousRules_of_urgent target ⟨normal, none⟩, dueTriggers_of_emergency target none,
        cost_cons]
      change 0 + 1 + cost s.adcsRules ≤ 3
      omega
  · rw [autonomousRules_of_not_normal target normal]
    exact Nat.zero_le 3

private theorem cost_rules_of_told (told : target.pl.daemon ≠ .wantmeasure) :
    cost (s.autonomousRules target) ≤ 2 := by
  by_cases normal : s.Normal
  · have adcs := cost_adcsRules s
    by_cases none : s.emergency = 0
    · rw [autonomousRules_of_calm target normal none, dueTriggers, measuringRule_of_told told]
      change cost s.adcsRules ≤ 2
      omega
    · rw [autonomousRules_of_urgent target ⟨normal, none⟩, dueTriggers_of_emergency target none,
        cost_cons]
      change 0 + 1 + cost s.adcsRules ≤ 2
      omega
  · rw [autonomousRules_of_not_normal target normal]
    exact Nat.zero_le 2

private theorem rules_of_covered (covered : s.Covered) (told : target.pl.daemon ≠ .wantmeasure) :
    s.autonomousRules target = if s.Normal then s.adcsRules else [] := by
  split
  · rename_i normal
    rw [autonomousRules_of_calm target normal (covered.emergency_of_normal normal), dueTriggers,
      measuringRule_of_told told]
    rfl
  · rename_i modes
    exact autonomousRules_of_not_normal target modes

end State

namespace Dbus

open State

variable {limit : UInt16} {s : State} {e : Event} {a : Action}

private theorem orders_fact (deliverable : Deliverable e) (fact : e.isFact = true) :
    s.orders e = (e.update s).autonomousRules (e.update s) := by
  cases e with
  | thmSignal | epsSignal | adcsSignal | payloadSignal | maneuverModeSignal => rfl
  | adcsReqSignal | leopSignal | manualModeSignal | safeModeSignal => exact deliverable.elim
  | manualModeReq | safeModeReq | leopReq | payloadReq | controlMessage => cases fact

private theorem cost_orders (formed : s.Formed limit) (deliverable : Deliverable e) :
    cost (s.orders e) ≤ 6 := by
  by_cases fact : e.isFact = true
  · rw [orders_fact deliverable fact]
    have told := (formed_update formed deliverable fact).daemon
    exact (cost_rules_of_told told).trans (by decide)
  · have told := formed.daemon
    have self : cost (s.autonomousRules s) ≤ 2 := cost_rules_of_told told
    cases e with
    | thmSignal | epsSignal | adcsSignal | adcsReqSignal | payloadSignal | leopSignal
    | maneuverModeSignal | manualModeSignal | safeModeSignal => exact absurd rfl fact
    | manualModeReq wanted =>
      cases wanted with
      | true =>
        have entered : cost (if s.manualmode = false then [.enterManualMode] else []) ≤ 1 := by
          split
          · exact Nat.le_refl 1
          · exact Nat.zero_le 1
        rw [orders, cost_append]
        omega
      | false =>
        rw [orders]
        split
        · set left : State := { s with manualmode := false }
          have rules : cost (left.autonomousRules left) ≤ 2 := cost_rules_of_told told
          have leaves : cost [.leaveManualMode] = 4 := rfl
          rw [cost_append, leaves]
          omega
        · omega
    | safeModeReq wanted =>
      cases wanted with
      | true =>
        have enters : Action.follow (.enterSafeMode 3) = 0 := rfl
        rw [orders, cost_cons, enters]
        omega
      | false =>
        rw [orders]
        split
        · set left : State := { s with safemode := 0 }
          have rules : cost (left.autonomousRules left) ≤ 2 := cost_rules_of_told told
          have leaves : cost [.leaveSafeMode] = 1 := rfl
          rw [cost_append, leaves]
          omega
        · omega
    | leopReq leop =>
      set changed : State := { s with leop := leop }
      have rules : cost (changed.autonomousRules changed) ≤ 2 := cost_rules_of_told told
      have finishes : Action.follow .finishLEOP = 0 := rfl
      rw [orders]
      split
      · rw [cost_append, cost_cons, finishes]
        change cost (changed.autonomousRules changed) + _ ≤ 6
        omega
      · exact rules.trans (by decide)
    | payloadReq wanted => exact (cost_rules s _).trans (by decide)
    | controlMessage message =>
      have command : Action.follow (.shellCommand message.command message) = 0 := rfl
      rw [orders, cost_cons, command]
      omega

private theorem rules_asked (attainable : s.Attainable limit) {requested : AdcsState}
    (asks : requested = .detumb ∨ requested = .sun) :
    State.autonomousRules { s with adcs := ⟨.none, requested⟩ }
      { s with adcs := ⟨.none, requested⟩ } = [] := by
  set asked : State := { s with adcs := ⟨.none, requested⟩ }
  have covered : asked.Covered := attainable.covered
  have told : asked.pl.daemon ≠ .wantmeasure := attainable.daemon
  have done : asked.adcsRules = [] := by
    rcases asks with rfl | rfl <;>
      simp [adcsRules, detumblingRule, sunpointingRule, asked]
  rw [rules_of_covered covered told, done, ite_self]

private theorem cost_conclude (attainable : s.Attainable limit) (success : Bool) :
    cost (s.conclude a success).2 ≤ a.follow ∨
      (∃ reason, a = .enterSafeMode reason) ∧ success = false ∧
        cost (s.conclude a success).2 ≤ 2 := by
  have told := attainable.daemon
  cases a with
  | enterSafeMode reason =>
    cases success with
    | true => exact Or.inl (Nat.zero_le 0)
    | false =>
      right
      refine ⟨⟨reason, rfl⟩, rfl, ?_⟩
      set cleared : State := { s with safemode := 0 }
      have rules : cost (cleared.autonomousRules cleared) ≤ 2 := cost_rules_of_told told
      exact rules
  | leaveManualMode =>
    left
    rw [conclude_leaveManualMode]
    split
    · set cleared : State := { s with safemode := 0 }
      have rules : cost (cleared.autonomousRules cleared) ≤ 2 := cost_rules_of_told told
      have enters : Action.follow (.enterSafeMode 3) = 0 := rfl
      change cost (.enterSafeMode 3 :: cleared.autonomousRules cleared) ≤ 3
      rw [cost_cons, enters]
      omega
    · exact Nat.zero_le 3
  | triggerDetumbling =>
    left
    cases success with
    | false => exact Nat.zero_le 0
    | true =>
      exact (congrArg cost (rules_asked attainable (Or.inl rfl))).le
  | triggerSunpointing =>
    left
    cases success with
    | false => exact Nat.zero_le 0
    | true =>
      exact (congrArg cost (rules_asked attainable (Or.inr rfl))).le
  | triggerMeasuring =>
    left
    cases success with
    | false => exact Nat.zero_le 1
    | true =>
      set begun : State := { s with pl := ⟨.measuring⟩ }
      have covered : begun.Covered := attainable.covered
      have other : begun.pl.daemon ≠ .wantmeasure := DaemonState.noConfusion
      change cost (begun.autonomousRules begun) ≤ 1
      rw [rules_of_covered covered other]
      split
      · exact cost_adcsRules begun
      · exact Nat.zero_le 1
  | shellCommand | enterManualMode | leaveSafeMode | finishLEOP => exact Or.inl (Nat.zero_le 0)

/-- The scripts that run, with those that their ends can bring about. -/
def load (running : Multiset Action) : ℕ := (running.map fun a => a.follow + 1).sum

private theorem load_coe (as : List Action) : load as = cost as := by
  rw [load, Multiset.map_coe, Multiset.sum_coe]
  rfl

private theorem load_add (running more : Multiset Action) :
    load (running + more) = load running + load more := by
  rw [load, Multiset.map_add, Multiset.sum_add]
  rfl

private theorem load_erase {running : Multiset Action} (mem : a ∈ running) :
    load (running.erase a) + (a.follow + 1) = load running := by
  calc load (running.erase a) + (a.follow + 1)
      = (a.follow + 1) + load (running.erase a) := Nat.add_comm _ _
    _ = load (a ::ₘ running.erase a) := by
      rw [load, load, Multiset.map_cons, Multiset.sum_cons]
    _ = load running := by rw [Multiset.cons_erase mem]

private theorem card_le_load (running : Multiset Action) : running.card ≤ load running := by
  induction running using Multiset.induction_on with
  | empty => exact Nat.le_refl 0
  | cons a running ih =>
    rw [load, Multiset.map_cons, Multiset.sum_cons, Multiset.card_cons]
    change running.card + 1 ≤ a.follow + 1 + load running
    omega

private theorem load_le (running : Multiset Action) : load running ≤ 4 * running.card := by
  induction running using Multiset.induction_on with
  | empty => exact Nat.le_refl 0
  | cons a running ih =>
    have most : a.follow ≤ 3 := by
      unfold Action.follow
      split <;> decide
    rw [load, Multiset.map_cons, Multiset.sum_cons, Multiset.card_cons]
    change a.follow + 1 + load running ≤ 4 * (running.card + 1)
    omega

def failsToEnter (action : Action) (exitStatus termSignal : Int) : Bool :=
  match action with
  | .enterSafeMode _ => decide (exitStatus ≠ 0 ∧ termSignal ≠ SIGTERM)
  | _ => false

/-- The scripts that an input of the flat machine pays for. -/
def fee : Flat.Input → ℕ
  | .event _ => 6
  | .exited action exitStatus termSignal =>
      if failsToEnter action exitStatus termSignal then 2 else 0

def ends : Flat.Input → ℕ
  | .event _ => 0
  | .exited _ _ _ => 1

private theorem load_step {c c' : Flat} {input : Flat.Input} {orders : List Action}
    (attained : Attained limit c) (answers : c.next input = some (c', orders))
    (deliverable : ∀ e, input = .event e → Deliverable e) :
    load c'.running + ends input ≤ load c.running + fee input := by
  cases input with
  | event e =>
    rw [Flat.next] at answers
    split at answers
    · obtain ⟨rfl, _⟩ := Prod.mk.inj (Option.some.inj answers)
      have paid := cost_orders attained.state.toFormed (deliverable e rfl)
      change load (c.running + c.state.orders e) ≤ load c.running + 6
      rw [load_add, load_coe]
      omega
    · cases answers
  | exited action exitStatus termSignal =>
    rw [Flat.next] at answers
    split at answers
    · rename_i known
      have erased := load_erase known
      dsimp only at answers
      split at answers
      · rename_i unkilled
        set answer := c.state.conclude action (exitStatus = 0) with concludes
        obtain ⟨rfl, _⟩ := Prod.mk.inj (Option.some.inj answers)
        have paid : cost answer.2 ≤ action.follow + fee (.exited action exitStatus termSignal) := by
          rcases cost_conclude (a := action) attained.state (exitStatus = 0) with covered | failed
          · exact covered.trans (Nat.le_add_right _ _)
          · obtain ⟨⟨reason, rfl⟩, failure, bound⟩ := failed
            have fails : failsToEnter (.enterSafeMode reason) exitStatus termSignal = true :=
              decide_eq_true ⟨of_decide_eq_false failure, unkilled⟩
            rw [fee, if_pos fails]
            exact bound.trans (Nat.le_add_left _ _)
        change load (c.running.erase action + answer.2) + 1 ≤ _
        rw [load_add, load_coe]
        omega
      · obtain ⟨rfl, _⟩ := Prod.mk.inj (Option.some.inj answers)
        change load (c.running.erase action + ([] : List Action)) + 1 ≤ _
        have none : cost [] = 0 := rfl
        rw [load_add, load_coe]
        omega
    · cases answers

/-- What the rules ask for has been started, and runs. -/
def UnderWay (c : Flat) : Prop := ∀ a ∈ c.state.autonomousRules c.state, a ∈ c.running

def failsToTrigger (action : Action) (exitStatus termSignal : Int) : Bool :=
  action.isTrigger && decide (exitStatus ≠ 0 ∨ termSignal = SIGTERM)

private theorem rules_settle (s : State) :
    ∀ a ∈ s.settle.autonomousRules s.settle, a ∈ s.autonomousRules s := by
  intro a mem
  by_cases urgent : s.Urgent
  · rw [settle_of_urgent urgent, autonomousRules_of_not_normal _ (not_normal_enter urgent.2)] at mem
    cases mem
  · rwa [settle_of_not_urgent urgent] at mem

private theorem rules_enter {reason : UInt8} (nonzero : reason ≠ 0) (target : State) :
    (s.enter reason).autonomousRules target = [] :=
  autonomousRules_of_not_normal target (not_normal_enter nonzero)

private theorem rules_respond (attainable : s.Attainable limit) (deliverable : Deliverable e) :
    ∀ a ∈ (s.respond e).autonomousRules (s.respond e), a ∈ s.orders e := by
  have self : ∀ target, ∀ a ∈ s.autonomousRules s, a ∈ s.autonomousRules target := by
    intro target a mem
    rw [rules_of_covered attainable.covered attainable.daemon] at mem
    split at mem
    · rename_i normal
      have none := attainable.covered.emergency_of_normal normal
      rw [autonomousRules_of_calm target normal none]
      exact List.mem_append_right _ mem
    · cases mem
  by_cases fact : e.isFact = true
  · rw [respond_fact deliverable fact, orders_fact deliverable fact]
    exact rules_settle _
  · cases e with
    | thmSignal | epsSignal | adcsSignal | adcsReqSignal | payloadSignal | leopSignal
    | maneuverModeSignal | manualModeSignal | safeModeSignal => exact absurd rfl fact
    | manualModeReq wanted =>
      cases wanted with
      | true =>
        intro a mem
        have modes : ¬ ({ s with manualmode := true } : State).Normal := by
          intro normal
          cases normal.2
        rw [respond, autonomousRules_of_not_normal _ modes] at mem
        cases mem
      | false =>
        rw [respond, orders]
        split
        · intro a mem
          exact List.mem_append_left _ (rules_settle _ a mem)
        · exact self s
    | safeModeReq wanted =>
      cases wanted with
      | true =>
        intro a mem
        change a ∈ (s.enter 3).autonomousRules (s.enter 3) at mem
        rw [rules_enter (by decide)] at mem
        cases mem
      | false =>
        rw [respond, orders]
        split
        · intro a mem
          exact List.mem_append_left _ (rules_settle _ a mem)
        · exact self s
    | leopReq leop =>
      intro a mem
      rw [orders]
      split
      · exact List.mem_append_left _ mem
      · exact mem
    | payloadReq wanted => exact self _
    | controlMessage message =>
      intro a mem
      exact List.mem_cons_of_mem _ (self s a mem)

private theorem rules_conclude {success : Bool} (triggers : a.isTrigger = true → success = true) :
    ∀ b ∈ (s.conclude a success).1.autonomousRules (s.conclude a success).1,
      b ∈ (s.conclude a success).2 ∨ b ∈ s.autonomousRules s ∧ a.isTrigger = false := by
  intro b mem
  cases a with
  | enterSafeMode reason =>
    cases success with
    | true => exact Or.inr ⟨mem, rfl⟩
    | false => exact Or.inl (rules_settle _ b mem)
  | leaveManualMode =>
    rw [conclude_leaveManualMode] at mem ⊢
    split at mem
    · exfalso
      rw [reassert] at mem
      split at mem
      · rename_i urgent
        rw [settle_of_urgent urgent, rules_enter urgent.2] at mem
        cases mem
      · rw [rules_enter (by decide)] at mem
        cases mem
    · exact Or.inr ⟨mem, rfl⟩
  | triggerDetumbling | triggerSunpointing | triggerMeasuring =>
    obtain rfl := triggers rfl
    exact Or.inl (rules_settle _ b mem)
  | shellCommand | enterManualMode | leaveSafeMode | finishLEOP => exact Or.inr ⟨mem, rfl⟩

private theorem underWay_step {c c' : Flat} {input : Flat.Input} (attained : Attained limit c)
    (step : FlatStep c input c')
    (triggers : ∀ action exitStatus termSignal, input = .exited action exitStatus termSignal →
      failsToTrigger action exitStatus termSignal = false)
    (before : (∃ e, input = .event e) ∨ UnderWay c) : UnderWay c' := by
  obtain ⟨⟨orders, answers⟩, deliverable⟩ := step
  cases input with
  | event e =>
    rw [Flat.next] at answers
    split at answers
    · obtain ⟨rfl, _⟩ := Prod.mk.inj (Option.some.inj answers)
      intro a mem
      have ordered := rules_respond attained.state (deliverable e rfl) a mem
      exact Multiset.mem_add.mpr (Or.inr (Multiset.mem_coe.mpr ordered))
    · cases answers
  | exited action exitStatus termSignal =>
    have runs : UnderWay c := by
      rcases before with ⟨e, event⟩ | runs
      · cases event
      · exact runs
    have succeeds (trigger : action.isTrigger = true) : exitStatus = 0 ∧ termSignal ≠ SIGTERM := by
      have fails := triggers _ _ _ rfl
      rw [failsToTrigger, trigger, Bool.true_and] at fails
      have neither := of_decide_eq_false fails
      push Not at neither
      exact neither
    have still {b : Action} (mem : b ∈ c.state.autonomousRules c.state)
        (other : action.isTrigger = false) : b ∈ c.running.erase action := by
      have due : b.isTrigger = true := by
        rw [rules_of_covered attained.state.covered attained.state.daemon] at mem
        split at mem
        · have asked : b ∈ c.state.dueTriggers c.state := List.mem_append_right _ mem
          exact isTrigger_of_mem_dueTriggers asked
        · cases mem
      refine (Multiset.mem_erase_of_ne ?_).mpr (runs b mem)
      rintro rfl
      rw [due] at other
      cases other
    rw [Flat.next] at answers
    split at answers
    · dsimp only at answers
      split at answers
      · obtain ⟨rfl, _⟩ := Prod.mk.inj (Option.some.inj answers)
        intro b mem
        have success (trigger : action.isTrigger = true) : decide (exitStatus = 0) = true :=
          decide_eq_true (succeeds trigger).1
        rcases rules_conclude success b mem with ordered | ⟨old, other⟩
        · exact Multiset.mem_add.mpr (Or.inr (Multiset.mem_coe.mpr ordered))
        · exact Multiset.mem_add.mpr (Or.inl (still old other))
      · rename_i killed
        obtain ⟨rfl, _⟩ := Prod.mk.inj (Option.some.inj answers)
        have other : action.isTrigger = false := by
          by_contra trigger
          exact killed (succeeds (eq_true_of_ne_false trigger)).2
        intro b mem
        exact Multiset.mem_add.mpr (Or.inl (still mem other))
    · cases answers

def Input.isEnd : Input → Bool
  | .exited _ _ _ => true
  | .arrived _ | .ready => false

def Input.failsToEnter : Input → Bool
  | .exited child exitStatus termSignal => Dbus.failsToEnter child.action exitStatus termSignal
  | .arrived _ | .ready => false

def Input.failsToTrigger : Input → Bool
  | .exited child exitStatus termSignal => Dbus.failsToTrigger child.action exitStatus termSignal
  | .arrived _ | .ready => false

namespace DBusConnection

section Spawning

variable {uvSpawn : Script → ℕ → Bool} (spawns : ∀ script j, uvSpawn script j = true)
  {sat sat' : Satellite}
include spawns

private theorem load_run {us : List (Transition Satellite Horst.Input)}
    (steady : sat.currentState.Steady) (attained : Attained limit sat.flat)
    (run : Run (SatelliteStep uvSpawn) sat us sat') :
    load sat'.flat.running + (us.map fun t => ends t.label.flat).sum ≤
      load sat.flat.running + (us.map fun t => fee t.label.flat).sum := by
  refine run.charged (I := fun sat => sat.currentState.Steady ∧ Attained limit sat.flat)
    (fun sat => load sat.flat.running) (fun input => ends input.flat)
    (fun input => fee input.flat) ⟨steady, attained⟩ ?_ ?_
  · rintro sat input sat' ⟨steady, attained⟩ step
    exact ⟨Satellite.step_steady _ _ _ steady step.1,
      attained_step _ _ _ attained (flatStep_of_step spawns steady step)⟩
  · rintro sat input sat' ⟨steady, attained⟩ step
    obtain ⟨⟨orders, answers⟩, deliverable⟩ := flatStep_of_step spawns steady step
    exact load_step attained answers deliverable

private theorem underWay_run {us : List (Transition Satellite Horst.Input)}
    (steady : sat.currentState.Steady) (attained : Attained limit sat.flat)
    (run : Run (SatelliteStep uvSpawn) sat us sat')
    (triggers : ∀ t ∈ us, ∀ child exitStatus termSignal,
      t.label = .exited child exitStatus termSignal →
        failsToTrigger child.action exitStatus termSignal = false)
    (brought : ∃ t ∈ us, ∃ e, t.label = .event e) : UnderWay sat'.flat := by
  induction run with
  | nil =>
    obtain ⟨t, mem, _⟩ := brought
    cases mem
  | @snoc us sat₁ sat₂ input prior step ih =>
    have steady₁ : sat₁.currentState.Steady :=
      prior.invariant (I := fun sat => sat.currentState.Steady) steady fun _ _ _ steady step =>
        Satellite.step_steady _ _ _ steady step.1
    have attained₁ : Attained limit sat₁.flat :=
      reachable_flat spawns attained_step steady attained prior.reachable
    apply underWay_step attained₁ (flatStep_of_step spawns steady₁ step)
    · intro action exitStatus termSignal label
      have listed := triggers _ (List.mem_append_right us (List.mem_singleton.mpr rfl))
      cases input with
      | event e => cases label
      | exited child status signal =>
        obtain ⟨rfl, rfl, rfl⟩ := Flat.Input.exited.inj label
        exact listed child status signal rfl
    · cases input with
      | event e => exact Or.inl ⟨e, rfl⟩
      | exited child exitStatus termSignal =>
        right
        apply ih fun t mem => triggers t (List.mem_append_left _ mem)
        obtain ⟨t, mem, e, label⟩ := brought
        rcases List.mem_append.mp mem with early | last
        · exact ⟨t, early, e, label⟩
        · rw [List.mem_singleton.mp last] at label
          cases label

end Spawning

variable {platform : Platform} {failsAt : ℕ → Bool} {uvSpawn : Script → ℕ → Bool}
  {c₀ c : DBusConnection} {ts : List (Transition DBusConnection Input)}

private theorem fees_step {input : Input} (step : Step platform failsAt uvSpawn c₀ input c) :
    ∃ entries, c.handled = c₀.handled ++ entries ∧
      Satellite.eventsIn (inputs platform ⟨c₀, input, c⟩) = eventsOf platform entries ∧
      ((inputs platform ⟨c₀, input, c⟩).map fun i => ends i.flat).sum = (input.isEnd).toNat ∧
      ((inputs platform ⟨c₀, input, c⟩).map fun i => fee i.flat).sum =
        6 * (eventsOf platform entries).length + 2 * (input.failsToEnter).toNat := by
  obtain ⟨_, n, called⟩ := step
  cases input with
  | arrived m =>
    obtain rfl := Option.some.inj called
    exact ⟨[], (List.append_nil _).symm, rfl, rfl, rfl⟩
  | ready =>
    obtain ⟨⟨entries, grown, _⟩, _⟩ := drained_handleAll called
    have brought : inputs platform ⟨c₀, .ready, c⟩ = (eventsOf platform entries).map .event := by
      rw [inputs]
      simp only [grown, List.drop_left]
    refine ⟨entries, grown, ?_, ?_, ?_⟩
    · rw [brought, Satellite.eventsIn, List.filterMap_map]
      exact List.filterMap_some
    · rw [brought, List.map_map]
      simp [Function.comp_def, ends, Horst.Input.flat, Input.isEnd]
    · rw [brought, List.map_map]
      simp [Function.comp_def, fee, Horst.Input.flat, Input.failsToEnter, Nat.mul_comm]
  | exited child exitStatus termSignal =>
    obtain ⟨sat, _, rfl⟩ := Option.map_eq_some_iff.mp called
    refine ⟨[], (List.append_nil _).symm, rfl, rfl, ?_⟩
    change fee (.exited child.action exitStatus termSignal) + 0 = 0 + 2 * _
    rw [fee, Input.failsToEnter]
    cases Dbus.failsToEnter child.action exitStatus termSignal <;> rfl

private theorem fees_run (run : Run (Step platform failsAt uvSpawn) c₀ ts c) :
    ∃ entries, c.handled = c₀.handled ++ entries ∧
      Satellite.eventsIn (ts.flatMap (inputs platform)) = eventsOf platform entries ∧
      ((ts.flatMap (inputs platform)).map fun i => ends i.flat).sum =
        ts.countP (fun t => t.label.isEnd) ∧
      ((ts.flatMap (inputs platform)).map fun i => fee i.flat).sum =
        6 * (eventsOf platform entries).length + 2 * ts.countP (fun t => t.label.failsToEnter) := by
  induction run with
  | nil => exact ⟨[], (List.append_nil _).symm, rfl, rfl, rfl⟩
  | @snoc ts c₁ c₂ input _ step ih =>
    obtain ⟨entries, handled, brought, ended, paid⟩ := ih
    obtain ⟨more, handled', brought', ended', paid'⟩ := fees_step step
    have events : eventsOf platform (entries ++ more) =
        eventsOf platform entries ++ eventsOf platform more := List.filterMap_append
    have last (f : Input → Bool) :
        (ts ++ [Transition.mk c₁ input c₂]).countP (fun t => f t.label) =
          ts.countP (fun t => f t.label) + (f input).toNat := by
      rw [List.countP_append, List.countP_singleton]
      cases f input <;> rfl
    refine ⟨entries ++ more, ?_, ?_, ?_, ?_⟩
    · rw [handled', handled, List.append_assoc]
    · rw [List.flatMap_append, List.flatMap_singleton, events, ← brought, ← brought']
      exact List.filterMap_append
    · rw [last Input.isEnd, List.flatMap_append, List.map_append, List.sum_append, ended,
        List.flatMap_singleton, ended']
    · rw [last Input.failsToEnter, List.flatMap_append, List.map_append, List.sum_append, paid,
        List.flatMap_singleton, paid', events, List.length_append]
      omega

/-- However the messages and the ends of the scripts interleave, each message with an event is
good for six scripts at most, each failure to enter safemode for two more, and each script
that runs for three others and itself. Without messages and such failures, all comes to rest. -/
theorem script_ends_le (platform : Platform) (failsAt : ℕ → Bool) (uvSpawn : Script → ℕ → Bool)
    (spawns : ∀ script j, uvSpawn script j = true) (args : Arguments) {c₀ c : DBusConnection}
    {ts : List (Transition DBusConnection Input)}
    (reached : Reachable (Step platform failsAt uvSpawn) (new (Satellite.new args false)) c₀)
    (run : Run (Step platform failsAt uvSpawn) c₀ ts c)
    {entries : List (Message × Option Reply)} (history : c.handled = c₀.handled ++ entries) :
    ts.countP (fun t => t.label.isEnd) + c.satellite.running.length ≤
      4 * c₀.satellite.running.length + 6 * (eventsOf platform entries).length +
        2 * ts.countP (fun t => t.label.failsToEnter) := by
  obtain ⟨steady, attained⟩ := attained_of_reachable spawns reached
  obtain ⟨us, satellites, labels⟩ := run_satellite run
  obtain ⟨entries', handled, _, ended, paid⟩ := fees_run run
  obtain rfl : entries = entries' := by
    rw [history] at handled
    exact List.append_cancel_left handled
  have charged := load_run spawns steady attained satellites
  have same (f : Flat.Input → ℕ) : (us.map fun t => f t.label.flat).sum =
      ((ts.flatMap (inputs platform)).map fun i => f i.flat).sum := by
    rw [← labels, List.map_map]
    rfl
  rw [same ends, same fee, ended, paid] at charged
  have least := card_le_load c.satellite.flat.running
  have most := load_le c₀.satellite.flat.running
  have running (sat : Satellite) : sat.flat.running.card = sat.running.length :=
    (Multiset.coe_card _).trans (List.length_map _)
  rw [running] at least most
  omega

/-- Manualmode is left in an alarm: one message, and six scripts. -/
theorem script_ends_le_alarm :
    ∃ ts c, Run (Step ⟨false, []⟩ (fun _ => false) fun _ _ => true)
        (new (Satellite.new { startmanual := true } false)) ts c ∧
      ts.map Transition.label = [.arrived (.ofText .thmStateChange (tempText .alarm)), .ready,
        .arrived (.ofText .setManualmode (boolText false)), .ready,
        .exited ⟨0, .leaveManualMode⟩ 0 0] ∧
      c.satellite.running.length = 5 ∧
      ts.countP (fun t => t.label.isEnd) + 5 ≤
        4 * 0 + 6 * (eventsOf ⟨false, []⟩ c.handled).length +
          2 * ts.countP (fun t => t.label.failsToEnter) := by
  obtain ⟨ts, c, run, labels, test⟩ :=
    exists_run_to (step_of_next ⟨false, []⟩ (fun _ => false) (fun _ _ => true) 9)
      (new (Satellite.new { startmanual := true } false))
      [.arrived (.ofText .thmStateChange (tempText .alarm)), .ready,
        .arrived (.ofText .setManualmode (boolText false)), .ready,
        .exited ⟨0, .leaveManualMode⟩ 0 0]
      (fun c => c.satellite.running.length = 5) (by decide +kernel)
  have five : c.satellite.running.length = 5 := of_decide_eq_true test
  have history : c.handled = (new (Satellite.new { startmanual := true } false)).handled ++
    c.handled := rfl
  have bound := script_ends_le ⟨false, []⟩ (fun _ => false) (fun _ _ => true) (fun _ _ => rfl)
    { startmanual := true } reachable_refl run history
  rw [five] at bound
  exact ⟨ts, c, run, labels, five, bound⟩

/-- Once a message has brought an event, and as long as no trigger fails, whatever the rules of
the table ask for is under way. -/
theorem rules_under_way (platform : Platform) (failsAt : ℕ → Bool) (uvSpawn : Script → ℕ → Bool)
    (spawns : ∀ script j, uvSpawn script j = true) (args : Arguments) {c₀ c : DBusConnection}
    {ts : List (Transition DBusConnection Input)}
    (reached : Reachable (Step platform failsAt uvSpawn) (new (Satellite.new args false)) c₀)
    (run : Run (Step platform failsAt uvSpawn) c₀ ts c)
    {entries : List (Message × Option Reply)} (history : c.handled = c₀.handled ++ entries)
    (brought : eventsOf platform entries ≠ [])
    (triggers : ∀ t ∈ ts, t.label.failsToTrigger = false) :
    ∀ a ∈ c.satellite.currentState.autonomousRules c.satellite.currentState,
      ∃ child ∈ c.satellite.running, child.action = a := by
  obtain ⟨steady, attained⟩ := attained_of_reachable spawns reached
  obtain ⟨us, satellites, labels⟩ := run_satellite run
  obtain ⟨entries', handled, events, _⟩ := fees_run run
  obtain rfl : entries = entries' := by
    rw [history] at handled
    exact List.append_cancel_left handled
  have listed {t : Transition Satellite Horst.Input} (mem : t ∈ us) :
      ∃ u ∈ ts, t.label ∈ inputs platform u := by
    apply List.mem_flatMap.mp
    rw [← labels]
    exact List.mem_map_of_mem mem
  have succeed : ∀ t ∈ us, ∀ child exitStatus termSignal,
      t.label = .exited child exitStatus termSignal →
        failsToTrigger child.action exitStatus termSignal = false := by
    intro t mem child exitStatus termSignal label
    obtain ⟨u, mem', mean⟩ := listed mem
    have fine := triggers u mem'
    rw [label] at mean
    unfold inputs at mean
    split at mean
    · cases mean
    · obtain ⟨_, _, other⟩ := List.mem_map.mp mean
      cases other
    · rename_i same
      obtain ⟨rfl, rfl, rfl⟩ := Horst.Input.exited.inj (List.mem_singleton.mp mean)
      rw [same] at fine
      exact fine
  have some : ∃ t ∈ us, ∃ e, t.label = .event e := by
    obtain ⟨e, mem⟩ := List.exists_mem_of_ne_nil _ brought
    rw [← events, ← labels] at mem
    obtain ⟨input, mem, event⟩ := List.mem_filterMap.mp mem
    obtain ⟨t, taken, rfl⟩ := List.mem_map.mp mem
    refine ⟨t, taken, e, ?_⟩
    split at event
    · rename_i label
      rw [label, Option.some.inj event]
    · cases event
  intro a asked
  have runs := underWay_run spawns steady attained satellites succeed some a asked
  exact List.mem_map.mp (Multiset.mem_coe.mp runs)

/-- Manualmode is not left, as it is off, but the ADCS is asked for detumbling. -/
theorem rules_under_way_detumbling :
    ∃ ts c, Run (Step ⟨false, []⟩ (fun _ => false) fun _ _ => true)
        (new (Satellite.new {} false)) ts c ∧
      ts.map Transition.label = [.arrived (.ofText .setManualmode (boolText false)), .ready] ∧
      .triggerDetumbling ∈
        c.satellite.currentState.autonomousRules c.satellite.currentState ∧
      ∃ child ∈ c.satellite.running, child.action = .triggerDetumbling := by
  obtain ⟨ts, c, run, labels, test⟩ :=
    exists_run_to (step_of_next ⟨false, []⟩ (fun _ => false) (fun _ _ => true) 9)
      (new (Satellite.new {} false))
      [.arrived (.ofText .setManualmode (boolText false)), .ready]
      (fun c => decide (eventsOf ⟨false, []⟩ c.handled ≠ [] ∧ .triggerDetumbling ∈
        c.satellite.currentState.autonomousRules c.satellite.currentState)) (by decide +kernel)
  obtain ⟨brought, due⟩ := of_decide_eq_true test
  have triggers : ∀ t ∈ ts, t.label.failsToTrigger = false := by
    intro t mem
    have listed : t.label ∈ ts.map Transition.label := List.mem_map_of_mem mem
    rw [labels] at listed
    rcases List.mem_cons.mp listed with label | rest
    · rw [label]
      rfl
    · rw [List.mem_singleton.mp rest]
      rfl
  exact ⟨ts, c, run, labels, due,
    rules_under_way ⟨false, []⟩ (fun _ => false) (fun _ _ => true) (fun _ _ => rfl) {}
      reachable_refl run rfl brought triggers .triggerDetumbling due⟩

end DBusConnection

end Dbus

end Horst
