import Horst.Foundation.Interleaving
import Horst.Satellite.Guards
import Horst.Satellite.Indifference

/-!
The facts that the daemons measure. Each of them only changes its own field; what a run
of such facts leaves behind does not depend on the order in which the daemons report.
-/

set_option autoImplicit false
set_option relaxedAutoImplicit false

namespace Horst

open Foundation Foundation.Nested

inductive Daemon
  | thm | eps | adcs | payload
  deriving DecidableEq, Repr

def Event.daemon? : Event → Option Daemon
  | .thmSignal _ => some .thm
  | .epsSignal _ => some .eps
  | .adcsSignal _ => some .adcs
  | .payloadSignal _ => some .payload
  | _ => none

def Event.IsSensor (e : Event) : Prop := e.daemon?.isSome

/-- The facts that are an emergency in themselves. -/
def Event.Alarming (treshold : UInt16) : Event → Prop
  | .thmSignal temp => temp = .alarm
  | .epsSignal bat => bat < treshold
  | _ => False

theorem Event.IsSensor.cases {e : Event} (sensor : e.IsSensor) :
    (∃ temp, e = .thmSignal temp) ∨ (∃ bat, e = .epsSignal bat) ∨
      (∃ status, e = .adcsSignal status) ∨ ∃ daemon, e = .payloadSignal daemon := by
  cases e with
  | thmSignal temp => exact Or.inl ⟨temp, rfl⟩
  | epsSignal bat => exact Or.inr (Or.inl ⟨bat, rfl⟩)
  | adcsSignal status => exact Or.inr (Or.inr (Or.inl ⟨status, rfl⟩))
  | payloadSignal daemon => exact Or.inr (Or.inr (Or.inr ⟨daemon, rfl⟩))
  | _ => cases sensor

theorem Event.IsSensor.isFact {e : Event} (sensor : e.IsSensor) : e.isFact = true := by
  rcases sensor.cases with ⟨_, rfl⟩ | ⟨_, rfl⟩ | ⟨_, rfl⟩ | ⟨_, rfl⟩ <;> rfl

private theorem Event.update_comm {e e' : Event} (sensor : e.IsSensor) (sensor' : e'.IsSensor)
    (other : e.daemon? ≠ e'.daemon?) (s : State) :
    e'.update (e.update s) = e.update (e'.update s) := by
  rcases sensor.cases with ⟨_, rfl⟩ | ⟨_, rfl⟩ | ⟨_, rfl⟩ | ⟨_, rfl⟩ <;>
    rcases sensor'.cases with ⟨_, rfl⟩ | ⟨_, rfl⟩ | ⟨_, rfl⟩ | ⟨_, rfl⟩ <;>
    first
      | rfl
      | exact absurd rfl other

namespace State

/-- The state after facts whose calls of `on_event` have all returned. -/
def told (s : State) (es : List Event) : State := es.foldl (fun s e => (e.update s).settle) s

def measured (s : State) (es : List Event) : State := es.foldl (fun s e => e.update s) s

variable {s : State} {e : Event} {es : List Event}

private theorem normal_update (sensor : e.IsSensor) : (e.update s).Normal ↔ s.Normal := by
  rcases sensor.cases with ⟨_, rfl⟩ | ⟨_, rfl⟩ | ⟨_, rfl⟩ | ⟨_, rfl⟩ <;> rfl

private theorem batteryTreshold_update (sensor : e.IsSensor) :
    (e.update s).batteryTreshold = s.batteryTreshold := by
  rcases sensor.cases with ⟨_, rfl⟩ | ⟨_, rfl⟩ | ⟨_, rfl⟩ | ⟨_, rfl⟩ <;> rfl

private theorem update_enter (sensor : e.IsSensor) (reason : UInt8) :
    e.update (s.enter reason) = (e.update s).enter reason := by
  rcases sensor.cases with ⟨_, rfl⟩ | ⟨_, rfl⟩ | ⟨_, rfl⟩ | ⟨_, rfl⟩ <;> rfl

private theorem measured_enter (sensors : ∀ e ∈ es, Event.IsSensor e) (reason : UInt8) :
    (s.enter reason).measured es = (s.measured es).enter reason := by
  induction es generalizing s with
  | nil => rfl
  | cons e es ih =>
    have here := update_enter (s := s) (sensors e List.mem_cons_self) reason
    have rest := ih (s := e.update s) fun e' mem => sensors e' (List.mem_cons_of_mem e mem)
    change (e.update (s.enter reason)).measured es = _
    rw [here, rest]
    rfl

private theorem urgent_update_iff (sensor : e.IsSensor) (covered : s.Covered) (normal : s.Normal) :
    (e.update s).Urgent ↔ e.Alarming s.batteryTreshold := by
  have calm := covered.emergency_of_normal normal
  rw [Urgent, normal_update sensor, and_iff_right normal, ne_eq, emergency_eq_zero_iff]
  rw [emergency_eq_zero_iff] at calm
  rcases sensor.cases with ⟨temp, rfl⟩ | ⟨bat, rfl⟩ | ⟨_, rfl⟩ | ⟨_, rfl⟩
  · simp [Event.update, Event.Alarming, calm.2]
  · simp [Event.update, Event.Alarming, calm.1]
  · exact iff_of_false (fun h => h calm) id
  · exact iff_of_false (fun h => h calm) id

private theorem told_of_not_normal (sensors : ∀ e ∈ es, Event.IsSensor e) (modes : ¬ s.Normal) :
    s.told es = s.measured es := by
  induction es generalizing s with
  | nil => rfl
  | cons e es ih =>
    have kept : ¬ (e.update s).Normal := by
      rwa [normal_update (sensors e List.mem_cons_self)]
    have settled : (e.update s).settle = e.update s :=
      settle_of_not_urgent (not_urgent_of_not_normal kept)
    change (e.update s).settle.told es = (e.update s).measured es
    rw [settled]
    exact ih (fun e' mem => sensors e' (List.mem_cons_of_mem e mem)) kept

private theorem told_of_quiet (sensors : ∀ e ∈ es, Event.IsSensor e) (covered : s.Covered)
    (normal : s.Normal) (quiet : ∀ e ∈ es, ¬ e.Alarming s.batteryTreshold) :
    s.told es = s.measured es := by
  induction es generalizing s with
  | nil => rfl
  | cons e es ih =>
    have sensor := sensors e List.mem_cons_self
    have calm : ¬ (e.update s).Urgent := by
      rw [urgent_update_iff sensor covered normal]
      exact quiet e List.mem_cons_self
    have settled : (e.update s).settle = e.update s := settle_of_not_urgent calm
    change (e.update s).settle.told es = (e.update s).measured es
    rw [settled]
    refine ih (fun e' mem => sensors e' (List.mem_cons_of_mem e mem)) ((covered_iff _).mpr calm)
      ((normal_update sensor).mpr normal) fun e' mem => ?_
    rw [batteryTreshold_update sensor]
    exact quiet e' (List.mem_cons_of_mem e mem)

private theorem told_of_alarming (sensors : ∀ e ∈ es, Event.IsSensor e) (covered : s.Covered)
    (normal : s.Normal) (alarming : ∃ e ∈ es, e.Alarming s.batteryTreshold) :
    ∃ reason, reason ≠ 0 ∧ s.told es = (s.measured es).enter reason := by
  induction es generalizing s with
  | nil =>
    obtain ⟨_, mem, _⟩ := alarming
    cases mem
  | cons e es ih =>
    have sensor := sensors e List.mem_cons_self
    have rest : ∀ e' ∈ es, Event.IsSensor e' := fun e' mem =>
      sensors e' (List.mem_cons_of_mem e mem)
    have urgent_iff := urgent_update_iff sensor covered normal
    by_cases now : (e.update s).Urgent
    · refine ⟨(e.update s).emergency, now.2, ?_⟩
      change (e.update s).settle.told es = ((e.update s).measured es).enter _
      rw [settle_of_urgent now, told_of_not_normal rest (not_normal_enter now.2),
        measured_enter rest]
    · have settled : (e.update s).settle = e.update s := settle_of_not_urgent now
      change ∃ reason, reason ≠ 0 ∧
        (e.update s).settle.told es = ((e.update s).measured es).enter reason
      rw [settled]
      refine ih rest ((covered_iff _).mpr now) ((normal_update sensor).mpr normal) ?_
      obtain ⟨e', mem, hazard⟩ := alarming
      rw [batteryTreshold_update sensor]
      rcases List.mem_cons.mp mem with rfl | later
      · exact absurd (urgent_iff.mpr hazard) now
      · exact ⟨e', later, hazard⟩

private theorem told_interleaves {es' : List Event} {lists : Option Daemon → List Event}
    (sensors : ∀ e ∈ es, Event.IsSensor e) (covered : s.Covered)
    (first : Interleaves Event.daemon? lists es) (second : Interleaves Event.daemon? lists es') :
    { s.told es with safemode := 0 } = { s.told es' with safemode := 0 } ∧
      ((s.told es).safemode = 0 ↔ (s.told es').safemode = 0) := by
  have mem (e : Event) : e ∈ es' ↔ e ∈ es := second.mem_iff.trans first.mem_iff.symm
  have sensors' : ∀ e ∈ es', Event.IsSensor e := fun e mem' => sensors e ((mem e).mp mem')
  have values : s.measured es = s.measured es' :=
    foldl_interleaves (fun a mema b memb other s =>
      Event.update_comm (sensors a mema) (sensors b memb) other s) first second s
  by_cases normal : s.Normal
  · by_cases alarming : ∃ e ∈ es, e.Alarming s.batteryTreshold
    · have alarming' : ∃ e ∈ es', e.Alarming s.batteryTreshold := by
        obtain ⟨e, mem', hazard⟩ := alarming
        exact ⟨e, (mem e).mpr mem', hazard⟩
      obtain ⟨reason, nonzero, state⟩ := told_of_alarming sensors covered normal alarming
      obtain ⟨reason', nonzero', state'⟩ := told_of_alarming sensors' covered normal alarming'
      rw [state, state', values]
      exact ⟨rfl, iff_of_false nonzero nonzero'⟩
    · have quiet : ∀ e ∈ es, ¬ e.Alarming s.batteryTreshold :=
        fun e mem' hazard => alarming ⟨e, mem', hazard⟩
      have quiet' : ∀ e ∈ es', ¬ e.Alarming s.batteryTreshold :=
        fun e mem' => quiet e ((mem e).mp mem')
      rw [told_of_quiet sensors covered normal quiet, told_of_quiet sensors' covered normal quiet',
        values]
      exact ⟨rfl, Iff.rfl⟩
  · rw [told_of_not_normal sensors normal, told_of_not_normal sensors' normal, values]
    exact ⟨rfl, Iff.rfl⟩

private theorem pass_unforced
    (fact : e.isFact = true) (off : (e.update s).enforcedSafemode = false) :
    s.pass e = (e.update s, (e.update s).computer.transformTo (e.update s).computer ++
      (e.update s).autonomousRules (e.update s)) := by
  rw [pass_fact fact, transformTo_eq, manualmodeRules_same rfl, safemodeRules_same rfl off,
    leopRules_same rfl, List.append_nil, List.append_nil, List.append_nil]

private theorem enforced_update (fact : e.isFact = true) :
    (e.update s).enforcedSafemode = s.enforcedSafemode := by
  cases e <;> first
    | rfl
    | cases fact

private theorem enforced_settle (s : State) : s.settle.enforcedSafemode = s.enforcedSafemode := by
  unfold settle
  split <;> rfl

private theorem enforced_told (sensors : ∀ e ∈ es, Event.IsSensor e) :
    (s.told es).enforcedSafemode = s.enforcedSafemode := by
  induction es generalizing s with
  | nil => rfl
  | cons e es ih =>
    have fact : e.isFact = true := (sensors e List.mem_cons_self).isFact
    have rest := ih (s := (e.update s).settle) fun e' mem =>
      sensors e' (List.mem_cons_of_mem e mem)
    exact rest.trans ((enforced_settle _).trans (enforced_update fact))

end State

namespace Satellite

variable {uvSpawn : Script → ℕ → Bool} {sat sat' : Satellite} {e : Event} {es : List Event}

variable (uvSpawn) in
private theorem fact_pass (n : ℕ) (fact : e.isFact = true)
    (off : sat.currentState.enforcedSafemode = false) :
    ∃ sat₁, sat₁.currentState = e.update sat.currentState ∧
      Satellite.onEvent uvSpawn (n + 1) e sat =
        performActions uvSpawn (Satellite.onEvent uvSpawn n)
          ((e.update sat.currentState).autonomousRules (e.update sat.currentState)) sat₁ := by
  set t := e.update sat.currentState with ht
  have forced : t.enforcedSafemode = false := (State.enforced_update fact).trans off
  have plain : ∀ a ∈ t.computer.transformTo t.computer, a.isPlain = true := by
    intro a mem
    obtain ⟨_, _, rfl⟩ := List.mem_map.mp mem
    rfl
  obtain ⟨sat₁, run, state, _⟩ := performActions_plain uvSpawn _ plain (sat.heard e)
  refine ⟨sat₁, ?_, ?_⟩
  · rw [state]
    exact congrArg Prod.fst (State.pass_unforced fact forced)
  · change onEventBody uvSpawn (Satellite.onEvent uvSpawn n) e sat = _
    rw [onEventBody_eq, State.pass_unforced fact forced, performActions_append, run]
    rfl

private theorem fact_calm (n : ℕ) (fact : e.isFact = true)
    (off : sat.currentState.enforcedSafemode = false)
    (calm : ¬ (e.update sat.currentState).Urgent) :
    ∃ sat', Satellite.onEvent uvSpawn (n + 1) e sat = some sat' ∧
      sat'.currentState = e.update sat.currentState := by
  obtain ⟨sat₁, state, body⟩ := fact_pass uvSpawn n fact off
  set t := e.update sat.currentState with ht
  rw [body]
  by_cases normal : t.Normal
  · have noEmergency : t.emergency = 0 := by
      by_contra nonzero
      exact calm ⟨normal, nonzero⟩
    obtain ⟨sat₂, run, state₂, _⟩ := performActions_triggers uvSpawn t t sat₁
    rw [State.autonomousRules_of_calm t normal noEmergency]
    exact ⟨sat₂, run _, state₂.trans state⟩
  · rw [State.autonomousRules_of_not_normal t normal]
    exact ⟨sat₁, rfl, state⟩

private theorem fact_settles (spawns : ∀ script j, uvSpawn script j = true) (n : ℕ)
    (fact : e.isFact = true) (off : sat.currentState.enforcedSafemode = false) :
    ∃ sat', Satellite.onEvent uvSpawn (n + 2) e sat = some sat' ∧
      sat'.currentState = (e.update sat.currentState).settle := by
  set t := e.update sat.currentState with ht
  by_cases urgent : t.Urgent
  swap
  · rw [State.settle_of_not_urgent urgent]
    exact fact_calm (n + 1) fact off urgent
  obtain ⟨sat₁, state₁, body⟩ := fact_pass uvSpawn (n + 1) fact off
  have forced : t.enforcedSafemode = false := (State.enforced_update fact).trans off
  set prepared := sat₁.prepared (.enterSafeMode t.emergency) with hprepared
  have state₀ : prepared.currentState = t := state₁
  -- the two signals meet a state in safemode
  obtain ⟨sat₂, signal, state₂⟩ : ∃ sat₂, Satellite.onEvent uvSpawn (n + 1)
      (.safeModeSignal t.emergency) prepared = some sat₂ ∧
      sat₂.currentState = Event.update (.safeModeSignal t.emergency) prepared.currentState :=
    fact_calm n rfl (by rw [state₀]; exact forced) fun h => urgent.2 h.1.1
  obtain ⟨sat₃, maneuver, state₃⟩ : ∃ sat₃, Satellite.onEvent uvSpawn (n + 1)
      (.maneuverModeSignal false) sat₂ = some sat₃ ∧
      sat₃.currentState = Event.update (.maneuverModeSignal false) sat₂.currentState := by
    refine fact_calm n rfl ?_ fun h => ?_
    · rw [state₂, state₀]
      exact forced
    · rw [state₂] at h
      exact urgent.2 h.1.1
  have entered : sat₃.currentState = t.enter t.emergency := by
    rw [state₃, state₂, state₀]
    rfl
  set started := (sat₃.created sat₁.nextId (.enterSafeMode t.emergency) true).started sat₁.nextId
    (.enterSafeMode t.emergency) with hstarted
  have script : EnterSafeMode.perform uvSpawn (Satellite.onEvent uvSpawn (n + 1)) sat₁.nextId
      t.emergency prepared = some started := by
    rw [EnterSafeMode.perform, signal, Option.bind_some, maneuver, Option.bind_some]
    simp only [ShellCommand.perform, spawns, if_true]
    rfl
  obtain ⟨sat₄, run, state₄, _⟩ := performActions_triggers uvSpawn t t started
  refine ⟨sat₄, ?_, ?_⟩
  · rw [body, State.autonomousRules_of_urgent t urgent, performActions_cons]
    exact (congrArg (Option.bind · _) script).trans (run _)
  · rw [state₄, State.settle_of_urgent urgent]
    exact entered

private theorem sensor_step (spawns : ∀ script j, uvSpawn script j = true) (sensor : e.IsSensor)
    (off : sat.currentState.enforcedSafemode = false) :
    ∃ sat', Step uvSpawn sat (.event e) sat' ∧
      sat'.currentState = (e.update sat.currentState).settle := by
  have outside : e.external = true := by
    rcases sensor.cases with ⟨_, rfl⟩ | ⟨_, rfl⟩ | ⟨_, rfl⟩ | ⟨_, rfl⟩ <;> rfl
  set woken := sat.record (.callback sat.currentState) with hwoken
  have unforced : woken.currentState.enforcedSafemode = false := off
  obtain ⟨sat', served, state⟩ := fact_settles spawns 0 sensor.isFact unforced
  exact ⟨sat', ⟨outside, 2, served⟩, state⟩

private theorem exists_sensors_run (spawns : ∀ script j, uvSpawn script j = true)
    (off : sat.currentState.enforcedSafemode = false) (sensors : ∀ e ∈ es, Event.IsSensor e) :
    ∃ ts sat', Run (Step uvSpawn) sat ts sat' ∧ ts.map Transition.label = es.map Input.event ∧
      sat'.currentState = sat.currentState.told es := by
  induction es using List.reverseRecOn with
  | nil => exact ⟨[], sat, .nil, rfl, rfl⟩
  | append_singleton es e ih =>
    obtain ⟨ts, sat₁, run, labels, state⟩ := ih fun e' mem =>
      sensors e' (List.mem_append_left [e] mem)
    have unforced : sat₁.currentState.enforcedSafemode = false := by
      rw [state, State.enforced_told fun e' mem => sensors e' (List.mem_append_left [e] mem)]
      exact off
    have sensor := sensors e (List.mem_append_right es List.mem_cons_self)
    obtain ⟨sat', step, state'⟩ := sensor_step spawns sensor unforced
    refine ⟨ts ++ [⟨sat₁, .event e, sat'⟩], sat', run.snoc step, ?_, ?_⟩
    · rw [List.map_append, List.map_append, labels]
      rfl
    · rw [state', state, State.told, State.told, List.foldl_append]
      rfl

/-- The order in which the daemons report does not matter, but for the reason for safemode. -/
theorem sensor_order (uvSpawn : Script → ℕ → Bool) (spawns : ∀ script j, uvSpawn script j = true)
    (sat : Satellite) (covered : sat.currentState.Covered)
    (off : sat.currentState.enforcedSafemode = false) (lists : Daemon → List Event)
    {es es' : List Event} (first : Interleaves Event.daemon? (fun d => d.elim [] lists) es)
    (second : Interleaves Event.daemon? (fun d => d.elim [] lists) es') :
    (∃ ts sat₁, Run (Step uvSpawn) sat ts sat₁ ∧
      ts.map Transition.label = es.map Input.event) ∧
    ∀ ts ts' sat₁ sat₁', Run (Step uvSpawn) sat ts sat₁ →
      ts.map Transition.label = es.map Input.event → Run (Step uvSpawn) sat ts' sat₁' →
      ts'.map Transition.label = es'.map Input.event →
      { sat₁.currentState with safemode := 0 } = { sat₁'.currentState with safemode := 0 } ∧
        (sat₁.currentState.safemode = 0 ↔ sat₁'.currentState.safemode = 0) := by
  have sensors {es : List Event} (h : Interleaves Event.daemon? (fun d => d.elim [] lists) es) :
      ∀ e ∈ es, Event.IsSensor e := by
    intro e mem
    have listed := h.mem_iff.mp mem
    unfold Event.IsSensor
    cases daemon : e.daemon? with
    | none =>
      rw [daemon] at listed
      cases listed
    | some d => rfl
  obtain ⟨us, sat₂, run₂, labels₂, state₂⟩ := exists_sensors_run spawns off (sensors first)
  obtain ⟨us', sat₂', run₂', labels₂', state₂'⟩ := exists_sensors_run spawns off (sensors second)
  refine ⟨⟨us, sat₂, run₂, labels₂⟩, ?_⟩
  intro ts ts' sat₁ sat₁' run labels run' labels'
  have det : ∀ sat input sat₁ sat₂, Step uvSpawn sat input sat₁ → Step uvSpawn sat input sat₂ →
      sat₁ = sat₂ := fun _ _ _ _ => step_unique
  obtain ⟨_, rfl⟩ := run₂.unique det run (labels₂.trans labels.symm)
  obtain ⟨_, rfl⟩ := run₂'.unique det run' (labels₂'.trans labels'.symm)
  rw [state₂, state₂']
  exact State.told_interleaves (sensors first) covered first second

/-- An alarm that passes, before or after the battery runs low. -/
theorem sensor_order_alarm :
    (∃ ts sat₁, Run (Step fun _ _ => true) (Satellite.new {} false) ts sat₁ ∧
      ts.map Transition.label =
        [.thmSignal .alarm, .thmSignal .ok, .epsSignal 7].map Input.event) ∧
    ∀ ts ts' sat₁ sat₁', Run (Step fun _ _ => true) (Satellite.new {} false) ts sat₁ →
      ts.map Transition.label =
        [.thmSignal .alarm, .thmSignal .ok, .epsSignal 7].map Input.event →
      Run (Step fun _ _ => true) (Satellite.new {} false) ts' sat₁' →
      ts'.map Transition.label =
        [.epsSignal 7, .thmSignal .alarm, .thmSignal .ok].map Input.event →
      { sat₁.currentState with safemode := 0 } = { sat₁'.currentState with safemode := 0 } ∧
        (sat₁.currentState.safemode = 0 ↔ sat₁'.currentState.safemode = 0) := by
  have covered : (Satellite.new {} false).currentState.Covered := by decide +kernel
  let lists : Daemon → List Event
    | .thm => [.thmSignal .alarm, .thmSignal .ok]
    | .eps => [.epsSignal 7]
    | .adcs | .payload => []
  have first : Interleaves Event.daemon? (fun d => d.elim [] lists)
      [.thmSignal .alarm, .thmSignal .ok, .epsSignal 7] := by
    rintro (_ | _ | _ | _ | _) <;> rfl
  have second : Interleaves Event.daemon? (fun d => d.elim [] lists)
      [.epsSignal 7, .thmSignal .alarm, .thmSignal .ok] := by
    rintro (_ | _ | _ | _ | _) <;> rfl
  exact sensor_order _ (fun _ _ => rfl) _ covered rfl lists first second

end Satellite

end Horst
