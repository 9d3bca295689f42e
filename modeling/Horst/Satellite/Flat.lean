import Horst.Foundation.Refinement
import Horst.Satellite.ClosedForm
import Horst.Satellite.Indifference
import Horst.Satellite.Scope
import Mathlib.Data.Multiset.MapFold

/-!
The controller without re-entrant calls: a table that answers an event, or the end of a
script, with a new state and the scripts to start, in their order. With every script started,
the program does what this table says.
-/

set_option autoImplicit false
set_option relaxedAutoImplicit false

namespace Horst

open Foundation Foundation.Nested

namespace State

/-- The scripts that an event is answered with, in the order in which they are started. -/
def orders (s : State) : Event → List Action
  | .manualModeReq true =>
      (if s.manualmode = false then [.enterManualMode] else []) ++ s.autonomousRules s
  | .manualModeReq false =>
      if s.manualmode = true then
        let left := { s with manualmode := false }
        left.autonomousRules left ++ [.leaveManualMode]
      else
        s.autonomousRules s
  | .safeModeReq true => .enterSafeMode 3 :: s.autonomousRules s
  | .safeModeReq false =>
      if s.safemode ≠ 0 then
        let left := { s with safemode := 0 }
        left.autonomousRules left ++ [.leaveSafeMode]
      else
        s.autonomousRules s
  | .leopReq leop =>
      let changed := { s with leop := leop }
      if leop = .done ∧ s.leop ≠ .done then
        changed.autonomousRules changed ++ .finishLEOP :: s.autonomousRules s
      else
        changed.autonomousRules changed
  | .payloadReq wanted => s.autonomousRules { s with pl := ⟨wanted⟩ }
  | .controlMessage message => .shellCommand message.command message :: s.autonomousRules s
  | f => (f.update s).autonomousRules (f.update s)

/-- A fact is entered into the state, and the rules of the table apply. -/
def note (s : State) (f : Event) : State × List Action := ((f.update s).settle, s.orders f)

/-- Safemode is entered anew; an emergency then counts for more than the request. -/
def reassert (s : State) : State × List Action :=
  let cleared := { s with safemode := 0 }
  (if cleared.Urgent then cleared.settle else cleared.enter 3,
    .enterSafeMode 3 :: cleared.autonomousRules cleared)

def conclude (s : State) (action : Action) (success : Bool) : State × List Action :=
  match action with
  | .enterSafeMode _ => if success then (s, []) else s.note (.safeModeSignal 0)
  | .leaveManualMode => if s.safemode ≠ 0 then s.reassert else (s, [])
  | action =>
      match action.report with
      | some f => if success then s.note f else (s, [])
      | none => (s, [])

end State

structure Flat where
  state : State
  running : Multiset Action
  deriving DecidableEq

namespace Flat

inductive Input
  | event (event : Event)
  | exited (action : Action) (exitStatus : Int) (termSignal : Int)
  deriving DecidableEq, Repr

def new (args : Arguments) : Flat := ⟨(Satellite.new args false).currentState, 0⟩

def answered (running : Multiset Action) (answer : State × List Action) : Flat × List Action :=
  (⟨answer.1, running + answer.2⟩, answer.2)

/-- The answer to an input that can occur. -/
def next (c : Flat) : Input → Option (Flat × List Action)
  | .event event =>
      if event.external = true then
        some (answered c.running (c.state.respond event, c.state.orders event))
      else
        none
  | .exited action exitStatus termSignal =>
      if action ∈ c.running then
        let running := c.running.erase action
        if termSignal ≠ SIGTERM then
          some (answered running (c.state.conclude action (exitStatus = 0)))
        else
          some (answered running (c.state, []))
      else
        none

end Flat

def Input.flat : Input → Flat.Input
  | .event e => .event e
  | .exited child exitStatus termSignal => .exited child.action exitStatus termSignal

namespace Satellite

def flat (sat : Satellite) : Flat := ⟨sat.currentState, sat.running.map Child.action⟩

def spawned (sat : Satellite) : List Action := sat.launches.map Launch.action

structure Ordered (s : State) (as : List Action) (sat sat' : Satellite) : Prop where
  state : sat'.currentState = s
  running : sat'.running.map Child.action = sat.running.map Child.action ++ as
  spawned : sat'.spawned = sat.spawned ++ as

variable (uvSpawn : Script → ℕ → Bool)

/-- The computation returns, in the given state and with the given scripts started. -/
def Gives (c : Handler Event Satellite → Option Satellite) (s : State) (as : List Action)
    (sat : Satellite) : Prop :=
  ∃ sat', Computes (onEventBody uvSpawn) c sat' ∧ Ordered s as sat sat'

variable {uvSpawn} {s s' : State} {as bs : List Action} {sat sat₁ sat' : Satellite}
  {c : Handler Event Satellite → Option Satellite}

theorem Ordered.trans (first : Ordered s as sat sat₁) (second : Ordered s' bs sat₁ sat') :
    Ordered s' (as ++ bs) sat sat' where
  state := second.state
  running := by rw [second.running, first.running, List.append_assoc]
  spawned := by rw [second.spawned, first.spawned, List.append_assoc]

theorem Gives.congr (gives : Gives uvSpawn c s as sat)
    (running : sat.running = sat₁.running) (launches : sat.launches = sat₁.launches) :
    Gives uvSpawn c s as sat₁ := by
  obtain ⟨sat', computes, ordered⟩ := gives
  refine ⟨sat', computes, ordered.state, ?_, ?_⟩
  · rw [ordered.running, running]
  · rw [ordered.spawned, Satellite.spawned, launches]
    rfl

private theorem gives_pure (sat : Satellite) :
    Gives uvSpawn (fun _ => some sat) sat.currentState [] sat :=
  ⟨sat, computes_pure sat, rfl, (List.append_nil _).symm, (List.append_nil _).symm⟩

theorem Gives.bind {d : Handler Event Satellite → Satellite → Option Satellite}
    (first : Gives uvSpawn c s as sat)
    (second : ∀ sat₁, sat₁.currentState = s → Gives uvSpawn (fun g => d g sat₁) s' bs sat₁) :
    Gives uvSpawn (fun g => (c g).bind (d g)) s' (as ++ bs) sat := by
  obtain ⟨sat₁, computes, ordered⟩ := first
  obtain ⟨sat', computes', ordered'⟩ := second sat₁ ordered.state
  exact ⟨sat', computes.bind computes', ordered.trans ordered'⟩

theorem Gives.of_eq (gives : Gives uvSpawn c s as sat) (state : s = s') (orders : as = bs) :
    Gives uvSpawn c s' bs sat := by
  rw [← state, ← orders]
  exact gives

private theorem Gives.call_eq {d : Handler Event Satellite → Option Satellite}
    (gives : Gives uvSpawn c s as sat) (eq : ∀ g, d g = c g) : Gives uvSpawn d s as sat := by
  obtain ⟨sat', computes, ordered⟩ := gives
  exact ⟨sat', computes.congr eq, ordered⟩

theorem Gives.call {e : Event} (gives : Gives uvSpawn c s as sat₁)
    (body : ∀ g, c g = onEventBody uvSpawn g e sat) : Gives uvSpawn (fun g => g e sat) s as sat₁ := by
  obtain ⟨sat', computes, ordered⟩ := gives
  exact ⟨sat', computes_call (computes.congr fun g => (body g).symm), ordered⟩

private theorem Gives.perform_cons {a : Action}
    (head : Gives uvSpawn (fun g => a.perform uvSpawn g sat.nextId (sat.prepared a)) s as
      (sat.prepared a)) {rest : List Action}
    (tail : ∀ sat₁, sat₁.currentState = s →
      Gives uvSpawn (fun g => performActions uvSpawn g rest sat₁) s' bs sat₁) :
    Gives uvSpawn (fun g => performActions uvSpawn g (a :: rest) sat) s' (as ++ bs) sat := by
  have both := head.bind tail
  exact both.congr rfl (launches_prepared sat a)

private theorem gives_quiet {f : Event} (fact : f.isFact = true) (idle : sat.currentState.Idle)
    (modes : ¬ (f.update sat.currentState).Normal) :
    Gives uvSpawn (fun g => g f sat) (f.update sat.currentState) [] sat := by
  refine ⟨(sat.record (.event f sat.currentState)).setState (f.update sat.currentState), ?_, rfl,
    (List.append_nil _).symm, ?_⟩
  · apply computes_call
    apply (computes_pure _).congr
    intro g
    rw [onEventBody_fact uvSpawn g fact idle, State.autonomousRules_of_not_normal _ modes]
    rfl
  · rw [Satellite.spawned, launches_setState, launches_record, List.append_nil]
    exact congrArg (List.map Launch.action) (List.append_nil _)

section Spawning

variable (spawns : ∀ script j, uvSpawn script j = true)
include spawns

private theorem gives_script (id : ℕ) (a : Action) (sat : Satellite) :
    Gives uvSpawn (fun g => ShellCommand.perform uvSpawn g id a sat) sat.currentState [a] sat := by
  refine ⟨(sat.created id a true).started id a, ?_, rfl, ?_, ?_⟩
  · apply (computes_pure _).congr
    intro g
    rw [ShellCommand.perform, spawns]
    rfl
  · exact List.map_append
  · rw [Satellite.spawned, launches_started, launches_created, List.map_append]
    rfl

private theorem gives_enterSafeMode {reason : UInt8} (nonzero : reason ≠ 0) (id : ℕ)
    (idle : sat.currentState.Idle) :
    Gives uvSpawn (fun g => EnterSafeMode.perform uvSpawn g id reason sat)
      (sat.currentState.enter reason) [.enterSafeMode reason] sat := by
  have modes : ¬ (Event.update (.safeModeSignal reason) sat.currentState).Normal :=
    fun normal => nonzero normal.1
  have signal : Gives uvSpawn (fun g => g (.safeModeSignal reason) sat) _ _ sat :=
    gives_quiet rfl idle modes
  refine signal.bind fun sat₁ state₁ => ?_
  have idle₁ : sat₁.currentState.Idle := by
    rw [state₁]
    exact idle.update rfl
  have modes₁ : ¬ (Event.update (.maneuverModeSignal false) sat₁.currentState).Normal := by
    rw [state₁]
    exact fun normal => nonzero normal.1
  have maneuver : Gives uvSpawn (fun g => g (.maneuverModeSignal false) sat₁) _ _ sat₁ :=
    gives_quiet rfl idle₁ modes₁
  refine maneuver.bind fun sat₂ state₂ => ?_
  have entered : sat₂.currentState = sat.currentState.enter reason := by
    rw [state₂, state₁]
    rfl
  rw [← entered]
  exact gives_script spawns id (.enterSafeMode reason) sat₂

private theorem gives_plain (plain : ∀ a ∈ as, a.isPlain = true) (sat : Satellite) :
    Gives uvSpawn (fun g => performActions uvSpawn g as sat) sat.currentState as sat := by
  induction as generalizing sat with
  | nil => exact gives_pure sat
  | cons a as ih =>
    have first : a.isPlain = true := plain a List.mem_cons_self
    have head : Gives uvSpawn (fun g => a.perform uvSpawn g sat.nextId (sat.prepared a))
        sat.currentState [a] (sat.prepared a) := by
      obtain ⟨sat', computes, ordered⟩ := gives_script spawns sat.nextId a (sat.prepared a)
      refine ⟨sat', computes.congr fun g => ?_, ordered⟩
      rw [Action.perform_of_isPlain uvSpawn g _ first]
    have tail : ∀ sat₁, sat₁.currentState = sat.currentState →
        Gives uvSpawn (fun g => performActions uvSpawn g as sat₁) sat.currentState as sat₁ := by
      intro sat₁ state₁
      rw [← state₁]
      exact ih (fun b mem => plain b (List.mem_cons_of_mem a mem)) sat₁
    exact head.perform_cons tail

private theorem gives_calm (calm : ¬ s.Urgent) (target : State) (sat : Satellite) :
    Gives uvSpawn (fun g => performActions uvSpawn g (s.autonomousRules target) sat)
      sat.currentState (s.autonomousRules target) sat := by
  apply gives_plain spawns
  intro a mem
  by_cases normal : s.Normal
  · have none : s.emergency = 0 := by
      by_contra nonzero
      exact calm ⟨normal, nonzero⟩
    rw [State.autonomousRules_of_calm target normal none] at mem
    exact Action.isPlain_of_isTrigger (State.isTrigger_of_mem_dueTriggers mem)
  · rw [State.autonomousRules_of_not_normal target normal] at mem
    cases mem

private theorem gives_urgent (urgent : s.Urgent) (target : State) (idle : sat.currentState.Idle) :
    Gives uvSpawn (fun g => performActions uvSpawn g (s.autonomousRules target) sat)
      (sat.currentState.enter s.emergency) (s.autonomousRules target) sat := by
  rw [State.autonomousRules_of_urgent target urgent]
  have enters : Gives uvSpawn
      (fun g => (Action.enterSafeMode s.emergency).perform uvSpawn g sat.nextId
        (sat.prepared (.enterSafeMode s.emergency)))
      (sat.currentState.enter s.emergency) [.enterSafeMode s.emergency]
      (sat.prepared (.enterSafeMode s.emergency)) :=
    gives_enterSafeMode spawns urgent.2 sat.nextId idle
  refine enters.perform_cons fun sat₁ state₁ => ?_
  rw [← state₁]
  apply gives_plain spawns
  intro a mem
  exact Action.isPlain_of_isTrigger (State.isTrigger_of_mem_dueTriggers mem)

private theorem gives_rules (state : sat.currentState = s) (idle : s.Idle) :
    Gives uvSpawn (fun g => performActions uvSpawn g (s.autonomousRules s) sat) s.settle
      (s.autonomousRules s) sat := by
  by_cases urgent : s.Urgent
  · rw [State.settle_of_urgent urgent, ← state]
    have enters := gives_urgent spawns urgent s (state ▸ idle)
    rw [state] at enters
    rw [state]
    exact enters
  · rw [State.settle_of_not_urgent urgent]
    have calm := gives_calm spawns urgent s sat
    rw [state] at calm
    exact calm

private theorem gives_fact {f : Event} (fact : f.isFact = true) (idle : sat.currentState.Idle) :
    Gives uvSpawn (fun g => g f sat) (f.update sat.currentState).settle
      ((f.update sat.currentState).autonomousRules (f.update sat.currentState)) sat := by
  set noted := (sat.record (.event f sat.currentState)).setState (f.update sat.currentState)
  have state : noted.currentState = f.update sat.currentState := rfl
  have rules := gives_rules spawns state (idle.update fact)
  have called : Gives uvSpawn (fun g => g f sat) _ _ noted := rules.call fun g =>
    (onEventBody_fact uvSpawn g fact idle).symm
  exact called.congr rfl (by rw [launches_setState, launches_record]; exact List.append_nil _)

private theorem gives_signal {f : Event} (fact : f.isFact = true) (id : ℕ) (a : Action)
    (idle : sat.currentState.Idle) :
    Gives uvSpawn (fun g => (g f sat).bind (ShellCommand.perform uvSpawn g id a))
      (f.update sat.currentState).settle
      ((f.update sat.currentState).autonomousRules (f.update sat.currentState) ++ [a]) sat := by
  refine (gives_fact spawns fact idle).bind fun sat₁ state₁ => ?_
  rw [← state₁]
  exact gives_script spawns id a sat₁

private theorem gives_met
    {e : Event} (request : e.isFact = false) (steady : sat.currentState.Steady)
    (met : sat.currentState.requestActions e = []) :
    Gives uvSpawn (fun g => g e sat) (sat.currentState.requestState e)
      ((sat.currentState.requestState e).autonomousRules (e.update sat.currentState)) sat := by
  have calm := (State.covered_iff _).mp (steady.covered.requestState e)
  have rules := gives_calm spawns calm (e.update sat.currentState) (sat.asked e)
  have called : Gives uvSpawn (fun g => g e sat) _ _ _ := rules.call fun g => by
    rw [onEventBody_request uvSpawn g request steady.idle, met]
    rfl
  exact called.congr rfl (launches_asked sat e)

private theorem gives_asked {e : Event} {a : Action} (request : e.isFact = false)
    (steady : sat.currentState.Steady) (list : sat.currentState.requestActions e = [a])
    (head : Gives uvSpawn (fun g => a.perform uvSpawn g (sat.asked e).nextId
      ((sat.asked e).prepared a)) s as ((sat.asked e).prepared a)) :
    Gives uvSpawn (fun g => g e sat) s
      (as ++ (sat.currentState.requestState e).autonomousRules (e.update sat.currentState)) sat := by
  have calm := (State.covered_iff _).mp (steady.covered.requestState e)
  have tail : ∀ sat₁, sat₁.currentState = s →
      Gives uvSpawn (fun g => performActions uvSpawn g ((sat.currentState.requestState
        e).autonomousRules (e.update sat.currentState)) sat₁) s
        ((sat.currentState.requestState e).autonomousRules (e.update sat.currentState)) sat₁ := by
    intro sat₁ state₁
    have rules := gives_calm spawns calm (e.update sat.currentState) sat₁
    rwa [state₁] at rules
  have called : Gives uvSpawn (fun g => g e sat) _ _ _ := (head.perform_cons tail).call fun g => by
    rw [onEventBody_request uvSpawn g request steady.idle, list]
    rfl
  exact called.congr rfl (launches_asked sat e)

private theorem gives_signalled {e f : Event} {a : Action} (request : e.isFact = false)
    (fact : f.isFact = true) (steady : sat.currentState.Steady)
    (list : sat.currentState.requestActions e = [a])
    (perform : ∀ g id sat₁, a.perform uvSpawn g id sat₁ =
      (g f sat₁).bind (ShellCommand.perform uvSpawn g id a)) :
    Gives uvSpawn (fun g => g e sat) (f.update (sat.currentState.requestState e)).settle
      ((f.update (sat.currentState.requestState e)).autonomousRules
          (f.update (sat.currentState.requestState e)) ++
        a :: (sat.currentState.requestState e).autonomousRules (e.update sat.currentState)) sat := by
  have idle : ((sat.asked e).prepared a).currentState.Idle := steady.idle.requestState e
  have signal := gives_signal spawns fact (sat.asked e).nextId a idle
  have head : Gives uvSpawn (fun g => a.perform uvSpawn g (sat.asked e).nextId
      ((sat.asked e).prepared a)) _ _ ((sat.asked e).prepared a) := signal.call_eq (perform · _ _)
  refine (gives_asked spawns request steady list head).of_eq rfl ?_
  rw [List.append_assoc]
  rfl

private theorem gives_manualModeReq {wanted : Bool} (steady : sat.currentState.Steady) :
    Gives uvSpawn (fun g => g (.manualModeReq wanted) sat)
      (sat.currentState.respond (.manualModeReq wanted))
      (sat.currentState.orders (.manualModeReq wanted)) sat := by
  have same (b : Bool) : sat.currentState.autonomousRules { sat.currentState with manualmode := b } =
      sat.currentState.autonomousRules sat.currentState := State.autonomousRules_congr rfl
  cases wanted with
  | true =>
    have modes : ¬ { sat.currentState with manualmode := true }.Normal :=
      fun normal => Bool.noConfusion normal.2
    cases manual : sat.currentState.manualmode with
    | true =>
      have list : sat.currentState.requestActions (.manualModeReq true) = [] := by
        simp [State.requestActions, manual]
      refine (gives_met spawns rfl steady list).of_eq ?_ ?_
      · rw [State.respond, ← manual]
        rfl
      · simp [State.orders, manual, State.requestState, Event.update, same]
    | false =>
      have list : sat.currentState.requestActions (.manualModeReq true) = [.enterManualMode] := by
        simp [State.requestActions, manual]
      refine (gives_signalled spawns rfl rfl steady list fun _ _ _ => rfl).of_eq ?_ ?_
      · exact State.settle_of_not_urgent (State.not_urgent_of_not_normal modes)
      · have none := State.autonomousRules_of_not_normal
          { sat.currentState with manualmode := true } modes
        simp [State.orders, manual, State.requestState, Event.update, same, none]
  | false =>
    cases manual : sat.currentState.manualmode with
    | true =>
      have list : sat.currentState.requestActions (.manualModeReq false) = [.leaveManualMode] := by
        simp [State.requestActions, manual]
      have modes : ¬ sat.currentState.Normal := fun normal =>
        Bool.noConfusion (manual.symm.trans normal.2)
      refine (gives_signalled spawns rfl rfl steady list fun _ _ _ => rfl).of_eq ?_ ?_
      · rw [State.respond, if_pos manual]
        rfl
      · have none := State.autonomousRules_of_not_normal (s := sat.currentState)
          { sat.currentState with manualmode := false } modes
        simp [State.orders, manual, State.requestState, Event.update, none]
    | false =>
      have list : sat.currentState.requestActions (.manualModeReq false) = [] := by
        simp [State.requestActions, manual]
      refine (gives_met spawns rfl steady list).of_eq ?_ ?_
      · simp [State.respond, manual, State.requestState]
      · simp [State.orders, manual, State.requestState, Event.update, same]

private theorem gives_safeModeReq (idle : sat.currentState.Idle) :
    Gives uvSpawn (fun g => g (.safeModeReq true) sat)
      (if sat.currentState.Urgent then sat.currentState.settle else sat.currentState.enter 3)
      (.enterSafeMode 3 :: sat.currentState.autonomousRules sat.currentState) sat := by
  set e : Event := .safeModeReq true with he
  have list : sat.currentState.requestActions e = [.enterSafeMode 3] := rfl
  have same : sat.currentState.autonomousRules (e.update sat.currentState) =
      sat.currentState.autonomousRules sat.currentState := State.autonomousRules_congr rfl
  have head : Gives uvSpawn (fun g => (Action.enterSafeMode 3).perform uvSpawn g
      (sat.asked e).nextId ((sat.asked e).prepared (.enterSafeMode 3)))
      (sat.currentState.enter 3) [.enterSafeMode 3]
      ((sat.asked e).prepared (.enterSafeMode 3)) :=
    gives_enterSafeMode spawns (by decide) (sat.asked e).nextId idle
  have tail : ∀ sat₁, sat₁.currentState = sat.currentState.enter 3 →
      Gives uvSpawn (fun g => performActions uvSpawn g
          (sat.currentState.autonomousRules sat.currentState) sat₁)
        (if sat.currentState.Urgent then sat.currentState.settle else sat.currentState.enter 3)
        (sat.currentState.autonomousRules sat.currentState) sat₁ := by
    intro sat₁ state₁
    by_cases urgent : sat.currentState.Urgent
    · have idle₁ : sat₁.currentState.Idle := by
        rw [state₁]
        exact idle.enter 3
      refine (gives_urgent spawns urgent sat.currentState idle₁).of_eq ?_ rfl
      rw [if_pos urgent, State.settle_of_urgent urgent, state₁]
      rfl
    · rw [if_neg urgent, ← state₁]
      exact gives_calm spawns urgent sat.currentState sat₁
  have state : sat.currentState.requestState e = sat.currentState := rfl
  have called : Gives uvSpawn (fun g => g e sat) _ _ _ := (head.perform_cons tail).call fun g => by
    rw [onEventBody_request uvSpawn g rfl idle, list, state, same]
    rfl
  exact called.congr rfl (launches_asked sat e)

private theorem gives_safeModeReq_false (steady : sat.currentState.Steady) :
    Gives uvSpawn (fun g => g (.safeModeReq false) sat)
      (sat.currentState.respond (.safeModeReq false))
      (sat.currentState.orders (.safeModeReq false)) sat := by
  have same : sat.currentState.autonomousRules (Event.update (.safeModeReq false) sat.currentState) =
      sat.currentState.autonomousRules sat.currentState := State.autonomousRules_congr rfl
  by_cases safe : sat.currentState.safemode = 0
  · have list : sat.currentState.requestActions (.safeModeReq false) = [] := by
      simp [State.requestActions, safe]
    refine (gives_met spawns rfl steady list).of_eq ?_ ?_
    · simp [State.respond, safe, State.requestState]
    · simp [State.orders, safe, State.requestState, same]
  · have list : sat.currentState.requestActions (.safeModeReq false) = [.leaveSafeMode] := by
      simp [State.requestActions, safe]
    have modes : ¬ sat.currentState.Normal := fun normal => safe normal.1
    have none := State.autonomousRules_of_not_normal sat.currentState modes
    refine (gives_signalled spawns rfl rfl steady list fun _ _ _ => rfl).of_eq ?_ ?_
    · rw [State.respond, if_pos safe]
      rfl
    · have state : sat.currentState.requestState (.safeModeReq false) = sat.currentState := rfl
      rw [State.orders, if_pos safe, state, same, none]
      rfl

private theorem gives_leopReq {leop : LeopSeq} (steady : sat.currentState.Steady) :
    Gives uvSpawn (fun g => g (.leopReq leop) sat) (sat.currentState.respond (.leopReq leop))
      (sat.currentState.orders (.leopReq leop)) sat := by
  have same (target : State) (h : target.pl.daemon = sat.currentState.pl.daemon) (s : State) :
      s.autonomousRules target = s.autonomousRules sat.currentState := State.autonomousRules_congr h
  by_cases finishes : leop = .done ∧ sat.currentState.leop ≠ .done
  · obtain ⟨rfl, open_⟩ := finishes
    have list : sat.currentState.requestActions (.leopReq .done) = [.finishLEOP] := by
      simp [State.requestActions, open_.symm]
    have covered : { sat.currentState with leop := .done }.Covered := steady.covered
    refine (gives_signalled spawns rfl rfl steady list fun _ _ _ => rfl).of_eq ?_ ?_
    · exact covered.settle
    · rw [State.orders, if_pos ⟨rfl, open_⟩, State.requestState, if_pos rfl,
        same (Event.update (.leopReq .done) sat.currentState) rfl]
      rfl
  · have list : sat.currentState.requestActions (.leopReq leop) = [] := by
      have not_both : ¬ (leop ≠ sat.currentState.leop ∧ leop = .done) := by
        rintro ⟨differs, rfl⟩
        exact finishes ⟨rfl, differs.symm⟩
      exact if_neg not_both
    have state : sat.currentState.requestState (.leopReq leop) =
        { sat.currentState with leop := leop } := by
      rw [State.requestState]
      split
      · rename_i done
        have already : sat.currentState.leop = leop := by
          by_contra differs
          exact finishes ⟨done, done ▸ differs⟩
        rw [← already]
      · rfl
    refine (gives_met spawns rfl steady list).of_eq state ?_
    rw [State.orders, if_neg finishes, state]
    exact State.autonomousRules_congr rfl

/-- The answer of the program to an event is that of the table. -/
theorem gives_event (steady : sat.currentState.Steady) (e : Event) :
    Gives uvSpawn (fun g => g e sat) (sat.currentState.respond e) (sat.currentState.orders e)
      sat := by
  cases e with
  | manualModeReq wanted => exact gives_manualModeReq spawns steady
  | safeModeReq wanted =>
    cases wanted with
    | true =>
      refine (gives_safeModeReq spawns steady.idle).of_eq ?_ rfl
      exact if_neg ((State.covered_iff _).mp steady.covered)
    | false => exact gives_safeModeReq_false spawns steady
  | leopReq leop => exact gives_leopReq spawns steady
  | payloadReq wanted => exact gives_met spawns rfl steady rfl
  | controlMessage message =>
    set e : Event := .controlMessage message
    set a : Action := .shellCommand message.command message
    have script : Gives uvSpawn (fun g => a.perform uvSpawn g (sat.asked e).nextId
        ((sat.asked e).prepared a)) sat.currentState [a] ((sat.asked e).prepared a) :=
      gives_script spawns (sat.asked e).nextId a ((sat.asked e).prepared a)
    refine (gives_asked spawns rfl steady rfl script).of_eq rfl ?_
    exact congrArg (_ :: ·) (State.autonomousRules_congr rfl)
  | thmSignal | epsSignal | adcsSignal | adcsReqSignal | payloadSignal | leopSignal
  | maneuverModeSignal | manualModeSignal | safeModeSignal =>
    exact gives_fact spawns rfl steady.idle

private theorem gives_done (steady : sat.currentState.Steady) (a : Action) (success : Bool) :
    Gives uvSpawn (fun g => a.done g success sat) (sat.currentState.conclude a success).1
      (sat.currentState.conclude a success).2 sat := by
  have nothing : Gives uvSpawn (fun _ => some sat) sat.currentState [] sat := gives_pure sat
  have fact {f : Event} (is : f.isFact = true) := gives_fact spawns is steady.idle
  cases a with
  | enterSafeMode reason =>
    cases success with
    | true => exact nothing
    | false => exact fact (f := .safeModeSignal 0) rfl
  | leaveManualMode =>
    by_cases safe : sat.currentState.safemode ≠ 0
    · have idle : (sat.setState { sat.currentState with safemode := 0 }).currentState.Idle :=
        ⟨steady.idle.enforced, steady.idle.commands⟩
      have again : Gives uvSpawn (fun g => g (.safeModeReq true) (sat.setState
          { sat.currentState with safemode := 0 })) _ _ sat :=
        (gives_safeModeReq spawns idle).congr rfl rfl
      have ends : Gives uvSpawn (fun g => Action.leaveManualMode.done g success sat) _ _ sat :=
        again.call_eq fun g => if_pos safe
      have answer : sat.currentState.conclude .leaveManualMode success =
          sat.currentState.reassert := if_pos safe
      rw [answer]
      exact ends
    · have ends : Gives uvSpawn (fun g => Action.leaveManualMode.done g success sat) _ _ sat :=
        nothing.call_eq fun g => if_neg safe
      have answer : sat.currentState.conclude .leaveManualMode success =
          (sat.currentState, []) := if_neg safe
      rw [answer]
      exact ends
  | triggerDetumbling =>
    cases success with
    | true => exact fact (f := .adcsReqSignal .detumb) rfl
    | false => exact nothing
  | triggerSunpointing =>
    cases success with
    | true => exact fact (f := .adcsReqSignal .sun) rfl
    | false => exact nothing
  | triggerMeasuring =>
    cases success with
    | true => exact fact (f := .payloadSignal .measuring) rfl
    | false => exact nothing
  | shellCommand | enterManualMode | leaveSafeMode | finishLEOP => exact nothing

theorem gives_exited (steady : sat.currentState.Steady) (id : ℕ) (a : Action) (exitCode : Int) :
    Gives uvSpawn (fun g => ShellCommand.exited g id a exitCode sat)
      (sat.currentState.conclude a (exitCode = 0)).1
      (sat.currentState.conclude a (exitCode = 0)).2 sat := by
  set logged := sat.record (.exited id a exitCode)
  have launches : logged.launches = sat.launches :=
    (launches_record sat _).trans (List.append_nil _)
  have steady' : logged.currentState.Steady := steady
  have freed : ∀ sat₁ : Satellite,
      sat₁.currentState = (sat.currentState.conclude a (exitCode = 0)).1 →
      Gives uvSpawn (fun _ => some ((sat₁.record (.finished id (exitCode = 0))).removeAction id))
        (sat.currentState.conclude a (exitCode = 0)).1 [] sat₁ := by
    intro sat₁ state₁
    refine ⟨_, computes_pure _, state₁, (List.append_nil _).symm, ?_⟩
    rw [Satellite.spawned, launches_removeAction, launches_record, List.append_nil]
    exact congrArg (List.map Launch.action) (List.append_nil _)
  have ends : Gives uvSpawn (fun g => ShellCommand.exited g id a exitCode sat) _ _ logged :=
    (gives_done spawns steady' a (exitCode = 0)).bind freed
  have ends' : Gives uvSpawn (fun g => ShellCommand.exited g id a exitCode sat) _ _ sat :=
    ends.congr rfl launches
  exact ends'.of_eq rfl (List.append_nil _)

end Spawning

variable {os : List Action}

theorem Ordered.flat (ordered : Ordered s os sat sat') :
    (sat'.flat, os) = Flat.answered sat.flat.running (s, os) := by
  rw [Flat.answered, Satellite.flat, ordered.state, ordered.running]
  rfl

section Spawning

variable (spawns : ∀ script j, uvSpawn script j = true)
include spawns

private theorem callback_flat (steady : sat.currentState.Steady) {input : Input}
    (enabled : sat.Enabled input) :
    ∃ sat' os, Step uvSpawn sat input sat' ∧ sat.flat.next input.flat = some (sat'.flat, os) ∧
      sat'.spawned = sat.spawned ++ os := by
  set heard := sat.record (.callback sat.currentState) with hh
  have spawned : heard.spawned = sat.spawned :=
    congrArg (List.map Launch.action) ((launches_record sat _).trans (List.append_nil _))
  have steady' : heard.currentState.Steady := steady
  cases input with
  | event e =>
    have external : e.external = true := enabled
    obtain ⟨sat', computes, ordered⟩ := gives_event spawns steady' e
    refine ⟨sat', heard.currentState.orders e, ⟨enabled, computes.returns⟩, ?_, ?_⟩
    · rw [ordered.flat]
      exact if_pos external
    · rw [ordered.spawned, spawned]
  | exited child exitStatus termSignal =>
    have mem : child ∈ sat.running := enabled
    have known : child.action ∈ sat.flat.running :=
      Multiset.mem_coe.mpr (List.mem_map_of_mem mem)
    have erased : (heard.ended child).flat.running = sat.flat.running.erase child.action :=
      Multiset.map_erase_of_mem Child.action (sat.running : Multiset Child) mem
    by_cases killed : termSignal = SIGTERM
    · refine ⟨heard.ended child, [], ⟨enabled, 0, ?_⟩, ?_, ?_⟩
      · exact if_neg (not_not.mpr killed)
      · rw [Input.flat, Flat.next, if_pos known]
        simp only [killed, ne_eq, not_true_eq_false, if_false]
        rw [← erased, Flat.answered]
        simp [flat]
        rfl
      · rw [List.append_nil]
        exact spawned
    · have steady'' : (heard.ended child).currentState.Steady := steady
      obtain ⟨sat', computes, ordered⟩ :=
        gives_exited spawns steady'' child.id child.action exitStatus
      refine ⟨sat', (sat.currentState.conclude child.action (exitStatus = 0)).2, ⟨enabled, ?_⟩,
        ?_, ?_⟩
      · obtain ⟨n, returns⟩ := computes.exists
        refine ⟨n, ?_⟩
        rw [callback]
        exact (if_pos killed).trans returns
      · have answer : (sat'.flat, (sat.currentState.conclude child.action (exitStatus = 0)).2) =
            Flat.answered (heard.ended child).flat.running
              (sat.currentState.conclude child.action (exitStatus = 0)) := ordered.flat
        rw [answer, erased, Input.flat, Flat.next, if_pos known]
        exact if_pos killed
      · rw [ordered.spawned]
        exact congrArg (· ++ _) spawned

/-- The program refines the flat machine. -/
theorem refines_flat :
    Refines (Step uvSpawn) Flat.next (fun sat => sat.currentState.Steady) Satellite.flat Input.flat
      Satellite.spawned where
  kept := step_steady
  forth sat input sat' steady step := by
    obtain ⟨sat₁, os, step₁, answer, spawned⟩ := callback_flat spawns steady step.1
    obtain rfl := step_unique step step₁
    exact ⟨os, answer, spawned⟩
  back sat input answer steady answers := by
    suffices ∃ i, Input.flat i = input ∧ sat.Enabled i by
      obtain ⟨i, label, enabled⟩ := this
      obtain ⟨sat', _, step, _⟩ := callback_flat spawns steady enabled
      exact ⟨i, sat', label, step⟩
    cases input with
    | event e =>
      rw [Flat.next] at answers
      split at answers
      · rename_i external
        exact ⟨.event e, rfl, external⟩
      · cases answers
    | exited action exitStatus termSignal =>
      rw [Flat.next] at answers
      split at answers
      · rename_i known
        obtain ⟨child, mem, rfl⟩ := List.mem_map.mp (Multiset.mem_coe.mp known)
        exact ⟨.exited child exitStatus termSignal, rfl, mem⟩
      · cases answers

end Spawning

/-- With every script started, the runs of the program, with its nested calls of `on_event`,
are those of the flat machine: the same states, the same scripts at the same time, and no
others. -/
theorem flat_runs_iff (uvSpawn : Script → ℕ → Bool) (spawns : ∀ script j, uvSpawn script j = true)
    (args : Arguments) (inputs : List Flat.Input) (c : Flat) (orders : List Action) :
    (∃ ts sat, Run (Step uvSpawn) (Satellite.new args false) ts sat ∧
      (ts.map fun t => t.label.flat) = inputs ∧ sat.flat = c ∧ sat.spawned = orders) ↔
      transduce Flat.next inputs (Flat.new args) = some (c, orders) :=
  (refines_flat spawns).runs_iff (new_steady args) rfl

/-- A low battery ends the detumbling, and the operator leaves safemode too early. -/
theorem flat_runs_iff_battery :
    ∃ ts sat, Run (Step fun _ _ => true) (Satellite.new {} false) ts sat ∧
      (ts.map fun t => t.label.flat) = [.event (.epsSignal 7), .event (.safeModeReq false)] ∧
      sat.flat = ⟨{ (Satellite.new {} false).currentState with safemode := 2, eps := ⟨7⟩ },
        {.enterSafeMode 2, .triggerDetumbling, .enterSafeMode 2, .triggerDetumbling,
          .leaveSafeMode}⟩ ∧
      sat.spawned = [.enterSafeMode 2, .triggerDetumbling, .enterSafeMode 2, .triggerDetumbling,
        .leaveSafeMode] :=
  (flat_runs_iff _ (fun _ _ => rfl) {} _ _ _).mpr (by decide +kernel)

end Satellite

end Horst
