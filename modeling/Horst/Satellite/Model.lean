import Horst.Foundation.Nested
import Horst.Foundation.Run
import Horst.State

/-!
The satellite controller: the actions, `Satellite::on_event` with its nested
calls, and the callbacks of the event loop.

`uv_spawn` is a parameter: `uvSpawn script j` tells whether the `j`-th attempt at
starting that script succeeds. When it fails, the exit callback runs inside the
constructor of the process and frees the action, whose `process` is assigned after
that. Here the assignment does no harm, so that there are more runs than the program
survives; `Horst.Satellite.Freeing` has it end the program.
-/

set_option autoImplicit false
set_option relaxedAutoImplicit false

namespace Horst

open Foundation
open Foundation.Nested (Handler depth)

/-- `arguments`, without the S3TP settings. -/
structure Arguments where
  startmanual : Bool := false
  leop : LeopSeq := .done
  batteryTreshold : UInt16 := 30
  scripts : Text := "./scripts/".toList
  deriving DecidableEq, Repr

/-- A launched script that has not ended yet, with the action that waits for it. -/
structure Child where
  id : ℕ
  action : Action
  deriving DecidableEq, Repr

/-- The chronicle of a run. It is written along with the log messages of the
program and never read by it. -/
inductive LogEntry
  | callback (state : State)
  | event (event : Event) (state : State)
  | run (id : ℕ) (action : Action) (state : State)
  | process (id : ℕ) (action : Action) (cmd : Text) (s3tp : Bool) (state : State)
      (spawned : Bool)
  | exited (id : ℕ) (action : Action) (exitCode : Int)
  | finished (id : ℕ) (success : Bool)
  deriving DecidableEq, Repr

structure Satellite where
  args : Arguments
  currentState : State
  actions : List (ℕ × Action)
  nextId : ℕ
  running : List Child
  log : List LogEntry
  deriving DecidableEq, Repr

/-- `Satellite::Satellite`. The flag `enforced_safemode` keeps what its memory held. -/
def Satellite.new (args : Arguments) (enforcedSafemode : Bool) : Satellite where
  args := args
  currentState :=
    { State.new enforcedSafemode args.leop with
      manualmode := args.startmanual
      batteryTreshold := args.batteryTreshold
      eps := ⟨args.batteryTreshold⟩ }
  actions := []
  nextId := 0
  running := []
  log := []

/-- One `uv_spawn` of an action's script: the state at that moment and the result. -/
structure Launch where
  action : Action
  state : State
  spawned : Bool
  deriving DecidableEq, Repr

def LogEntry.launch? : LogEntry → Option Launch
  | .process _ action _ _ state spawned => some ⟨action, state, spawned⟩
  | _ => none

namespace Satellite

def launches (sat : Satellite) : List Launch := sat.log.filterMap LogEntry.launch?

def attempts (sat : Satellite) (script : Script) : ℕ :=
  sat.launches.countP fun l => l.action.script = script

def record (sat : Satellite) (entry : LogEntry) : Satellite :=
  { sat with log := sat.log ++ [entry] }

def created (sat : Satellite) (id : ℕ) (action : Action) (spawned : Bool) : Satellite :=
  let cmdprefix := match action with
    | .shellCommand _ _ => []
    | _ => sat.args.scripts
  sat.record (.process id action ( cmdprefix ++ action.script.command) action.isS3tp
    sat.currentState spawned)

def started (sat : Satellite) (id : ℕ) (action : Action) : Satellite :=
  { sat with running := sat.running ++ [⟨id, action⟩] }

def ended (sat : Satellite) (child : Child) : Satellite :=
  { sat with running := sat.running.erase child }

def setState (sat : Satellite) (state : State) : Satellite := { sat with currentState := state }

def addAction (sat : Satellite) (action : Action) : ℕ × Satellite :=
  (sat.nextId, { sat with
    actions := sat.actions ++ [(sat.nextId, action)]
    nextId := sat.nextId + 1 })

def removeAction (sat : Satellite) (id : ℕ) : Satellite :=
  { sat with actions := sat.actions.filter fun entry => entry.1 ≠ id }

@[simp] theorem currentState_record (sat : Satellite) (entry : LogEntry) :
    (sat.record entry).currentState = sat.currentState := rfl

@[simp] theorem currentState_created (sat : Satellite) (id : ℕ) (action : Action)
    (spawned : Bool) : (sat.created id action spawned).currentState = sat.currentState := rfl

@[simp] theorem currentState_started (sat : Satellite) (id : ℕ) (action : Action) :
    (sat.started id action).currentState = sat.currentState := rfl

@[simp] theorem currentState_ended (sat : Satellite) (child : Child) :
    (sat.ended child).currentState = sat.currentState := rfl

@[simp] theorem currentState_setState (sat : Satellite) (state : State) :
    (sat.setState state).currentState = state := rfl

@[simp] theorem currentState_addAction (sat : Satellite) (action : Action) :
    (sat.addAction action).2.currentState = sat.currentState := rfl

@[simp] theorem currentState_removeAction (sat : Satellite) (id : ℕ) :
    (sat.removeAction id).currentState = sat.currentState := rfl

@[simp] theorem launches_record (sat : Satellite) (entry : LogEntry) :
    (sat.record entry).launches = sat.launches ++ entry.launch?.toList := by
  cases h : entry.launch? <;> simp [launches, record, h]

@[simp] theorem launches_created (sat : Satellite) (id : ℕ) (action : Action)
    (spawned : Bool) : (sat.created id action spawned).launches =
      sat.launches ++ [⟨action, sat.currentState, spawned⟩] := launches_record sat _

@[simp] theorem launches_started (sat : Satellite) (id : ℕ) (action : Action) :
    (sat.started id action).launches = sat.launches := rfl

@[simp] theorem launches_ended (sat : Satellite) (child : Child) :
    (sat.ended child).launches = sat.launches := rfl

@[simp] theorem launches_setState (sat : Satellite) (state : State) :
    (sat.setState state).launches = sat.launches := rfl

@[simp] theorem launches_addAction (sat : Satellite) (action : Action) :
    (sat.addAction action).2.launches = sat.launches := rfl

@[simp] theorem launches_removeAction (sat : Satellite) (id : ℕ) :
    (sat.removeAction id).launches = sat.launches := rfl

theorem attempts_of_launches {sat sat' : Satellite} {ls : List Launch}
    (h : sat'.launches = sat.launches ++ ls) (script : Script) :
    sat'.attempts script =
      sat.attempts script + ls.countP fun l => l.action.script = script := by
  simp only [attempts, h, List.countP_append]

theorem attempts_congr {sat sat' : Satellite} (h : sat'.launches = sat.launches)
    (script : Script) : sat'.attempts script = sat.attempts script := by
  simp only [attempts, h]

end Satellite

section Actions

variable (uvSpawn : Script → ℕ → Bool) (onEvent : Handler Event Satellite)

/-! The callbacks the actions hand to `ShellCommand::perform`. -/

def EnterSafeMode.done (success : Bool) (sat : Satellite) : Option Satellite :=
  if success then some sat else onEvent (.safeModeSignal 0) sat

def LeaveManualMode.done (sat : Satellite) : Option Satellite :=
  if sat.currentState.safemode ≠ 0 then
    onEvent (.safeModeReq true) (sat.setState { sat.currentState with safemode := 0 })
  else
    some sat

def TriggerDetumbling.done (success : Bool) (sat : Satellite) : Option Satellite :=
  if success then onEvent (.adcsReqSignal .detumb) sat else some sat

def TriggerSunpointing.done (success : Bool) (sat : Satellite) : Option Satellite :=
  if success then onEvent (.adcsReqSignal .sun) sat else some sat

def TriggerMeasuring.done (success : Bool) (sat : Satellite) : Option Satellite :=
  if success then onEvent (.payloadSignal .measuring) sat else some sat

def Action.done (action : Action) (success : Bool) (sat : Satellite) : Option Satellite :=
  match action with
  | .enterSafeMode _ => EnterSafeMode.done onEvent success sat
  | .leaveManualMode => LeaveManualMode.done onEvent sat
  | .triggerDetumbling => TriggerDetumbling.done onEvent success sat
  | .triggerSunpointing => TriggerSunpointing.done onEvent success sat
  | .triggerMeasuring => TriggerMeasuring.done onEvent success sat
  | .shellCommand _ _ | .enterManualMode | .leaveSafeMode | .finishLEOP => some sat

/-- `Process::exited` with the exit callback of `ShellCommand::perform` and, at its
end, the callback of `Satellite::on_event` that frees the action. -/
def ShellCommand.exited (id : ℕ) (action : Action) (exitCode : Int) (sat : Satellite) :
    Option Satellite :=
  (action.done onEvent (exitCode = 0) (sat.record (.exited id action exitCode))).bind
    fun sat => some ((sat.record (.finished id (exitCode = 0))).removeAction id)

/-- `ShellCommand::perform`, down to `uv_spawn` in the constructor of the process, and without the
assignment of that process. -/
def ShellCommand.perform (id : ℕ) (action : Action) (sat : Satellite) : Option Satellite :=
  let spawned := uvSpawn action.script (sat.attempts action.script)
  let sat := sat.created id action spawned
  if spawned then some (sat.started id action) else exited onEvent id action (-1) sat

def EnterManualMode.perform (id : ℕ) (sat : Satellite) : Option Satellite :=
  (onEvent (.manualModeSignal true) sat).bind
    (ShellCommand.perform uvSpawn onEvent id .enterManualMode)

def LeaveManualMode.perform (id : ℕ) (sat : Satellite) : Option Satellite :=
  (onEvent (.manualModeSignal false) sat).bind
    (ShellCommand.perform uvSpawn onEvent id .leaveManualMode)

def EnterSafeMode.perform (id : ℕ) (reason : UInt8) (sat : Satellite) : Option Satellite :=
  (onEvent (.safeModeSignal reason) sat).bind fun sat =>
    (onEvent (.maneuverModeSignal false) sat).bind
      (ShellCommand.perform uvSpawn onEvent id (.enterSafeMode reason))

def LeaveSafeMode.perform (id : ℕ) (sat : Satellite) : Option Satellite :=
  (onEvent (.safeModeSignal 0) sat).bind
    (ShellCommand.perform uvSpawn onEvent id .leaveSafeMode)

def FinishLEOP.perform (id : ℕ) (sat : Satellite) : Option Satellite :=
  (onEvent (.leopSignal .done) sat).bind
    (ShellCommand.perform uvSpawn onEvent id .finishLEOP)

def Action.perform (id : ℕ) (action : Action) (sat : Satellite) : Option Satellite :=
  match action with
  | .enterManualMode => EnterManualMode.perform uvSpawn onEvent id sat
  | .leaveManualMode => LeaveManualMode.perform uvSpawn onEvent id sat
  | .enterSafeMode reason => EnterSafeMode.perform uvSpawn onEvent id reason sat
  | .leaveSafeMode => LeaveSafeMode.perform uvSpawn onEvent id sat
  | .finishLEOP => FinishLEOP.perform uvSpawn onEvent id sat
  | .shellCommand _ _ | .triggerMeasuring | .triggerDetumbling | .triggerSunpointing =>
      ShellCommand.perform uvSpawn onEvent id action sat

/-- The loop of `Satellite::on_event` over the list the table returned. The list
is not looked at again when performing one of its actions changes the state. -/
def performActions : List Action → Satellite → Option Satellite
  | [], sat => some sat
  | action :: actions, sat =>
      let (id, sat) := sat.addAction action
      (action.perform uvSpawn onEvent id (sat.record (.run id action sat.currentState))).bind
        (performActions actions)

/-- The body of `Satellite::on_event`, with `onEvent` for the calls made inside it. -/
def Satellite.onEventBody (event : Event) (sat : Satellite) : Option Satellite :=
  let sat := sat.record (.event event sat.currentState)
  let state := if event.isFact then event.update sat.currentState else sat.currentState
  let target := if event.isFact then state else event.update state
  let (state, actions) := state.transformTo target
  performActions uvSpawn onEvent actions (sat.setState state)

end Actions

/-- `Satellite::on_event` with at most `n` calls open at the same time. -/
def Satellite.onEvent (uvSpawn : Script → ℕ → Bool) : ℕ → Handler Event Satellite :=
  depth (Satellite.onEventBody uvSpawn)

/-- What the event loop calls back for: an event from D-Bus, or the end of a script. -/
inductive Input
  | event (event : Event)
  | exited (child : Child) (exitStatus : Int) (termSignal : Int)
  deriving DecidableEq, Repr

def SIGTERM : Int := 15

/-- One callback of the event loop. A script that was killed by SIGTERM is not reported. -/
def Satellite.callback (onEvent : Handler Event Satellite) (input : Input) (sat : Satellite) :
    Option Satellite :=
  let sat := sat.record (.callback sat.currentState)
  match input with
  | .event event => onEvent event sat
  | .exited child exitStatus termSignal =>
      let sat := sat.ended child
      if termSignal ≠ SIGTERM then
        ShellCommand.exited onEvent child.id child.action exitStatus sat
      else
        some sat

/-- The inputs that can occur in a state: events of the outside, and running scripts. -/
def Satellite.Enabled (sat : Satellite) : Input → Prop
  | .event event => event.external = true
  | .exited child _ _ => child ∈ sat.running

/-- The callback returns, with the satellite it leaves behind. -/
def Satellite.Calls (uvSpawn : Script → ℕ → Bool) (sat : Satellite) (input : Input)
    (sat' : Satellite) : Prop :=
  ∃ n, sat.callback (Satellite.onEvent uvSpawn n) input = some sat'

/-- One step of the event loop, between two moments at which it waits. -/
def Satellite.Step (uvSpawn : Script → ℕ → Bool) (sat : Satellite) (input : Input)
    (sat' : Satellite) : Prop :=
  sat.Enabled input ∧ sat.Calls uvSpawn input sat'

instance (sat : Satellite) (input : Input) : Decidable (sat.Enabled input) :=
  match input with
  | .event event => inferInstanceAs (Decidable (event.external = true))
  | .exited child _ _ => inferInstanceAs (Decidable (child ∈ sat.running))

/-- Play a list of inputs back, with at most `n` calls of `on_event` open at a time. -/
def Satellite.play (uvSpawn : Script → ℕ → Bool) (n : ℕ) :
    List Input → Satellite → Option Satellite
  | [], sat => some sat
  | input :: inputs, sat =>
      if sat.Enabled input then
        (sat.callback (Satellite.onEvent uvSpawn n) input).bind (play uvSpawn n inputs)
      else
        none

private theorem Satellite.run_of_play
    {uvSpawn : Script → ℕ → Bool} {n : ℕ} {start sat sat' : Satellite}
    {ts : List (Transition Satellite Input)} (run : Run (Step uvSpawn) start ts sat)
    {inputs : List Input} (h : play uvSpawn n inputs sat = some sat') :
    ∃ ts', Run (Step uvSpawn) start (ts ++ ts') sat' ∧ ts'.map Transition.label = inputs := by
  induction inputs generalizing sat ts with
  | nil =>
    obtain rfl := Option.some.inj h
    exact ⟨[], by rwa [List.append_nil], rfl⟩
  | cons input inputs ih =>
    rw [play] at h
    split at h
    · rename_i enabled
      obtain ⟨sat₁, call, rest⟩ := Option.bind_eq_some_iff.mp h
      obtain ⟨ts', run', labels⟩ := ih (run.snoc ⟨enabled, n, call⟩) rest
      refine ⟨⟨sat, input, sat₁⟩ :: ts', ?_, by rw [List.map_cons, labels]⟩
      rwa [List.append_assoc, List.singleton_append] at run'
    · cases h

theorem Satellite.exists_run (uvSpawn : Script → ℕ → Bool) (n : ℕ) (start : Satellite)
    (inputs : List Input) (test : Satellite → Bool)
    (h : (play uvSpawn n inputs start).any test = true) :
    ∃ ts sat, Run (Step uvSpawn) start ts sat ∧ ts.map Transition.label = inputs ∧
      test sat = true := by
  cases played : play uvSpawn n inputs start with
  | none =>
    rw [played] at h
    cases h
  | some sat =>
    rw [played] at h
    obtain ⟨ts, run, labels⟩ := run_of_play .nil played
    exact ⟨ts, sat, run, labels, h⟩

/-- One callback of a playback, with at most `n` calls of `on_event` open at a time. -/
def Satellite.next (uvSpawn : Script → ℕ → Bool) (n : ℕ) (sat : Satellite) (input : Input) :
    Option Satellite :=
  if sat.Enabled input then sat.callback (Satellite.onEvent uvSpawn n) input else none

theorem Satellite.step_of_next (uvSpawn : Script → ℕ → Bool) (n : ℕ) (sat : Satellite)
    (input : Input) (sat' : Satellite) (h : sat.next uvSpawn n input = some sat') :
    sat.Step uvSpawn input sat' := by
  unfold next at h
  split at h
  · rename_i enabled
    exact ⟨enabled, n, h⟩
  · cases h

end Horst
