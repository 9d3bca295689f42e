import Mathlib.Data.List.Basic
import Mathlib.Data.UInt

/-!
The state of the satellite, the events that update it and the state transition
table `State::transform_to`.
-/

set_option autoImplicit false
set_option relaxedAutoImplicit false

namespace Horst

/-- A `std::string`, as the list of its characters. -/
abbrev Text := List Char

/-- `ADCS::adcs_state`. -/
inductive AdcsState
  | none | sleep | attdet | detumb | nadir | sun | flash | exp | test | poweroff
  deriving DecidableEq, Repr

/-- `THM::overall_temp`. -/
inductive OverallTemp
  | ok | warn | alarm
  deriving DecidableEq, Repr

/-- `Payload::daemon_state`. -/
inductive DaemonState
  | off | idle | wantmeasure | measuring
  deriving DecidableEq, Repr

/-- `State::leop_seq`. -/
inductive LeopSeq
  | undeployed | deployed | done
  deriving DecidableEq, Repr

/-- `daemon_ctl_action_t`. -/
inductive DaemonCtlAction
  | start | stop | restart | status
  deriving DecidableEq, Repr

/-- The control messages; nothing in the program installs their completion callback. -/
inductive ControlMessage
  | shellCommandReq (cmd : Text) (s3tp : Bool)
  | daemonControlReq (action : DaemonCtlAction) (serviceName : Text)
  deriving DecidableEq, Repr

def ControlMessage.isS3tp : ControlMessage → Bool
  | .shellCommandReq _ s3tp => s3tp
  | .daemonControlReq _ _ => false

/-- The command `DaemonControlReq::update` streams together, without any blank. -/
def DaemonControlReq.command (action : DaemonCtlAction) (serviceName : Text) : Text :=
  "sudo systemctl".toList ++
    (match action with
      | .start => "start".toList
      | .stop => "stop".toList
      | .restart => "restart".toList
      | .status => "status".toList) ++
    serviceName

def ControlMessage.command : ControlMessage → Text
  | .shellCommandReq cmd _ => cmd
  | .daemonControlReq action serviceName => DaemonControlReq.command action serviceName

structure ADCS where
  pointing : AdcsState
  requested : AdcsState
  deriving DecidableEq, Repr

structure THM where
  allTemp : OverallTemp
  deriving DecidableEq, Repr

structure EPS where
  batteryLevel : UInt16
  deriving DecidableEq, Repr

structure Payload where
  daemon : DaemonState
  deriving DecidableEq, Repr

/-- The shell commands to fire, each with the request it comes from. -/
structure Computer where
  shellCommands : List (Text × ControlMessage)
  deriving DecidableEq, Repr

structure State where
  batteryTreshold : UInt16
  computer : Computer
  safemode : UInt8
  enforcedSafemode : Bool
  manualmode : Bool
  maneuvermode : Bool
  leop : LeopSeq
  eps : EPS
  thm : THM
  pl : Payload
  adcs : ADCS
  deriving DecidableEq, Repr

/-- `State::State`. It assigns neither `enforced_safemode` nor `leop`, so their
initial contents are arguments here. -/
def State.new (enforcedSafemode : Bool) (leop : LeopSeq) : State where
  batteryTreshold := 5000
  computer := ⟨[]⟩
  safemode := 0
  enforcedSafemode := enforcedSafemode
  manualmode := false
  maneuvermode := false
  leop := leop
  eps := ⟨30⟩
  thm := ⟨.warn⟩
  pl := ⟨.off⟩
  adcs := ⟨.none, .none⟩

/-- Everything that reaches `Satellite::on_event`. -/
inductive Event
  | thmSignal (temp : OverallTemp)
  | epsSignal (bat : UInt16)
  | adcsSignal (adcsStatus : AdcsState)
  | adcsReqSignal (adcsStatus : AdcsState)
  | payloadSignal (payload : DaemonState)
  | leopSignal (leop : LeopSeq)
  | maneuverModeSignal (maneuvermode : Bool)
  | manualModeSignal (manualmode : Bool)
  | safeModeSignal (safemode : UInt8)
  | manualModeReq (wanted : Bool)
  | safeModeReq (wanted : Bool)
  | leopReq (wanted : LeopSeq)
  | payloadReq (wanted : DaemonState)
  | controlMessage (message : ControlMessage)
  deriving DecidableEq, Repr

def Event.isFact : Event → Bool
  | .thmSignal _ | .epsSignal _ | .adcsSignal _ | .adcsReqSignal _ | .payloadSignal _
  | .leopSignal _ | .maneuverModeSignal _ | .manualModeSignal _ | .safeModeSignal _ => true
  | .manualModeReq _ | .safeModeReq _ | .leopReq _ | .payloadReq _ | .controlMessage _ => false

/-- Events the D-Bus handlers and the control messages create. The other facts
only come from the actions of the satellite itself. -/
def Event.external : Event → Bool
  | .adcsReqSignal _ | .leopSignal _ | .manualModeSignal _ | .safeModeSignal _ => false
  | _ => true

def Event.update (event : Event) (state : State) : State :=
  match event with
  | .thmSignal temp => { state with thm := ⟨temp⟩ }
  | .epsSignal bat => { state with eps := ⟨bat⟩ }
  | .adcsSignal adcsStatus => { state with adcs := ⟨adcsStatus, .none⟩ }
  -- the pointing is not known any more once a new one has been requested
  | .adcsReqSignal adcsStatus => { state with adcs := ⟨.none, adcsStatus⟩ }
  | .payloadSignal payload => { state with pl := ⟨payload⟩ }
  | .leopSignal leop => { state with leop := leop }
  | .maneuverModeSignal maneuvermode => { state with maneuvermode := maneuvermode }
  | .manualModeSignal manualmode => { state with manualmode := manualmode }
  | .safeModeSignal safemode => { state with safemode := safemode }
  | .manualModeReq wanted => { state with manualmode := wanted }
  | .safeModeReq wanted =>
      { state with safemode := if wanted then 1 else 0, enforcedSafemode := true }
  | .leopReq wanted => { state with leop := wanted }
  | .payloadReq wanted => { state with pl := ⟨wanted⟩ }
  | .controlMessage message =>
      { state with computer :=
          ⟨state.computer.shellCommands ++ [(message.command, message)]⟩ }

/-- The subclasses of `ShellCommand`, and the class itself as D-Bus `exec` uses it. -/
inductive Action
  | shellCommand (command : Text) (request : ControlMessage)
  | enterManualMode
  | leaveManualMode
  | enterSafeMode (reason : UInt8)
  | leaveSafeMode
  | finishLEOP
  | triggerMeasuring
  | triggerDetumbling
  | triggerSunpointing
  deriving DecidableEq, Repr

/-- What an action runs: one of the script files, or the text of a shell command. -/
inductive Script
  | shell (command : Text)
  | enterManualmode | leaveManualmode | enterSafemode | leaveSafemode | finishLeop
  | triggerMeasuring | triggerDetumbling | triggerSunpointing
  deriving DecidableEq, Repr

def Action.script : Action → Script
  | .shellCommand command _ => .shell command
  | .enterManualMode => .enterManualmode
  | .leaveManualMode => .leaveManualmode
  | .enterSafeMode _ => .enterSafemode
  | .leaveSafeMode => .leaveSafemode
  | .finishLEOP => .finishLeop
  | .triggerMeasuring => .triggerMeasuring
  | .triggerDetumbling => .triggerDetumbling
  | .triggerSunpointing => .triggerSunpointing

/-- `ShellCommand::command`, the name each constructor passes on. -/
def Script.command : Script → Text
  | .shell command => command
  | .enterManualmode => "enter_manualmode.sh".toList
  | .leaveManualmode => "leave_manualmode.sh".toList
  | .enterSafemode => "enter_safemode.sh".toList
  | .leaveSafemode => "leave_safemode.sh".toList
  | .finishLeop => "finish_leop.sh".toList
  | .triggerMeasuring => "trigger_measuring.sh".toList
  | .triggerDetumbling => "trigger_detumbling.sh".toList
  | .triggerSunpointing => "trigger_sunpointing.sh".toList

def Action.isS3tp : Action → Bool
  | .shellCommand _ request => request.isS3tp
  | _ => false

/-- The autonomous triggers of the logic table. -/
def Action.isTrigger : Action → Bool
  | .triggerMeasuring | .triggerDetumbling | .triggerSunpointing => true
  | .shellCommand _ _ | .enterManualMode | .leaveManualMode | .enterSafeMode _ | .leaveSafeMode
  | .finishLEOP => false

def Computer.transformTo (_this target : Computer) : List Action :=
  target.shellCommands.map fun request => .shellCommand request.1 request.2

def State.manualmodeRules (this target : State) : List Action :=
  if target.manualmode = true ∧ this.manualmode = false then
    [.enterManualMode]
  else if target.manualmode = false ∧ this.manualmode = true then
    [.leaveManualMode]
  else
    []

def State.safemodeRules (this target : State) : List Action :=
  if target.safemode ≠ 0 ∧ (this.safemode = 0 ∨ target.enforcedSafemode = true) then
    [.enterSafeMode 3]
  else if target.safemode = 0 ∧ this.safemode ≠ 0 then
    [.leaveSafeMode]
  else
    []

/-- A change of the LEOP sequence to DONE; every other one is made in place. -/
def State.leopRules (this target : State) : State × List Action :=
  if target.leop ≠ this.leop then
    if target.leop = .done then
      (this, [.finishLEOP])
    else
      ({ this with leop := target.leop }, [])
  else
    (this, [])

def State.emergencyRules (this : State) : List Action :=
  if this.thm.allTemp = .alarm then
    [.enterSafeMode 1]
  else if this.eps.batteryLevel < this.batteryTreshold then
    [.enterSafeMode 2]
  else
    []

def State.measuringRule (this target : State) : List Action :=
  if target.pl.daemon = .wantmeasure ∧ this.eps.batteryLevel > this.batteryTreshold ∧
      this.thm.allTemp = .ok ∧ this.leop = .done then
    [.triggerMeasuring]
  else
    []

def State.detumblingRule (this : State) : List Action :=
  if this.adcs.pointing ≠ .sun ∧ this.adcs.pointing ≠ .detumb ∧
      this.adcs.requested ≠ .sun ∧ this.adcs.requested ≠ .detumb ∧
      this.leop ≠ .undeployed then
    [.triggerDetumbling]
  else
    []

def State.sunpointingRule (this : State) : List Action :=
  if this.adcs.pointing = .detumb ∧ this.leop ≠ .undeployed then
    [.triggerSunpointing]
  else
    []

/-- In maneuvermode we do not touch ADCS. -/
def State.adcsRules (this : State) : List Action :=
  if this.maneuvermode = false then
    this.detumblingRule ++ this.sunpointingRule
  else
    []

/-- The rules that only apply if we are neither in safemode nor in manualmode. -/
def State.autonomousRules (this target : State) : List Action :=
  if this.safemode = 0 ∧ this.manualmode = false then
    this.emergencyRules ++ this.measuringRule target ++ this.adcsRules
  else
    []

/-- `State::transform_to`: the state it leaves in `*this`, and the actions. -/
def State.transformTo (this target : State) : State × List Action :=
  let computer := this.computer.transformTo target.computer
  let manualmode := this.manualmodeRules target
  let safemode := this.safemodeRules target
  let (this, leop) := this.leopRules target
  (this, computer ++ manualmode ++ safemode ++ leop ++ this.autonomousRules target)

end Horst
