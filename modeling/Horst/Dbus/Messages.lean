import Horst.Dbus.Beacon
import Horst.Parsers
import Horst.Satellite.Model

/-!
The handlers of `server/dbus.cpp`: the methods of the object and the signals that are watched.

Of sd-bus, a message is what its handler gets out of it: the member it was sent to, and the
result of `sd_bus_message_read` for the one parameter that a handler may ask for. Replies that
cannot be built or sent are not modelled.
-/

set_option autoImplicit false
set_option relaxedAutoImplicit false

namespace Horst

def CString.text (text : CString) : Text := text.bytes.map fun c => Char.ofNat c.toNat

namespace Dbus

/-- The methods of `horst_vtable`, and the signals with a match in `watch_for_signals`. -/
inductive Member
  | exec | setSafemode | setManeuvermode | setManualmode | getBeaconData | checkDaemon
  | checkHardware | getVersion
  | thmStateChange | epsChargeStateChange | leopStateChange | payloadConditionsNotFulfilled
  | payloadMeasurementDone | payloadConditionsFulfilled | adcsStateReached
  deriving DecidableEq, Repr

/-- A message, with what reading a string and reading a `uint16_t` from it return. An error is
a negative number. -/
structure Message where
  member : Member
  string : Except Int CString
  uint16 : Except Int UInt16
  deriving DecidableEq, Repr

/-- What is sent back for a method call. -/
inductive Reply
  | int64 (x : Int)
  | boolean (b : Bool)
  | byte (y : UInt8)
  | array (ay : List UInt8)
  | string (s : Text)
  | error (r : Int)
  deriving DecidableEq, Repr

/-- What a handler does with a message: it passes at most one event to the satellite, and
replies to a method call. -/
structure Handling where
  event : Option Event
  reply : Option Reply
  deriving DecidableEq, Repr

/-- Whether `char` is signed, and the version text of the build. -/
structure Platform where
  signed : Bool
  version : Text

variable (platform : Platform) (m : Message)

def dbusExec : Handling :=
  match m.string with
  | .error r => ⟨none, some (.error r)⟩
  | .ok command => ⟨some (.controlMessage (.shellCommandReq command.text false)), some (.int64 0)⟩

/-- The three methods that set a mode: a text that is read and understood is passed on. -/
def dbusMode (make : Bool → Event) : Handling :=
  match m.string with
  | .error _ => ⟨none, some (.boolean false)⟩
  | .ok text =>
      match State.str2bool platform.signed text with
      | .error _ => ⟨none, some (.boolean false)⟩
      | .ok b => ⟨some (make b), some (.boolean true)⟩

/-- The number 3 or 0 becomes a `bool` again in the constructor of `SafeModeReq`. -/
def dbusSafemode : Handling :=
  dbusMode platform m fun bsafe => .safeModeReq (decide ((if bsafe then 3 else 0 : Int) ≠ 0))

def dbusManeuvermode : Handling := dbusMode platform m .maneuverModeSignal

def dbusManualmode : Handling := dbusMode platform m .manualModeReq

/-- The matches for a signal with a parameter: what cannot be read is dropped. -/
def onSignal {α : Type} (read : Except Int α) (make : α → Event) : Handling :=
  match read with
  | .error _ => ⟨none, none⟩
  | .ok a => ⟨some (make a), none⟩

def onThmStateChange : Handling :=
  onSignal m.string fun thmlevel => .thmSignal (THM.str2temp platform.signed thmlevel)

def onEpsChargeStateChange : Handling := onSignal m.uint16 .epsSignal

def onLeopStateChange : Handling :=
  onSignal m.string fun leop => .leopReq (State.str2leop platform.signed leop)

def onAdcsStateReached : Handling :=
  onSignal m.string fun status => .adcsSignal (ADCS.str2state platform.signed status)

/-- The handler of a message, on a satellite in the given state. -/
def handle (state : State) : Handling :=
  match m.member with
  | .exec => dbusExec m
  | .setSafemode => dbusSafemode platform m
  | .setManeuvermode => dbusManeuvermode platform m
  | .setManualmode => dbusManualmode platform m
  | .getBeaconData => ⟨none, some (.array (getBeaconData state))⟩
  | .checkDaemon => ⟨none, some (.byte 0)⟩
  | .checkHardware => ⟨none, some (.byte 0)⟩
  | .getVersion => ⟨none, some (.string ("daemon=".toList ++ platform.version))⟩
  | .thmStateChange => onThmStateChange platform m
  | .epsChargeStateChange => onEpsChargeStateChange m
  | .leopStateChange => onLeopStateChange platform m
  | .payloadConditionsNotFulfilled => ⟨some (.payloadSignal .idle), none⟩
  | .payloadMeasurementDone => ⟨some (.payloadSignal .idle), none⟩
  | .payloadConditionsFulfilled => ⟨some (.payloadReq .wantmeasure), none⟩
  | .adcsStateReached => onAdcsStateReached platform m

def Message.event : Option Event := (handle platform m (State.new false .done)).event

variable {platform} {m}

theorem handle_event (state : State) : (handle platform m state).event = m.event platform := by
  unfold Message.event handle
  split <;> rfl

/-- The events that the bus can bring, whatever the messages are. -/
def Deliverable (e : Event) : Prop :=
  match e with
  | .thmSignal _ | .epsSignal _ | .adcsSignal _ | .maneuverModeSignal _ | .manualModeReq _
  | .safeModeReq _ | .leopReq _ => True
  | .payloadSignal payload => payload = .idle
  | .payloadReq wanted => wanted = .wantmeasure
  | .controlMessage message => ∃ command : CString, message = .shellCommandReq command.text false
  | .adcsReqSignal _ | .leopSignal _ | .manualModeSignal _ | .safeModeSignal _ => False

theorem deliverable_of_event {e : Event} (h : m.event platform = some e) : Deliverable e := by
  have mode {make : Bool → Event} (made : (dbusMode platform m make).event = some e)
      (all : ∀ b, Deliverable (make b)) : Deliverable e := by
    unfold dbusMode at made
    split at made
    · cases made
    · split at made
      · cases made
      · rw [← Option.some.inj made]
        exact all _
  have signal {α : Type} {read : Except Int α} {make : α → Event}
      (made : (onSignal read make).event = some e) (all : ∀ a, Deliverable (make a)) :
      Deliverable e := by
    unfold onSignal at made
    split at made
    · cases made
    · rw [← Option.some.inj made]
      exact all _
  unfold Message.event handle at h
  split at h
  · unfold dbusExec at h
    split at h
    · cases h
    · rename_i command _
      rw [← Option.some.inj h]
      exact ⟨command, rfl⟩
  · exact mode h fun _ => trivial
  · exact mode h fun _ => trivial
  · exact mode h fun _ => trivial
  · cases h
  · cases h
  · cases h
  · cases h
  · exact signal h fun _ => trivial
  · exact signal h fun _ => trivial
  · exact signal h fun _ => trivial
  · rw [← Option.some.inj h]
    rfl
  · rw [← Option.some.inj h]
    rfl
  · rw [← Option.some.inj h]
    rfl
  · exact signal h fun _ => trivial

theorem Deliverable.external {e : Event} (deliverable : Deliverable e) : e.external = true := by
  cases e with
  | adcsReqSignal | leopSignal | manualModeSignal | safeModeSignal => exact deliverable.elim
  | thmSignal | epsSignal | adcsSignal | payloadSignal | maneuverModeSignal | manualModeReq
  | safeModeReq | leopReq | payloadReq | controlMessage => rfl

end Dbus

end Horst
