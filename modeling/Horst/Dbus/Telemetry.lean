import Horst.Dbus.Connection
import Horst.Satellite.Flat
import Horst.Satellite.Registers

/-!
What the ground learns over the bus: the beacons, as an account of the messages that came
before them, and what the methods that set a mode promise.
-/

set_option autoImplicit false
set_option relaxedAutoImplicit false

namespace Horst.Dbus

open Foundation

/-! Every event of the bus has a message. -/

def adcsText (status : AdcsState) : CString := ⟨status.name, by cases status <;> decide⟩

def tempText (temp : OverallTemp) : CString := ⟨temp.name, by cases temp <;> decide⟩

def leopText (leop : LeopSeq) : CString := ⟨leop.name, by cases leop <;> decide⟩

def boolText (b : Bool) : CString := ⟨boolName b, by cases b <;> decide⟩

private theorem str2state_adcsText (signed : Bool) (status : AdcsState) :
    ADCS.str2state signed (adcsText status) = status := by
  cases signed <;> cases status <;> decide +kernel

private theorem str2temp_tempText (signed : Bool) (temp : OverallTemp) :
    THM.str2temp signed (tempText temp) = temp := by
  cases signed <;> cases temp <;> decide +kernel

private theorem str2leop_leopText (signed : Bool) (leop : LeopSeq) :
    State.str2leop signed (leopText leop) = leop := by
  cases signed <;> cases leop <;> decide +kernel

private theorem str2bool_boolText (signed : Bool) (b : Bool) :
    State.str2bool signed (boolText b) = .ok b := by
  cases signed <;> cases b <;> decide +kernel

def Message.bare (member : Member) : Message := ⟨member, .error (-6), .error (-6)⟩

def Message.ofText (member : Member) (text : CString) : Message := ⟨member, .ok text, .error (-6)⟩

private theorem event_mode
    (platform : Platform) (b : Bool) (make : Bool → Event) (member : Member) :
    (dbusMode platform (.ofText member (boolText b)) make).event = some (make b) := by
  rw [dbusMode, Message.ofText]
  simp only [str2bool_boolText]

private theorem exists_message (platform : Platform) {e : Event} (deliverable : Deliverable e) :
    ∃ m : Message, m.event platform = some e := by
  cases e with
  | thmSignal temp =>
    refine ⟨.ofText .thmStateChange (tempText temp), ?_⟩
    exact congrArg (fun temp => some (Event.thmSignal temp)) (str2temp_tempText platform.signed temp)
  | epsSignal bat => exact ⟨⟨.epsChargeStateChange, .error (-6), .ok bat⟩, rfl⟩
  | adcsSignal status =>
    refine ⟨.ofText .adcsStateReached (adcsText status), ?_⟩
    exact congrArg (fun status => some (Event.adcsSignal status))
      (str2state_adcsText platform.signed status)
  | leopReq leop =>
    refine ⟨.ofText .leopStateChange (leopText leop), ?_⟩
    exact congrArg (fun leop => some (Event.leopReq leop)) (str2leop_leopText platform.signed leop)
  | maneuverModeSignal b =>
    exact ⟨.ofText .setManeuvermode (boolText b), event_mode platform b _ .setManeuvermode⟩
  | manualModeReq b =>
    exact ⟨.ofText .setManualmode (boolText b), event_mode platform b _ .setManualmode⟩
  | safeModeReq b =>
    refine ⟨.ofText .setSafemode (boolText b), (event_mode platform b _ .setSafemode).trans ?_⟩
    cases b <;> rfl
  | payloadSignal payload =>
    obtain rfl := deliverable
    exact ⟨.bare .payloadMeasurementDone, rfl⟩
  | payloadReq wanted =>
    obtain rfl := deliverable
    exact ⟨.bare .payloadConditionsFulfilled, rfl⟩
  | controlMessage message =>
    obtain ⟨command, rfl⟩ := deliverable
    exact ⟨.ofText .exec command, rfl⟩
  | adcsReqSignal | leopSignal | manualModeSignal | safeModeSignal => exact deliverable.elim

namespace DBusConnection

variable {platform : Platform} {uvSpawn : Script → ℕ → Bool} {c : DBusConnection} {m : Message}

private theorem reachable_message {n : ℕ} {e : Event} {sat' : Satellite} (idle : c.pending = [])
    (event : m.event platform = some e)
    (call : c.satellite.callback (Satellite.onEvent uvSpawn n) (.event e) = some sat') :
    ∃ c', Reachable (Step platform (fun _ => false) uvSpawn) c c' ∧ c'.satellite = sat' ∧
      c'.pending = [] := by
  set waits : DBusConnection := { c with pending := [m] }
  have comes : c.Step platform (fun _ => false) uvSpawn (.arrived m) waits := by
    refine ⟨trivial, 0, ?_⟩
    rw [callback, idle]
    rfl
  set served : DBusConnection := ⟨sat', c.calls + 1 + 1, [],
    c.handled ++ [(m, (handle platform m c.satellite.currentState).reply)]⟩
  have drains : waits.Step platform (fun _ => false) uvSpawn .ready served := by
    have dispatched : ({ waits with calls := waits.calls + 1 } : DBusConnection).dispatch platform
        (Satellite.onEvent uvSpawn n) m = some { served with calls := c.calls + 1, pending := [m] } := by
      rw [dispatch]
      simp only [handle_event, event]
      exact congrArg (Option.map _) call
    refine ⟨trivial, n, ?_⟩
    change (({ waits with calls := waits.calls + 1 } : DBusConnection).dispatch platform
        (Satellite.onEvent uvSpawn n) m).bind _ = some served
    rw [dispatched, Option.bind_some]
    rfl
  exact ⟨served, ⟨_, (Run.nil.snoc comes).snoc drains⟩, rfl, rfl⟩

private theorem deliverable_of_mem_eventsOf {entries : List (Message × Option Reply)} {e : Event}
    (mem : e ∈ eventsOf platform entries) : Deliverable e := by
  obtain ⟨entry, _, event⟩ := List.mem_filterMap.mp mem
  exact deliverable_of_event event

private theorem deliverable_of_mem_inputs {t : Transition DBusConnection Input} {e : Event}
    (mem : Horst.Input.event e ∈ inputs platform t) : Deliverable e := by
  unfold inputs at mem
  split at mem
  · cases mem
  · obtain ⟨e', mem', same⟩ := List.mem_map.mp mem
    obtain rfl := Horst.Input.event.inj same
    exact deliverable_of_mem_eventsOf mem'
  · cases List.mem_singleton.mp mem

/-- A step of the satellite with events of the bus. -/
abbrev SatelliteStep (uvSpawn : Script → ℕ → Bool) (sat : Satellite) (input : Horst.Input)
    (sat' : Satellite) : Prop :=
  Satellite.Step uvSpawn sat input sat' ∧ ∀ e, input = .event e → Deliverable e

theorem run_satellite {failsAt : ℕ → Bool} {ts : List (Transition DBusConnection Input)}
    {c' : DBusConnection} (run : Run (Step platform failsAt uvSpawn) c ts c') :
    ∃ us, Run (SatelliteStep uvSpawn) c.satellite us c'.satellite ∧
      us.map Transition.label = ts.flatMap (inputs platform) := by
  obtain ⟨us, satellites, labels⟩ :=
    run.implements (inputs platform) (I := fun _ => True) trivial (fun _ _ _ _ _ => trivial)
      fun _ _ _ _ step => step_implements step
  refine ⟨us, satellites.labelled fun t mem e label => ?_, labels⟩
  have listed : Horst.Input.event e ∈ ts.flatMap (inputs platform) := by
    rw [← labels, ← label]
    exact List.mem_map_of_mem mem
  obtain ⟨u, _, mem'⟩ := List.mem_flatMap.mp listed
  exact deliverable_of_mem_inputs mem'

/-- Where nothing waits, the satellite comes over the bus exactly into the states that it comes
into with the events that the bus can bring, one callback for each. -/
theorem reachable_iff (idle : c.pending = []) (sat : Satellite) :
    (∃ c', Reachable (Step platform (fun _ => false) uvSpawn) c c' ∧ c'.satellite = sat) ↔
      Reachable (SatelliteStep uvSpawn) c.satellite sat := by
  constructor
  · rintro ⟨c', ⟨ts, run⟩, rfl⟩
    obtain ⟨us, satellites, _⟩ := run_satellite run
    exact satellites.reachable
  · intro reachable
    have back (c : DBusConnection) (input : Horst.Input) (sat' : Satellite) (idle : c.pending = [])
        (step : Satellite.Step uvSpawn c.satellite input sat' ∧
          ∀ e, input = .event e → Deliverable e) :
        ∃ c', Reachable (Step platform (fun _ => false) uvSpawn) c c' ∧ c'.satellite = sat' ∧
          c'.pending = [] := by
      obtain ⟨⟨enabled, n, call⟩, deliverable⟩ := step
      cases input with
      | event e =>
        obtain ⟨m, event⟩ := exists_message platform (deliverable e rfl)
        exact reachable_message idle event call
      | exited child exitStatus termSignal =>
        have ends : c.Step platform (fun _ => false) uvSpawn (.exited child exitStatus termSignal)
            { c with satellite := sat' } := by
          refine ⟨enabled, n, ?_⟩
          rw [callback, call]
          rfl
        exact ⟨_, ⟨_, Run.nil.snoc ends⟩, rfl, idle⟩
    obtain ⟨c', reaches, same, _⟩ := Reachable.lift (I := fun c : DBusConnection => c.pending = [])
      DBusConnection.satellite idle back reachable
    exact ⟨c', reaches, same⟩

private theorem told_payload {entries : List (Message × Option Reply)} {initial : DaemonState}
    (other : initial ≠ .wantmeasure) :
    lastTold Event.payload? initial (eventsOf platform entries) ≠ .wantmeasure := by
  unfold lastTold
  cases listed : ((eventsOf platform entries).filterMap Event.payload?).getLast? with
  | none =>
    rw [List.getLastD_eq_getLast?, listed]
    exact other
  | some payload =>
    rw [List.getLastD_eq_getLast?, listed]
    obtain ⟨e, mem, told⟩ := List.mem_filterMap.mp (List.mem_of_getLast? listed)
    have deliverable := deliverable_of_mem_eventsOf mem
    cases e with
    | payloadSignal p =>
      obtain rfl := Option.some.inj told
      rw [Option.getD_some, deliverable]
      decide
    | thmSignal | epsSignal | adcsSignal | adcsReqSignal | leopSignal | maneuverModeSignal
    | manualModeSignal | safeModeSignal | manualModeReq | safeModeReq | leopReq | payloadReq
    | controlMessage => cases told

private theorem eventsOf_snoc
    (platform : Platform) (entries : List (Message × Option Reply)) (m : Message)
    (reply : Option Reply) :
    eventsOf platform (entries ++ [(m, reply)]) =
      eventsOf platform entries ++ (m.event platform).toList := by
  unfold eventsOf
  rw [List.filterMap_append]
  cases event : m.event platform <;> simp [event]

section Registered

variable {args : Arguments} {es : List Event} {sat sat' : Satellite}

private theorem registered_serves {entries : List (Message × Option Reply)} {reply : Option Reply}
    (registered : sat.currentState.Registered args (eventsOf platform entries))
    (serves : Serves platform uvSpawn sat m sat') :
    sat'.currentState.Registered args (eventsOf platform (entries ++ [(m, reply)])) := by
  rw [eventsOf_snoc]
  rcases serves with ⟨e, event, step⟩ | ⟨silent, rfl⟩
  · rw [event]
    exact Satellite.registered_step registered step
  · rw [silent, Option.toList_none, List.append_nil]
    exact registered

private theorem registered_exited {child : Child} {exitStatus termSignal : Int}
    (registered : sat.currentState.Registered args es)
    (step : Satellite.Step uvSpawn sat (.exited child exitStatus termSignal) sat') :
    sat'.currentState.Registered args es := by
  have kept := Satellite.registered_step registered step
  have silent : Satellite.eventsIn [.exited child exitStatus termSignal] = [] := rfl
  rwa [silent, List.append_nil] at kept

/-- Over the bus, the state is an account of the messages that were handled. -/
theorem run_registered {failsAt : ℕ → Bool} {enforced : Bool}
    {ts : List (Transition DBusConnection Input)} {c : DBusConnection}
    (run : Run (Step platform failsAt uvSpawn) (new (Satellite.new args enforced)) ts c) :
    c.satellite.currentState.Registered args (eventsOf platform c.handled) :=
  run_invariant (J := fun sat entries =>
      sat.currentState.Registered args (eventsOf platform entries))
    (fun _ _ _ _ registered serves => registered_serves registered serves)
    (fun _ _ _ _ _ _ registered step => registered_exited registered step) run
    (Satellite.new_registered args enforced)

end Registered

/-- What a beacon tells after the messages before it. -/
def Tells (platform : Platform) (args : Arguments) (before : List (Message × Option Reply))
    (reply : Option Reply) : Prop :=
  ∃ bytes s, reply = some (.array bytes) ∧ beacon.parse bytes = some (State.telemetry s) ∧
    s.Registered args (eventsOf platform before) ∧ s.pl.daemon ≠ .wantmeasure

/-- Whatever is started and fails in between, a beacon is an account of the messages that were
handled before it: the ground reads the temperature, the battery level, manualmode and the
LEOP sequence as they were told last, and the other fields as the actions allow. -/
theorem beacons_tell (platform : Platform) (failsAt : ℕ → Bool) (uvSpawn : Script → ℕ → Bool)
    (args : Arguments) (enforced : Bool) {ts : List (Transition DBusConnection Input)}
    {c : DBusConnection}
    (run : Run (Step platform failsAt uvSpawn) (new (Satellite.new args enforced)) ts c)
    {before after : List (Message × Option Reply)} {m : Message} {reply : Option Reply}
    (history : c.handled = before ++ (m, reply) :: after) (method : m.member = .getBeaconData) :
    Tells platform args before reply := by
  let J (sat : Satellite) (entries : List (Message × Option Reply)) : Prop :=
    sat.currentState.Registered args (eventsOf platform entries) ∧
      ∀ before m reply after, entries = before ++ (m, reply) :: after →
        m.member = .getBeaconData → Tells platform args before reply
  have holds : J c.satellite c.handled := by
    refine run_invariant ?_ ?_ run ⟨Satellite.new_registered args enforced, ?_⟩
    · rintro sat entries m sat' ⟨registered, told⟩ serves
      refine ⟨registered_serves registered serves, ?_⟩
      intro before m' reply after split beaconed
      rcases List.eq_nil_or_concat after with rfl | ⟨after, last, rfl⟩
      · obtain ⟨rfl, same⟩ := List.append_inj' split rfl
        obtain ⟨rfl, rfl⟩ := Prod.mk.inj (List.singleton_inj.mp same)
        refine ⟨getBeaconData sat.currentState, sat.currentState, ?_, ?_, registered, ?_⟩
        · unfold handle
          rw [beaconed]
        · exact beacon.parse_encode sat.currentState.telemetry
        · rcases registered.reported.daemon with measuring | same
          · rw [measuring]
            decide
          · rw [same]
            exact told_payload (by decide)
      · rw [List.concat_eq_append, ← List.cons_append, ← List.append_assoc] at split
        obtain ⟨rfl, _⟩ := List.append_inj' split rfl
        exact told before m' reply after rfl beaconed
    · rintro sat entries child exitStatus termSignal sat' ⟨registered, told⟩ step
      exact ⟨registered_exited registered step, told⟩
    · intro before m reply after split
      simp at split
  exact holds.2 before m reply after history method

/-- The beacon is asked for after an alarm. -/
theorem beacons_tell_alarm :
    ∃ ts c before m reply, Run (Step ⟨false, []⟩ (fun _ => false) fun _ _ => true)
        (new (Satellite.new {} false)) ts c ∧
      ts.map Transition.label = [.arrived (.ofText .thmStateChange (tempText .alarm)),
        .arrived (.bare .getBeaconData), .ready] ∧
      c.handled = before ++ [(m, reply)] ∧ before.length = 1 ∧ Tells ⟨false, []⟩ {} before reply := by
  obtain ⟨ts, c, run, labels, test⟩ :=
    exists_run_to (step_of_next ⟨false, []⟩ (fun _ => false) (fun _ _ => true) 9)
      (new (Satellite.new {} false)) [.arrived (.ofText .thmStateChange (tempText .alarm)),
        .arrived (.bare .getBeaconData), .ready]
      (fun c => c.handled.map (Message.member ∘ Prod.fst) = [.thmStateChange, .getBeaconData])
      (by decide +kernel)
  have members := of_decide_eq_true test
  obtain ⟨first, _, history, _, rest⟩ := List.map_eq_cons_iff.mp members
  obtain ⟨⟨m, reply⟩, _, rfl, method, last⟩ := List.map_eq_cons_iff.mp rest
  obtain rfl := List.map_eq_nil_iff.mp last
  exact ⟨ts, c, [first], m, reply, run, labels, history, rfl,
    beacons_tell _ _ _ {} false run history method⟩

end DBusConnection

end Horst.Dbus
