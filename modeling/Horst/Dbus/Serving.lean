import Horst.Dbus.Telemetry

/-!
The bus as a server of the state: with every script started, the messages that wait are
answered by a function of the state, and a mode that is set shows in the next beacon.
-/

set_option autoImplicit false
set_option relaxedAutoImplicit false

namespace Horst

open Foundation Foundation.Nested Filter

namespace Dbus

structure Served where
  state : State
  orders : List Action
  replies : List (Message × Option Reply)

def Message.answer (platform : Platform) (m : Message) (s : State) : State × List Action :=
  match m.event platform with
  | some e => (s.respond e, s.orders e)
  | none => (s, [])

def serve (platform : Platform) : List Message → State → Served
  | [], s => ⟨s, [], []⟩
  | m :: ms, s =>
      let answer := m.answer platform s
      let rest := serve platform ms answer.1
      ⟨rest.state, answer.2 ++ rest.orders, (m, (handle platform m s).reply) :: rest.replies⟩

/-- The text of a method that sets a mode, where it is read and understood. -/
def Message.wanted (platform : Platform) (m : Message) : Option Bool :=
  match m.string with
  | .error _ => none
  | .ok text => (State.str2bool platform.signed text).toOption

variable {platform : Platform} {m : Message} {s : State}

private theorem dbusMode_eq (make : Bool → Event) :
    dbusMode platform m make =
      ⟨(m.wanted platform).map make, some (.boolean (m.wanted platform).isSome)⟩ := by
  unfold dbusMode Message.wanted
  cases m.string with
  | error r => rfl
  | ok text =>
    cases understood : State.str2bool platform.signed text <;> simp [understood, Except.toOption]

namespace DBusConnection

variable {uvSpawn : Script → ℕ → Bool} {failsAt : ℕ → Bool} {c : DBusConnection}

theorem run_steady {args : Arguments} {ts : List (Transition DBusConnection Input)}
    (run : Run (Step platform failsAt uvSpawn) (new (Satellite.new args false)) ts c) :
    c.satellite.currentState.Steady := by
  obtain ⟨us, satellites, _⟩ :=
    run.implements (inputs platform) (I := fun _ => True) trivial (fun _ _ _ _ _ => trivial)
      fun _ _ _ _ step => step_implements step
  exact Satellite.run_steady satellites

section Spawning

variable (spawns : ∀ script j, uvSpawn script j = true)
include spawns

private theorem dispatch_answers (steady : c.satellite.currentState.Steady) (m : Message) :
    ∃ sat', (∀ᶠ n in atTop, c.dispatch platform (Satellite.onEvent uvSpawn n) m =
        some { c with
          satellite := sat'
          handled := c.handled ++ [(m, (handle platform m c.satellite.currentState).reply)] }) ∧
      sat'.currentState.Steady ∧
      sat'.currentState = (m.answer platform c.satellite.currentState).1 ∧
      sat'.spawned = c.satellite.spawned ++ (m.answer platform c.satellite.currentState).2 := by
  cases event : m.event platform with
  | none =>
    refine ⟨c.satellite, Eventually.of_forall fun n => ?_, steady, ?_, ?_⟩
    · simp [dispatch, handle_event, event]
    · simp [Message.answer, event]
    · simp [Message.answer, event]
  | some e =>
    have enabled : c.satellite.Enabled (.event e) := (deliverable_of_event event).external
    set woken := c.satellite.record (.callback c.satellite.currentState)
    have steady' : woken.currentState.Steady := steady
    obtain ⟨sat', computes, ordered⟩ := Satellite.gives_event spawns steady' e
    have step : Satellite.Step uvSpawn c.satellite (.event e) sat' := ⟨enabled, computes.returns⟩
    refine ⟨sat', ?_, Satellite.step_steady _ _ _ steady step, ?_, ?_⟩
    · filter_upwards [computes] with n returns
      have called : c.satellite.callback (Satellite.onEvent uvSpawn n) (.event e) = some sat' :=
        returns
      simp [dispatch, handle_event, event, called]
    · simp only [Message.answer, event]
      exact ordered.state
    · simp only [Message.answer, event]
      exact ordered.spawned.trans (congrArg (· ++ _) (congrArg (List.map Launch.action)
        ((Satellite.launches_record _ _).trans (List.append_nil _))))

private theorem handleAll_serves (never : ∀ j, failsAt j = false)
    (steady : c.satellite.currentState.Steady) (ms : List Message) :
    ∃ c', (∀ᶠ n in atTop, c.handleAll platform failsAt (Satellite.onEvent uvSpawn n) ms = some c') ∧
      c'.pending = [] ∧
      c'.satellite.currentState = (serve platform ms c.satellite.currentState).state ∧
      c'.satellite.spawned =
        c.satellite.spawned ++ (serve platform ms c.satellite.currentState).orders ∧
      c'.handled = c.handled ++ (serve platform ms c.satellite.currentState).replies := by
  induction ms generalizing c with
  | nil =>
    exact ⟨{ c with calls := c.calls + 1, pending := [] }, Eventually.of_forall fun _ => rfl, rfl,
      rfl, (List.append_nil _).symm, (List.append_nil _).symm⟩
  | cons m ms ih =>
    set called : DBusConnection := { c with calls := c.calls + 1 }
    have steady₁ : called.satellite.currentState.Steady := steady
    obtain ⟨sat₁, dispatched, steady', state, spawned⟩ := dispatch_answers spawns steady₁ m
    set first : DBusConnection := { called with
      satellite := sat₁
      handled := c.handled ++ [(m, (handle platform m c.satellite.currentState).reply)] }
    have steady₂ : first.satellite.currentState.Steady := steady'
    obtain ⟨c', rest, empty, state', spawned', handled'⟩ := ih steady₂
    have state₁ : first.satellite.currentState =
        (m.answer platform c.satellite.currentState).1 := state
    rw [state₁] at state' spawned' handled'
    refine ⟨c', ?_, empty, state', ?_, ?_⟩
    · filter_upwards [dispatched, rest] with n once later
      rw [handleAll, never, if_neg Bool.false_ne_true]
      exact Option.bind_eq_some_iff.mpr ⟨first, once, later⟩
    · have spawned₁ : first.satellite.spawned =
          c.satellite.spawned ++ (m.answer platform c.satellite.currentState).2 := spawned
      rw [spawned', spawned₁, List.append_assoc]
      rfl
    · rw [handled', List.append_assoc]
      rfl

end Spawning

/-- With every script started and sd-bus without failures, `handle_dbus` returns in every
state that is reached, with every message that waited served: the state, the scripts started
and the replies are those of the function `serve`. -/
theorem handleDbus_serves (platform : Platform) (failsAt : ℕ → Bool) (uvSpawn : Script → ℕ → Bool)
    (spawns : ∀ script j, uvSpawn script j = true) (never : ∀ j, failsAt j = false)
    (args : Arguments) {ts : List (Transition DBusConnection Input)} {c : DBusConnection}
    (run : Run (Step platform failsAt uvSpawn) (new (Satellite.new args false)) ts c) :
    ∃ c', (∃ N, ∀ n ≥ N, c.handleDbus platform failsAt (Satellite.onEvent uvSpawn n) = some c') ∧
      c'.pending = [] ∧
      c'.satellite.currentState = (serve platform c.pending c.satellite.currentState).state ∧
      c'.satellite.spawned =
        c.satellite.spawned ++ (serve platform c.pending c.satellite.currentState).orders ∧
      c'.handled = c.handled ++ (serve platform c.pending c.satellite.currentState).replies := by
  obtain ⟨c', returns, rest⟩ := handleAll_serves spawns never (run_steady run) c.pending
  exact ⟨c', eventually_atTop.mp returns, rest⟩

/-- An alarm that waits is served by entering safemode. -/
theorem handleDbus_serves_alarm :
    ∃ ts c c', Run (Step ⟨false, []⟩ (fun _ => false) fun _ _ => true)
        (new (Satellite.new {} false)) ts c ∧
      ts.map Transition.label = [.arrived (.ofText .thmStateChange (tempText .alarm))] ∧
      (∃ N, ∀ n ≥ N, c.handleDbus ⟨false, []⟩ (fun _ => false)
        (Satellite.onEvent (fun _ _ => true) n) = some c') ∧
      c'.satellite.spawned = [.enterSafeMode 1, .triggerDetumbling] := by
  set m : Message := .ofText .thmStateChange (tempText .alarm)
  have comes : (new (Satellite.new {} false)).Step ⟨false, []⟩ (fun _ => false) (fun _ _ => true)
      (.arrived m) { new (Satellite.new {} false) with pending := [m] } := ⟨trivial, 0, rfl⟩
  obtain ⟨c', returns, _, _, spawned, _⟩ :=
    handleDbus_serves _ _ _ (fun _ _ => rfl) (fun _ => rfl) {} (Run.nil.snoc comes)
  exact ⟨_, _, c', Run.nil.snoc comes, rfl, returns, spawned.trans (by decide +kernel)⟩

end DBusConnection

/-- How a mode that is set shows in the telemetry: a text that is not understood changes
nothing, and one that is understood sets the mode. Safemode is the exception, which is not
left while an emergency is not left to the operator. Nothing but the modes changes. -/
structure Shown (platform : Platform) (m : Message) (s : State) (shown : Telemetry) : Prop where
  refused : m.wanted platform = none → shown = s.telemetry
  others : { shown with
    safemode := s.safemode
    manualmode := s.manualmode
    maneuvermode := s.maneuvermode } = s.telemetry
  safemode : ∀ b, m.wanted platform = some b → m.member = .setSafemode →
    (shown.safemode ≠ 0 ↔ b = true ∨ s.manualmode = false ∧ s.emergency ≠ 0)
  maneuvermode : ∀ b, m.wanted platform = some b → m.member = .setManeuvermode →
    shown.maneuvermode = b
  manualmode : ∀ b, m.wanted platform = some b → m.member = .setManualmode → shown.manualmode = b

def Member.setsMode : Member → Bool
  | .setSafemode | .setManeuvermode | .setManualmode => true
  | _ => false

private theorem telemetry_settle (s : State) :
    { s.settle.telemetry with
      safemode := s.safemode
      maneuvermode := s.maneuvermode } = s.telemetry := by
  unfold State.settle
  split <;> rfl


private theorem event_of_wanted {make : Bool → Event}
    (handling : handle platform m (State.new false .done) = dbusMode platform m make) :
    m.event platform = (m.wanted platform).map make := by
  rw [Message.event, handling, dbusMode_eq]

private theorem Shown.of_none (wanted : m.wanted platform = none) :
    Shown platform m s s.telemetry where
  refused _ := rfl
  others := rfl
  safemode b understood := by
    rw [wanted] at understood
    cases understood
  maneuvermode b understood := by
    rw [wanted] at understood
    cases understood
  manualmode b understood := by
    rw [wanted] at understood
    cases understood

private theorem Shown.of_some {b : Bool} {shown : Telemetry} (wanted : m.wanted platform = some b)
    (others : { shown with
      safemode := s.safemode
      manualmode := s.manualmode
      maneuvermode := s.maneuvermode } = s.telemetry)
    (safemode : m.member = .setSafemode →
      (shown.safemode ≠ 0 ↔ b = true ∨ s.manualmode = false ∧ s.emergency ≠ 0))
    (maneuvermode : m.member = .setManeuvermode → shown.maneuvermode = b)
    (manualmode : m.member = .setManualmode → shown.manualmode = b) :
    Shown platform m s shown where
  refused none := by
    rw [wanted] at none
    cases none
  others := others
  safemode b' understood := by
    obtain rfl := Option.some.inj (wanted.symm.trans understood)
    exact safemode
  maneuvermode b' understood := by
    obtain rfl := Option.some.inj (wanted.symm.trans understood)
    exact maneuvermode
  manualmode b' understood := by
    obtain rfl := Option.some.inj (wanted.symm.trans understood)
    exact manualmode

private theorem shown_safemode (covered : s.Covered) (method : m.member = .setSafemode) {b : Bool}
    (wanted : m.wanted platform = some b) :
    Shown platform m s (s.respond (.safeModeReq b)).telemetry := by
  have calm := (State.covered_iff s).mp covered
  have other {member : Member} {P : Prop} (differs : member ≠ .setSafemode) :
      m.member = member → P := fun same => absurd (same.symm.trans method) differs
  cases b with
  | true =>
    refine .of_some wanted rfl (fun _ => ?_) (other (by decide)) (other (by decide))
    exact ⟨fun _ => Or.inl rfl, fun _ => show (3 : UInt8) ≠ 0 by decide⟩
  | false =>
    by_cases safe : s.safemode ≠ 0
    · set cleared : State := { s with safemode := 0 }
      have left : s.respond (.safeModeReq false) = cleared.settle := if_pos safe
      have others : { cleared.settle.telemetry with
          safemode := s.safemode
          maneuvermode := s.maneuvermode
          manualmode := s.manualmode } = s.telemetry :=
        congrArg (fun t : Telemetry => { t with safemode := s.safemode, manualmode := s.manualmode })
          (telemetry_settle cleared)
      rw [left]
      refine .of_some wanted others (fun _ => ?_) (other (by decide)) (other (by decide))
      by_cases urgent : cleared.Urgent
      · rw [State.settle_of_urgent urgent]
        exact ⟨fun _ => Or.inr ⟨urgent.1.2, urgent.2⟩, fun _ => urgent.2⟩
      · rw [State.settle_of_not_urgent urgent]
        constructor
        · exact fun left => absurd rfl left
        · rintro (absurd_ | ⟨manual, emergency⟩)
          · cases absurd_
          · exact absurd ⟨⟨rfl, manual⟩, emergency⟩ urgent
    · have stays : s.respond (.safeModeReq false) = s := if_neg safe
      rw [stays]
      refine .of_some wanted rfl (fun _ => ?_) (other (by decide)) (other (by decide))
      constructor
      · exact fun left => absurd left safe
      · rintro (absurd_ | ⟨manual, emergency⟩)
        · cases absurd_
        · exact absurd ⟨⟨not_not.mp safe, manual⟩, emergency⟩ calm

private theorem shown_maneuvermode
    (covered : s.Covered) (method : m.member = .setManeuvermode) {b : Bool}
    (wanted : m.wanted platform = some b) :
    Shown platform m s (s.respond (.maneuverModeSignal b)).telemetry := by
  have other {member : Member} {P : Prop} (differs : member ≠ .setManeuvermode) :
      m.member = member → P := fun same => absurd (same.symm.trans method) differs
  have covered' : { s with maneuvermode := b }.Covered := covered
  have settled : s.respond (.maneuverModeSignal b) = { s with maneuvermode := b } := covered'.settle
  rw [settled]
  exact .of_some wanted rfl (other (by decide)) (fun _ => rfl) (other (by decide))

private theorem shown_manualmode (method : m.member = .setManualmode) {b : Bool}
    (wanted : m.wanted platform = some b) :
    Shown platform m s (s.respond (.manualModeReq b)).telemetry := by
  have other {member : Member} {P : Prop} (differs : member ≠ .setManualmode) :
      m.member = member → P := fun same => absurd (same.symm.trans method) differs
  cases b with
  | true => exact .of_some wanted rfl (other (by decide)) (other (by decide)) fun _ => rfl
  | false =>
    cases manual : s.manualmode with
    | true =>
      set left : State := { s with manualmode := false }
      have answer : s.respond (.manualModeReq false) = left.settle := if_pos manual
      have others : { left.settle.telemetry with
          safemode := s.safemode
          maneuvermode := s.maneuvermode
          manualmode := s.manualmode } = s.telemetry :=
        congrArg (fun t : Telemetry => { t with manualmode := s.manualmode }) (telemetry_settle left)
      have kept : left.settle.manualmode = false := by
        unfold State.settle
        split <;> rfl
      rw [answer]
      exact .of_some wanted others (other (by decide)) (other (by decide)) fun _ => kept
    | false =>
      have answer : s.respond (.manualModeReq false) = s :=
        if_neg (by rw [manual]; exact Bool.false_ne_true)
      rw [answer]
      exact .of_some wanted rfl (other (by decide)) (other (by decide)) fun _ => manual

private theorem shown_answer (covered : s.Covered) (method : m.member.setsMode = true) :
    Shown platform m s (m.answer platform s).1.telemetry := by
  have mode {make : Bool → Event} (event : m.event platform = (m.wanted platform).map make)
      (understood : ∀ b, m.wanted platform = some b →
        Shown platform m s (s.respond (make b)).telemetry) :
      Shown platform m s (m.answer platform s).1.telemetry := by
    cases wanted : m.wanted platform with
    | none =>
      rw [Message.answer, event, wanted]
      exact .of_none wanted
    | some b =>
      rw [Message.answer, event, wanted]
      exact understood b wanted
  cases member : m.member with
  | setSafemode =>
    have event : m.event platform = (m.wanted platform).map .safeModeReq := by
      rw [event_of_wanted (by rw [handle, member]; rfl)]
      congr 1
      funext b
      cases b <;> rfl
    exact mode event fun b => shown_safemode covered member
  | setManeuvermode =>
    refine mode (event_of_wanted ?_) fun b => shown_maneuvermode covered member
    rw [handle, member]
    rfl
  | setManualmode =>
    refine mode (event_of_wanted ?_) fun b => shown_manualmode member
    rw [handle, member]
    rfl
  | exec | getBeaconData | checkDaemon | checkHardware | getVersion | thmStateChange
  | epsChargeStateChange | leopStateChange | payloadConditionsNotFulfilled
  | payloadMeasurementDone | payloadConditionsFulfilled | adcsStateReached =>
    rw [member] at method
    cases method

/-- Verification as the methods that set a mode document it: asked for in between, the next
beacon shows the mode, and the reply tells whether the text was understood. -/
theorem modes_shown (platform : Platform) (failsAt : ℕ → Bool) (uvSpawn : Script → ℕ → Bool)
    (spawns : ∀ script j, uvSpawn script j = true) (never : ∀ j, failsAt j = false)
    (args : Arguments) {ts : List (Transition DBusConnection Input)} {c : DBusConnection}
    (run : Run (DBusConnection.Step platform failsAt uvSpawn)
      (.new (Satellite.new args false)) ts c) {m query : Message} {ms : List Message}
    (waits : c.pending = m :: query :: ms) (method : m.member.setsMode = true)
    (beaconed : query.member = .getBeaconData) :
    ∃ c' bytes shown later,
      (∃ N, ∀ n ≥ N, c.handleDbus platform failsAt (Satellite.onEvent uvSpawn n) = some c') ∧
      c'.handled = c.handled ++ (m, some (.boolean (m.wanted platform).isSome)) ::
        (query, some (.array bytes)) :: later ∧
      beacon.parse bytes = some shown ∧ Shown platform m c.satellite.currentState shown := by
  have steady := DBusConnection.run_steady run
  obtain ⟨c', returns, _, _, _, handled⟩ :=
    DBusConnection.handleAll_serves spawns never steady c.pending
  set s := c.satellite.currentState
  set after := (m.answer platform s).1
  have first : (handle platform m s).reply = some (.boolean (m.wanted platform).isSome) := by
    cases member : m.member with
    | setSafemode | setManeuvermode | setManualmode =>
      simp only [handle, member, dbusSafemode, dbusManeuvermode, dbusManualmode, dbusMode_eq]
    | exec | getBeaconData | checkDaemon | checkHardware | getVersion | thmStateChange
    | epsChargeStateChange | leopStateChange | payloadConditionsNotFulfilled
    | payloadMeasurementDone | payloadConditionsFulfilled | adcsStateReached =>
      rw [member] at method
      cases method
  have second : (handle platform query after).reply = some (.array (getBeaconData after)) := by
    rw [handle, beaconed]
  set later := (serve platform ms (query.answer platform after).1).replies
  have replies : (serve platform c.pending s).replies =
      (m, some (.boolean (m.wanted platform).isSome)) ::
        (query, some (.array (getBeaconData after))) :: later := by
    rw [waits, ← first, ← second]
    rfl
  exact ⟨c', getBeaconData after, after.telemetry, later, eventually_atTop.mp returns,
    handled.trans (congrArg _ replies), beacon.parse_encode after.telemetry,
    shown_answer steady.covered method⟩

/-- Safemode is left while the battery is low, and shows with reason 2. -/
theorem modes_shown_low :
    ∃ ts c c' bytes shown later,
      Run (DBusConnection.Step ⟨true, []⟩ (fun _ => false) fun _ _ => true)
        (.new (Satellite.new {} false)) ts c ∧
      c.satellite.currentState.safemode = 2 ∧
      (∃ N, ∀ n ≥ N, c.handleDbus ⟨true, []⟩ (fun _ => false)
        (Satellite.onEvent (fun _ _ => true) n) = some c') ∧
      c'.handled = c.handled ++ (.ofText .setSafemode (boolText false), some (.boolean true)) ::
        (.bare .getBeaconData, some (.array bytes)) :: later ∧
      beacon.parse bytes = some shown ∧ shown.safemode ≠ 0 := by
  obtain ⟨ts, c, run, labels, test⟩ :=
    exists_run_to (DBusConnection.step_of_next ⟨true, []⟩ (fun _ => false) (fun _ _ => true) 9)
      (.new (Satellite.new {} false)) [.arrived ⟨.epsChargeStateChange, .error (-6), .ok 7⟩, .ready,
        .arrived (.ofText .setSafemode (boolText false)), .arrived (.bare .getBeaconData)]
      (fun c => decide (c.pending = [.ofText .setSafemode (boolText false), .bare .getBeaconData] ∧
        c.satellite.currentState.safemode = 2 ∧ c.satellite.currentState.manualmode = false ∧
        c.satellite.currentState.emergency ≠ 0)) (by decide +kernel)
  obtain ⟨waits, safe, manual, emergency⟩ := of_decide_eq_true test
  obtain ⟨c', bytes, shown, later, returns, handled, parsed, shows⟩ :=
    modes_shown _ _ _ (fun _ _ => rfl) (fun _ => rfl) {} run waits rfl rfl
  have wanted : (Message.ofText .setSafemode (boolText false)).wanted ⟨true, []⟩ = some false := by
    decide +kernel
  rw [wanted] at handled
  exact ⟨ts, c, c', bytes, shown, later, run, safe, returns, handled, parsed,
    (shows.safemode false wanted rfl).mpr (Or.inr ⟨manual, emergency⟩)⟩

end Dbus

end Horst
