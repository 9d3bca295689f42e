import Horst.Dbus.Messages
import Horst.Foundation.Refinement

/-!
The connection to the bus: messages wait until the event loop calls `handle_dbus`, which works
on them until there are none left or sd-bus reports a failure.
-/

set_option autoImplicit false
set_option relaxedAutoImplicit false

namespace Horst.Dbus

open Foundation
open Foundation.Nested (Handler)

/-- The connection with its satellite, the messages that wait, and a chronicle of those that
were handled, with their replies. `calls` counts the calls of `sd_bus_process`. -/
structure DBusConnection where
  satellite : Satellite
  calls : ℕ
  pending : List Message
  handled : List (Message × Option Reply)

/-- What the event loop calls back for: a message has come in, the bus is ready or its timer
is over, or a script has ended. -/
inductive Input
  | arrived (m : Message)
  | ready
  | exited (child : Child) (exitStatus : Int) (termSignal : Int)

namespace DBusConnection

def new (satellite : Satellite) : DBusConnection := ⟨satellite, 0, [], []⟩

section Handling

variable (platform : Platform) (failsAt : ℕ → Bool) (onEvent : Handler Event Satellite)

/-- `sd_bus_process` calls the handler of a message. -/
def dispatch (m : Message) (c : DBusConnection) : Option DBusConnection :=
  let handling := handle platform m c.satellite.currentState
  let satellite := match handling.event with
    | some e => c.satellite.callback onEvent (.event e)
    | none => some c.satellite
  satellite.map fun sat =>
    { c with satellite := sat, handled := c.handled ++ [(m, handling.reply)] }

/-- The loop of `handle_dbus`. A failing call of `sd_bus_process` takes no message. -/
def handleAll : List Message → DBusConnection → Option DBusConnection
  | [], c => some { c with calls := c.calls + 1, pending := [] }
  | m :: ms, c =>
      if failsAt c.calls then
        some { c with calls := c.calls + 1, pending := m :: ms }
      else
        ({ c with calls := c.calls + 1 }.dispatch platform onEvent m).bind (handleAll ms)

def handleDbus (c : DBusConnection) : Option DBusConnection :=
  c.handleAll platform failsAt onEvent c.pending

def callback (c : DBusConnection) : Input → Option DBusConnection
  | .arrived m => some { c with pending := c.pending ++ [m] }
  | .ready => c.handleDbus platform failsAt onEvent
  | .exited child exitStatus termSignal =>
      (c.satellite.callback onEvent (.exited child exitStatus termSignal)).map fun sat =>
        { c with satellite := sat }

end Handling

def Enabled (c : DBusConnection) : Input → Prop
  | .exited child _ _ => child ∈ c.satellite.running
  | _ => True

instance (c : DBusConnection) (input : Input) : Decidable (c.Enabled input) :=
  match input with
  | .exited child _ _ => inferInstanceAs (Decidable (child ∈ c.satellite.running))
  | .arrived _ | .ready => inferInstanceAs (Decidable True)

def Step (platform : Platform) (failsAt : ℕ → Bool) (uvSpawn : Script → ℕ → Bool)
    (c : DBusConnection) (input : Input) (c' : DBusConnection) : Prop :=
  c.Enabled input ∧
    ∃ n, c.callback platform failsAt (Satellite.onEvent uvSpawn n) input = some c'

def next (platform : Platform) (failsAt : ℕ → Bool) (uvSpawn : Script → ℕ → Bool) (n : ℕ)
    (c : DBusConnection) (input : Input) : Option DBusConnection :=
  if c.Enabled input then c.callback platform failsAt (Satellite.onEvent uvSpawn n) input else none

theorem step_of_next (platform : Platform) (failsAt : ℕ → Bool) (uvSpawn : Script → ℕ → Bool)
    (n : ℕ) (c : DBusConnection) (input : Input) (c' : DBusConnection)
    (h : c.next platform failsAt uvSpawn n input = some c') :
    c.Step platform failsAt uvSpawn input c' := by
  unfold next at h
  split at h
  · rename_i enabled
    exact ⟨enabled, n, h⟩
  · cases h

end DBusConnection

def arrivals (ts : List (Transition DBusConnection Input)) : List Message :=
  ts.filterMap fun t => match t.label with
    | .arrived m => some m
    | _ => none

def eventsOf (platform : Platform) (handled : List (Message × Option Reply)) : List Event :=
  handled.filterMap fun entry => entry.1.event platform

/-- What a step of the connection means for the satellite: the events of the messages that it
handles, or the end of a script. -/
def inputs (platform : Platform) (t : Transition DBusConnection Input) : List Horst.Input :=
  match t.label with
  | .arrived _ => []
  | .ready =>
      (eventsOf platform (t.target.handled.drop t.source.handled.length)).map .event
  | .exited child exitStatus termSignal => [.exited child exitStatus termSignal]

namespace DBusConnection

variable {platform : Platform} {failsAt : ℕ → Bool} {uvSpawn : Script → ℕ → Bool}
  {onEvent : Handler Event Satellite} {c c' : DBusConnection} {m : Message} {ms : List Message}

theorem dispatch_inv (h : c.dispatch platform onEvent m = some c') :
    c'.calls = c.calls ∧ c'.pending = c.pending ∧
      c'.handled = c.handled ++ [(m, (handle platform m c.satellite.currentState).reply)] ∧
      ((∃ e, m.event platform = some e ∧
          c.satellite.callback onEvent (.event e) = some c'.satellite) ∨
        m.event platform = none ∧ c'.satellite = c.satellite) := by
  obtain ⟨sat, serves, rfl⟩ := Option.map_eq_some_iff.mp h
  refine ⟨rfl, rfl, rfl, ?_⟩
  rw [← handle_event c.satellite.currentState]
  split at serves
  · rename_i e event
    exact Or.inl ⟨e, event, serves⟩
  · rename_i event
    exact Or.inr ⟨event, (Option.some.inj serves).symm⟩

/-- What a drain does: it handles messages from the front, in their order, and the rest waits.
Nothing waits unless sd-bus has failed. -/
structure Drained (platform : Platform) (failsAt : ℕ → Bool) (uvSpawn : Script → ℕ → Bool)
    (ms : List Message) (c c' : DBusConnection) : Prop where
  order : ∃ entries, c'.handled = c.handled ++ entries ∧ ms = entries.map Prod.fst ++ c'.pending ∧
    ∃ us, Run (Satellite.Step uvSpawn) c.satellite us c'.satellite ∧
      us.map Transition.label =
        (eventsOf platform entries).map Horst.Input.event
  complete : (∀ j, failsAt j = false) → c'.pending = []

theorem drained_handleAll {n : ℕ}
    (h : c.handleAll platform failsAt (Satellite.onEvent uvSpawn n) ms = some c') :
    Drained platform failsAt uvSpawn ms c c' := by
  induction ms generalizing c with
  | nil =>
    obtain rfl := Option.some.inj h
    exact ⟨⟨[], (List.append_nil _).symm, rfl, [], .nil, rfl⟩, fun _ => rfl⟩
  | cons m ms ih =>
    rw [handleAll] at h
    split at h
    · rename_i failed
      obtain rfl := Option.some.inj h
      refine ⟨⟨[], (List.append_nil _).symm, rfl, [], .nil, rfl⟩, fun never => ?_⟩
      rw [never] at failed
      cases failed
    · obtain ⟨c₁, first, rest⟩ := Option.bind_eq_some_iff.mp h
      obtain ⟨_, _, handled, serves⟩ := dispatch_inv first
      obtain ⟨⟨entries, grown, order, us, run, labels⟩, complete⟩ := ih rest
      refine ⟨⟨(m, (handle platform m c.satellite.currentState).reply) :: entries, ?_, ?_, ?_⟩,
        complete⟩
      · rw [grown, handled]
        exact List.append_assoc _ [_] _
      · rw [order]
        rfl
      · rcases serves with ⟨e, event, serves⟩ | ⟨silent, same⟩
        · have step : Satellite.Step uvSpawn c.satellite (.event e) c₁.satellite :=
            ⟨(deliverable_of_event event).external, n, serves⟩
          refine ⟨[⟨c.satellite, .event e, c₁.satellite⟩] ++ us, (Run.nil.snoc step).append run, ?_⟩
          simp [eventsOf, labels, event]
        · rw [same] at run
          refine ⟨us, run, ?_⟩
          simp [eventsOf, labels, silent]

def Serves (platform : Platform) (uvSpawn : Script → ℕ → Bool) (sat : Satellite) (m : Message)
    (sat' : Satellite) : Prop :=
  (∃ e, m.event platform = some e ∧ Satellite.Step uvSpawn sat (.event e) sat') ∨
    m.event platform = none ∧ sat' = sat

theorem run_invariant {J : Satellite → List (Message × Option Reply) → Prop}
    (message : ∀ sat entries m sat', J sat entries → Serves platform uvSpawn sat m sat' →
      J sat' (entries ++ [(m, (handle platform m sat.currentState).reply)]))
    (exited : ∀ sat entries child exitStatus termSignal sat', J sat entries →
      Satellite.Step uvSpawn sat (.exited child exitStatus termSignal) sat' → J sat' entries)
    {sat : Satellite} {ts : List (Transition DBusConnection Input)}
    (run : Run (Step platform failsAt uvSpawn) (new sat) ts c) (start : J sat []) :
    J c.satellite c.handled := by
  have drain {n : ℕ} {ms : List Message} {c c' : DBusConnection}
      (h : c.handleAll platform failsAt (Satellite.onEvent uvSpawn n) ms = some c')
      (holds : J c.satellite c.handled) : J c'.satellite c'.handled := by
    induction ms generalizing c with
    | nil =>
      obtain rfl := Option.some.inj h
      exact holds
    | cons m ms ih =>
      rw [handleAll] at h
      split at h
      · obtain rfl := Option.some.inj h
        exact holds
      · obtain ⟨c₁, first, rest⟩ := Option.bind_eq_some_iff.mp h
        obtain ⟨_, _, handled, serves⟩ := dispatch_inv first
        apply ih rest
        rw [handled]
        refine message _ _ m _ holds ?_
        rcases serves with ⟨e, event, serves⟩ | same
        · exact Or.inl ⟨e, event, (deliverable_of_event event).external, n, serves⟩
        · exact Or.inr same
  refine run.invariant (I := fun c => J c.satellite c.handled) start ?_
  rintro c input c' holds ⟨enabled, n, called⟩
  cases input with
  | arrived m =>
    obtain rfl := Option.some.inj called
    exact holds
  | ready => exact drain called holds
  | exited child exitStatus termSignal =>
    obtain ⟨sat', ends, rfl⟩ := Option.map_eq_some_iff.mp called
    exact exited _ _ child exitStatus termSignal sat' holds ⟨enabled, n, ends⟩

/-- A step of the connection is some steps of the satellite. -/
theorem step_implements {input : Input} (step : Step platform failsAt uvSpawn c input c') :
    ∃ us, Run (Satellite.Step uvSpawn) c.satellite us c'.satellite ∧
      us.map Transition.label = inputs platform ⟨c, input, c'⟩ := by
  obtain ⟨enabled, n, called⟩ := step
  cases input with
  | arrived m =>
    obtain rfl := Option.some.inj called
    exact ⟨[], .nil, rfl⟩
  | ready =>
    obtain ⟨⟨entries, grown, _, us, run, labels⟩, _⟩ := drained_handleAll called
    refine ⟨us, run, ?_⟩
    rw [labels, inputs]
    simp only [grown, List.drop_left]
  | exited child exitStatus termSignal =>
    obtain ⟨sat, ends, rfl⟩ := Option.map_eq_some_iff.mp called
    have step : Satellite.Step uvSpawn c.satellite (.exited child exitStatus termSignal) sat :=
      ⟨enabled, n, ends⟩
    exact ⟨[⟨c.satellite, .exited child exitStatus termSignal, sat⟩], Run.nil.snoc step, rfl⟩

/-- However the messages are spread over the callbacks of the event loop, and wherever sd-bus
fails, those that were handled are the first that came in, each once and in order, and the
satellite has seen their events, the ends of scripts in between, and nothing else. Unless
sd-bus fails, `handle_dbus` leaves no message waiting. -/
theorem runs_in_order (platform : Platform) (failsAt : ℕ → Bool) (uvSpawn : Script → ℕ → Bool)
    {sat : Satellite} {ts : List (Transition DBusConnection Input)} {c : DBusConnection}
    (run : Run (Step platform failsAt uvSpawn) (new sat) ts c) :
    arrivals ts = c.handled.map Prod.fst ++ c.pending ∧
      (∃ us, Run (Satellite.Step uvSpawn) sat us c.satellite ∧
        us.map Transition.label = ts.flatMap (inputs platform)) ∧
      ((∀ j, failsAt j = false) → ∀ t ∈ ts, t.label = .ready → t.target.pending = []) := by
  refine ⟨?_, ?_, ?_⟩
  · induction run with
    | nil => rfl
    | @snoc ts s s' input _ step ih =>
      rw [arrivals, List.filterMap_append]
      change arrivals ts ++ _ = _
      obtain ⟨_, n, called⟩ := step
      rw [ih]
      cases input with
      | arrived m =>
        obtain rfl := Option.some.inj called
        exact List.append_assoc _ _ _
      | ready =>
        obtain ⟨⟨entries, grown, order, _⟩, _⟩ := drained_handleAll called
        rw [order, grown, List.map_append, ← List.append_assoc]
        exact List.append_nil _
      | exited child exitStatus termSignal =>
        obtain ⟨_, _, rfl⟩ := Option.map_eq_some_iff.mp called
        exact List.append_nil _
  · exact run.implements (inputs platform) (I := fun _ => True) trivial (fun _ _ _ _ _ => trivial)
      fun _ _ _ _ step => step_implements step
  · intro never t mem ready
    obtain ⟨_, _, n, called⟩ := run.transition mem
    rw [ready] at called
    exact (drained_handleAll called).complete never

/-- `setSafemode TRUE`, and a charge state that cannot be read. -/
def sampleMessages : Message × Message :=
  (⟨.setSafemode, .ok ⟨literal "TRUE", by decide⟩, .error (-6)⟩,
    ⟨.epsChargeStateChange, .error (-6), .error (-6)⟩)

/-- The second call of `sd_bus_process` fails, and leaves a message for the next callback. -/
theorem runs_in_order_failure :
    ∃ ts c, Run (Step ⟨true, []⟩ (fun j => j = 1) fun _ _ => true) (new (Satellite.new {} false)) ts c ∧
      ts.map Transition.label = [.arrived sampleMessages.1, .arrived sampleMessages.2, .ready] ∧
      c.pending.length = 1 ∧ arrivals ts = c.handled.map Prod.fst ++ c.pending := by
  obtain ⟨ts, c, run, labels, test⟩ :=
    exists_run_to (step_of_next ⟨true, []⟩ (fun j => j = 1) (fun _ _ => true) 6)
      (new (Satellite.new {} false)) [.arrived sampleMessages.1, .arrived sampleMessages.2, .ready]
      (fun c => c.pending.length = 1) (by decide +kernel)
  exact ⟨ts, c, run, labels, of_decide_eq_true test, (runs_in_order _ _ _ run).1⟩

end DBusConnection

end Horst.Dbus
