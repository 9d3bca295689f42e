import Horst.Satellite.Guards

/-!
Shell commands for requests. They are appended to a copy of the state, which one pass
of the table turns into actions and then forgets.
-/

set_option autoImplicit false
set_option relaxedAutoImplicit false

namespace Horst

open Foundation Foundation.Nested

/-- The shell command that an action runs for a request. -/
def Action.request? : Action → Option (Text × ControlMessage)
  | .shellCommand command request => some (command, request)
  | .enterManualMode | .leaveManualMode | .enterSafeMode _ | .leaveSafeMode | .finishLEOP
  | .triggerMeasuring | .triggerDetumbling | .triggerSunpointing => none

def Event.request? : Event → Option (Text × ControlMessage)
  | .controlMessage message => some (message.command, message)
  | _ => none

def Input.request? : Input → Option (Text × ControlMessage)
  | .event e => e.request?
  | .exited .. => none

/-- The command of an `exec`; a daemon control has its command built for it. -/
def ControlMessage.exec? : ControlMessage → Option Text
  | .shellCommandReq cmd _ => some cmd
  | .daemonControlReq _ _ => none

/-- The command that an action runs for an `exec`. -/
def Action.exec? : Action → Option Text
  | .shellCommand command request => request.exec?.map fun _ => command
  | .enterManualMode | .leaveManualMode | .enterSafeMode _ | .leaveSafeMode | .finishLEOP
  | .triggerMeasuring | .triggerDetumbling | .triggerSunpointing => none

def Input.exec? : Input → Option Text
  | .event (.controlMessage message) => message.exec?
  | _ => none

private theorem Input.exec?_eq (input : Input) :
    input.exec? = input.request?.bind fun r => r.2.exec?.map fun _ => r.1 := by
  cases input with
  | exited => rfl
  | event e =>
    cases e with
    | controlMessage message => cases message <;> rfl
    | _ => rfl

private theorem Event.commands_update (e : Event) (s : State) :
    (e.update s).computer.shellCommands = s.computer.shellCommands ++ e.request?.toList := by
  cases e <;> simp [Event.update, Event.request?]

private theorem Event.request?_of_isFact
    {e : Event} (fact : e.isFact = true) : e.request? = none := by
  cases e with
  | controlMessage => cases fact
  | _ => rfl

namespace State

private theorem computer_pass (e : Event) (s : State) : (s.pass e).1.computer.shellCommands =
    s.computer.shellCommands ++ if e.isFact = true then e.request?.toList else [] := by
  have kept (this target : State) : (this.transformTo target).1.computer = this.computer := by
    rw [transformTo_eq]
    unfold leopRules
    split_ifs <;> rfl
  unfold pass
  rw [kept]
  cases fact : e.isFact with
  | true => exact e.commands_update s
  | false => exact (List.append_nil _).symm

private theorem request?_of_mem_rules {s s' target : State} {a : Action}
    (mem : a ∈ s.modeRules target ++ s'.autonomousRules target) : a.request? = none := by
  rcases List.mem_append.mp mem with modes | autonomous
  · rcases mem_modeRules modes with rfl | rfl | rfl | rfl | rfl <;> rfl
  · have trigger : a.isTrigger = true → a.request? = none := by
      intro h
      cases a with
      | shellCommand => cases h
      | enterManualMode | leaveManualMode | enterSafeMode | leaveSafeMode | finishLEOP
      | triggerMeasuring | triggerDetumbling | triggerSunpointing => rfl
    unfold autonomousRules at autonomous
    split at autonomous
    · rw [List.append_assoc] at autonomous
      rcases List.mem_append.mp autonomous with emergency | due
      · rw [emergencyRules_eq] at emergency
        split at emergency
        · rw [List.mem_singleton.mp emergency]
          rfl
        · cases emergency
      · exact trigger (isTrigger_of_mem_dueTriggers due)
    · cases autonomous

theorem pass_commands (e : Event) {s : State} (empty : s.computer.shellCommands = []) :
    ∃ rules, (s.pass e).2 = (e.request?.toList.map fun r => .shellCommand r.1 r.2) ++ rules ∧
      ∀ a ∈ rules, a.request? = none := by
  have target : (e.update s).computer.shellCommands = e.request?.toList := by
    rw [Event.commands_update, empty, List.nil_append]
  cases fact : e.isFact with
  | true =>
    refine ⟨(e.update s).modeRules (e.update s) ++
      ((e.update s).leopRules (e.update s)).1.autonomousRules (e.update s), ?_, ?_⟩
    · rw [pass_fact fact, transformTo_modeRules, Computer.transformTo, target]
    · exact fun a mem => request?_of_mem_rules mem
  | false =>
    refine ⟨s.modeRules (e.update s) ++ (s.leopRules (e.update s)).1.autonomousRules (e.update s),
      ?_, ?_⟩
    · rw [pass_request fact, transformTo_modeRules, Computer.transformTo, target]
    · exact fun a mem => request?_of_mem_rules mem

end State

namespace Satellite

variable {uvSpawn : Script → ℕ → Bool} {sat sat' : Satellite}

def requests (sat : Satellite) : List (Text × ControlMessage) :=
  (sat.launches.map Launch.action).filterMap Action.request?

private theorem guards_requests :
    Guards (fun s => s.computer.shellCommands = []) fun a _ => a.request? = none where
  invariant e s internal empty := by
    have kept := State.computer_pass e s
    cases internal <;> rwa [empty] at kept
  kept _ _ _ _ _ h := h
  granted e s internal empty a mem := by
    obtain ⟨rules, list, none⟩ := State.pass_commands e empty
    rw [list] at mem
    cases internal <;> exact none a mem
  invariant_unsafe _ empty := empty
  kept_unsafe _ _ _ h := h

private theorem requests_append {ls : List Launch} (append : sat'.launches = sat.launches ++ ls)
    (none : ∀ l ∈ ls, l.action.request? = none) : sat'.requests = sat.requests := by
  have empty : (ls.map Launch.action).filterMap Action.request? = [] := by
    rw [List.filterMap_map]
    exact List.filterMap_eq_nil_iff.mpr none
  rw [requests, append, List.map_append, List.filterMap_append, empty, List.append_nil, requests]

theorem requests_onEvent {n : ℕ} {e : Event} (empty : sat.currentState.computer.shellCommands = [])
    (h : Satellite.onEvent uvSpawn n e sat = some sat') :
    sat'.currentState.computer.shellCommands = [] ∧
      sat'.requests = sat.requests ++ e.request?.toList := by
  cases n with
  | zero => cases h
  | succ n =>
    obtain ⟨rules, list, none⟩ := State.pass_commands e empty
    change onEventBody uvSpawn (Satellite.onEvent uvSpawn n) e sat = some sat' at h
    rw [onEventBody_eq, list, performActions_append] at h
    obtain ⟨sat₁, commands, rest⟩ := Option.bind_eq_some_iff.mp h
    have plain : ∀ a ∈ e.request?.toList.map fun r => Action.shellCommand r.1 r.2,
        a.isPlain = true := by
      intro a mem
      obtain ⟨_, _, rfl⟩ := List.mem_map.mp mem
      rfl
    obtain ⟨sat₂, run, state, ls, append, actions, _⟩ :=
      performActions_plain uvSpawn _ plain (sat.heard e)
    obtain rfl : sat₂ = sat₁ := Option.some.inj ((run _).symm.trans commands)
    have heard : (sat.heard e).currentState.computer.shellCommands = [] := by
      refine (State.computer_pass e sat.currentState).trans ?_
      split
      · rename_i isFact
        rw [empty, Event.request?_of_isFact isFact]
        rfl
      · rw [empty, List.append_nil]
    have watched := guards_requests.performActions (guards_requests.serves n)
      (by rw [state]; exact heard) none rest
    obtain ⟨ls', append', each⟩ := watched.launches
    refine ⟨watched.invariant, ?_⟩
    have run₁ : sat₂.requests = sat.requests ++ e.request?.toList := by
      have launched : (ls.map Launch.action).filterMap Action.request? = e.request?.toList := by
        rw [actions, List.filterMap_map]
        exact List.filterMap_some
      rw [requests, append, launches_heard, List.map_append, List.filterMap_append, launched,
        requests]
    rw [requests_append append' each, run₁]

private theorem requests_step (empty : sat.currentState.computer.shellCommands = []) {input : Input}
    (step : Step uvSpawn sat input sat') :
    sat'.currentState.computer.shellCommands = [] ∧
      sat'.requests = sat.requests ++ input.request?.toList := by
  obtain ⟨_, calls⟩ := step
  cases input with
  | event e =>
    obtain ⟨n, call⟩ := calls
    have served := requests_onEvent (by exact empty) call
    have woken : (sat.record (.callback sat.currentState)).requests = sat.requests := by
      simp [requests, LogEntry.launch?]
    rwa [woken] at served
  | exited child exitStatus termSignal =>
    have ended : sat'.currentState.computer.shellCommands = [] ∧ ∃ ls,
        sat'.launches = sat.launches ++ ls ∧ ∀ l ∈ ls, l.action.request? = none := by
      refine guards_requests.callback empty ?_ calls
      intro e asked
      cases asked
    obtain ⟨invariant, ls, append, each⟩ := ended
    exact ⟨invariant, (requests_append append each).trans (List.append_nil _).symm⟩

private theorem requests_run {args : Arguments} {enforced : Bool}
    {ts : List (Transition Satellite Input)}
    (run : Run (Step uvSpawn) (Satellite.new args enforced) ts sat) :
    sat.currentState.computer.shellCommands = [] ∧
      sat.requests = (ts.map Transition.label).filterMap Input.request? := by
  induction run with
  | nil => exact ⟨rfl, rfl⟩
  | snoc _ step ih =>
    obtain ⟨empty, launched⟩ := requests_step ih.1 step
    refine ⟨empty, ?_⟩
    rw [launched, ih.2, List.map_append, List.filterMap_append]
    rfl

def execs (sat : Satellite) : List Text := (sat.launches.map Launch.action).filterMap Action.exec?

private theorem execs_eq (sat : Satellite) :
    sat.execs = sat.requests.filterMap fun r => r.2.exec?.map fun _ => r.1 := by
  rw [execs, requests, List.filterMap_filterMap]
  refine List.filterMap_congr fun a _ => ?_
  cases a <;> rfl

/-- Each `exec` runs its command once, whatever happens before, during or after it. -/
theorem exec_once (uvSpawn : Script → ℕ → Bool) (args : Arguments) (enforced : Bool)
    {ts : List (Transition Satellite Input)} {sat : Satellite}
    (run : Run (Step uvSpawn) (Satellite.new args enforced) ts sat) :
    sat.currentState.computer.shellCommands = [] ∧
      sat.execs = (ts.map Transition.label).filterMap Input.exec? := by
  obtain ⟨empty, launched⟩ := requests_run run
  refine ⟨empty, ?_⟩
  rw [execs_eq, launched, List.filterMap_filterMap]
  exact List.filterMap_congr fun input _ => (Input.exec?_eq input).symm

/-- Two commands, with an alarm in between and the end of the first one. -/
theorem exec_once_alarm :
    ∃ ts sat, Run (Step fun _ _ => true) (Satellite.new {} false) ts sat ∧
      (ts.map Transition.label).filterMap Input.exec? = ["reboot".toList, "ls".toList] ∧
      sat.currentState.computer.shellCommands = [] ∧
      sat.execs = (ts.map Transition.label).filterMap Input.exec? := by
  obtain ⟨ts, sat, run, labels, _⟩ := exists_run (fun _ _ => true) 5 (Satellite.new {} false)
    [.event (.controlMessage (.shellCommandReq "reboot".toList false)),
      .event (.thmSignal .alarm),
      .exited ⟨0, .shellCommand "reboot".toList (.shellCommandReq "reboot".toList false)⟩ 0 0,
      .event (.controlMessage (.shellCommandReq "ls".toList false))]
    (fun _ => true) (by decide +kernel)
  exact ⟨ts, sat, run, by rw [labels]; rfl, exec_once _ _ _ run⟩

end Satellite

end Horst
