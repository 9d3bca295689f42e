import Horst.Satellite.Flat

/-!
The satellite with the life of its actions. `ShellCommand::perform` ends with an assignment to
the member `process` of the action. When `uv_spawn` fails, the constructor of that process has
already freed the action, and the program does not survive the assignment. A callback that
returns is one in which every script was started.
-/

set_option autoImplicit false
set_option relaxedAutoImplicit false

namespace Horst

open Foundation Foundation.Nested Filter

/-- The assignment to `process` at the end of `ShellCommand::perform`. It destroys what was there
before, which in freed memory is no process. -/
def Satellite.assignProcess (id : ℕ) (sat : Satellite) : Option Satellite :=
  if id ∈ sat.actions.map Prod.fst then some sat else none

section Actions

variable (uvSpawn : Script → ℕ → Bool) (onEvent : Handler Event Satellite)

/-- The loop of `Satellite::on_event`: the assignment is the last thing that `perform` does for
every action. -/
def performActionsFreeing : List Action → Satellite → Option Satellite
  | [], sat => some sat
  | action :: actions, sat =>
      let (id, sat) := sat.addAction action
      ((action.perform uvSpawn onEvent id (sat.record (.run id action sat.currentState))).bind
        (Satellite.assignProcess id)).bind (performActionsFreeing actions)

def Satellite.onEventBodyFreeing (event : Event) (sat : Satellite) : Option Satellite :=
  let sat := sat.record (.event event sat.currentState)
  let state := if event.isFact then event.update sat.currentState else sat.currentState
  let target := if event.isFact then state else event.update state
  let (state, actions) := state.transformTo target
  performActionsFreeing uvSpawn onEvent actions (sat.setState state)

end Actions

namespace Satellite

def onEventFreeing (uvSpawn : Script → ℕ → Bool) : ℕ → Handler Event Satellite :=
  depth (onEventBodyFreeing uvSpawn)

/-- The callback returns in the program, with the satellite it leaves behind. -/
def CallsFreeing (uvSpawn : Script → ℕ → Bool) (sat : Satellite) (input : Input)
    (sat' : Satellite) : Prop :=
  ∃ n, sat.callback (onEventFreeing uvSpawn n) input = some sat'

def StepFreeing (uvSpawn : Script → ℕ → Bool) (sat : Satellite) (input : Input)
    (sat' : Satellite) : Prop :=
  sat.Enabled input ∧ sat.CallsFreeing uvSpawn input sat'

end Satellite

namespace Satellite

variable {uvSpawn : Script → ℕ → Bool} {f : Handler Event Satellite} {sat sat' : Satellite}

private theorem eq_of_assignProcess {id : ℕ} (h : assignProcess id sat = some sat') :
    sat = sat' := by
  rw [assignProcess, Option.ite_none_right_eq_some] at h
  exact Option.some.inj h.2

private theorem performActions_of_freeing {as : List Action}
    (h : performActionsFreeing uvSpawn f as sat = some sat') :
    performActions uvSpawn f as sat = some sat' := by
  induction as generalizing sat with
  | nil => exact h
  | cons a as ih =>
    obtain ⟨sat₁, head, tail⟩ := Option.bind_eq_some_iff.mp h
    obtain ⟨sat₀, performs, assigns⟩ := Option.bind_eq_some_iff.mp head
    obtain rfl := eq_of_assignProcess assigns
    exact Option.bind_eq_some_iff.mpr ⟨sat₀, performs, ih tail⟩

theorem stepFreeing_step {input : Input} (step : StepFreeing uvSpawn sat input sat') :
    Step uvSpawn sat input sat' := by
  obtain ⟨enabled, n, call⟩ := step
  have below : Below (onEventFreeing uvSpawn n) (onEvent uvSpawn n) :=
    depth_imp onEventBody_monotone (fun _ _ _ _ h => performActions_of_freeing h) n
  exact ⟨enabled, n, callback_below below input call⟩

/-- The runs of the program with the life of its actions are among those without it. -/
theorem run_of_freeing {init : Satellite} {ts : List (Transition Satellite Input)}
    (run : Run (StepFreeing uvSpawn) init ts sat) : Run (Step uvSpawn) init ts sat :=
  run.imp fun _ _ _ => stepFreeing_step

end Satellite

/-- The scripts that a callback asks for, in the order in which they are started. -/
def State.due (s : State) : Input → List Action
  | .event e => s.orders e
  | .exited child exitStatus termSignal =>
      if termSignal ≠ SIGTERM then (s.conclude child.action (exitStatus = 0)).2 else []

/-- Each of the scripts can be started, after as many attempts at it as given. -/
def AllStart (uvSpawn : Script → ℕ → Bool) : List Action → (Script → ℕ) → Prop
  | [], _ => True
  | a :: as, attempts =>
      uvSpawn a.script (attempts a.script) = true ∧
        AllStart uvSpawn as fun script => attempts script + if a.script = script then 1 else 0

instance decidableAllStart (uvSpawn : Script → ℕ → Bool) :
    ∀ (as : List Action) (attempts : Script → ℕ), Decidable (AllStart uvSpawn as attempts)
  | [], _ => inferInstanceAs (Decidable True)
  | _ :: as, _ =>
      have := decidableAllStart uvSpawn as
      inferInstanceAs (Decidable (_ ∧ _))

variable {uvSpawn : Script → ℕ → Bool} {as bs : List Action} {k : Script → ℕ}

private theorem allStart_append :
    AllStart uvSpawn (as ++ bs) k ↔
      AllStart uvSpawn as k ∧
        AllStart uvSpawn bs fun script => k script + as.countP fun a => a.script = script := by
  induction as generalizing k with
  | nil => simp [AllStart]
  | cons a as ih =>
    have counts : (fun script => (k script + if a.script = script then 1 else 0) +
        as.countP fun b => b.script = script) =
        fun script => k script + (a :: as).countP fun b => b.script = script := by
      funext script
      rw [List.countP_cons]
      simp only [decide_eq_true_eq]
      omega
    rw [List.cons_append, AllStart, ih, counts, AllStart, and_assoc]

private theorem not_allStart_of_never {a : Action} (never : ∀ j, uvSpawn a.script j = false) :
    ¬ AllStart uvSpawn (a :: as) k := by
  rintro ⟨starts, _⟩
  rw [never] at starts
  cases starts

namespace Satellite

variable {sat sat₁ sat₂ sat' : Satellite} {c t : Option Satellite} {f g : Handler Event Satellite}

private theorem spawned_record {entry : LogEntry} (silent : entry.launch? = none)
    (sat : Satellite) : (sat.record entry).spawned = sat.spawned := by
  rw [spawned, launches_record, silent]
  exact congrArg (List.map Launch.action) (List.append_nil _)

private theorem attempts_eq_countP (sat : Satellite) (script : Script) :
    sat.attempts script = sat.spawned.countP fun a => a.script = script := by
  rw [attempts, spawned, List.countP_map]
  rfl

private theorem attempts_spawned (grown : sat'.spawned = sat.spawned ++ as) :
    sat'.attempts = fun script => sat.attempts script + as.countP fun a => a.script = script := by
  funext script
  rw [attempts_eq_countP, attempts_eq_countP, grown, List.countP_append]

/-- Every script that was started in between can be started. -/
def Started (uvSpawn : Script → ℕ → Bool) (sat sat' : Satellite) : Prop :=
  ∃ as, sat'.spawned = sat.spawned ++ as ∧ AllStart uvSpawn as sat.attempts

private theorem started_iff (grown : sat'.spawned = sat.spawned ++ as) :
    Started uvSpawn sat sat' ↔ AllStart uvSpawn as sat.attempts := by
  constructor
  · rintro ⟨bs, grown', starts⟩
    rwa [List.append_cancel_left (grown'.symm.trans grown)] at starts
  · exact fun starts => ⟨as, grown, starts⟩

theorem Started.congr (spawned : sat₁.spawned = sat.spawned) :
    Started uvSpawn sat₁ sat' ↔ Started uvSpawn sat sat' := by
  have attempts : sat₁.attempts = sat.attempts := by
    rw [attempts_spawned (spawned.trans (List.append_nil _).symm)]
    rfl
  rw [Started, Started, spawned, attempts]

/-- A computation with the life of the actions, beside one in which every script starts: it
returns exactly if the other one does and every script in it can be started. -/
structure Agrees (uvSpawn : Script → ℕ → Bool) (c t : Option Satellite) (sat : Satellite) :
    Prop where
  grows : ∀ sat', t = some sat' → sat.spawned <+: sat'.spawned
  iff : ∀ sat', c = some sat' ↔ t = some sat' ∧ Started uvSpawn sat sat'

def Keeps (t : Option Satellite) (sat : Satellite) : Prop :=
  ∀ sat', t = some sat' → sat.actions <+: sat'.actions

private theorem agrees_pure (spawned : sat'.spawned = sat.spawned) :
    Agrees uvSpawn (some sat') (some sat') sat := by
  have grown : sat'.spawned = sat.spawned ++ [] := spawned.trans (List.append_nil _).symm
  refine ⟨fun sat₁ same => ?_, fun sat₁ => ⟨fun same => ⟨same, ?_⟩, And.left⟩⟩
  · obtain rfl := Option.some.inj same
    exact ⟨[], grown.symm⟩
  · obtain rfl := Option.some.inj same
    exact (started_iff grown).mpr trivial

private theorem agrees_none : Agrees uvSpawn none none sat :=
  ⟨by simp, by simp⟩

theorem Agrees.congr (agrees : Agrees uvSpawn c t sat₁) (spawned : sat₁.spawned = sat.spawned) :
    Agrees uvSpawn c t sat := by
  refine ⟨fun sat' returns => spawned ▸ agrees.grows sat' returns, fun sat' => ?_⟩
  rw [agrees.iff, Started.congr spawned]

theorem Agrees.bind {d u : Satellite → Option Satellite} (first : Agrees uvSpawn c t sat)
    (second : ∀ sat₁, t = some sat₁ → Agrees uvSpawn (d sat₁) (u sat₁) sat₁) :
    Agrees uvSpawn (c.bind d) (t.bind u) sat := by
  constructor
  · intro sat' returns
    obtain ⟨sat₁, head, tail⟩ := Option.bind_eq_some_iff.mp returns
    exact (first.grows sat₁ head).trans ((second sat₁ head).grows sat' tail)
  · intro sat'
    simp only [Option.bind_eq_some_iff]
    -- what was started on the way is what the first part started, and then the second
    have split (sat₁ : Satellite) (head : t = some sat₁) (tail : u sat₁ = some sat') :
        Started uvSpawn sat sat' ↔ Started uvSpawn sat sat₁ ∧ Started uvSpawn sat₁ sat' := by
      obtain ⟨as, grown⟩ := first.grows sat₁ head
      obtain ⟨bs, grown'⟩ := (second sat₁ head).grows sat' tail
      have whole : sat'.spawned = sat.spawned ++ (as ++ bs) := by
        rw [← grown', ← grown, List.append_assoc]
      rw [started_iff whole, started_iff grown.symm, started_iff grown'.symm,
        attempts_spawned grown.symm, allStart_append]
    constructor
    · rintro ⟨sat₁, head, tail⟩
      obtain ⟨head', starts⟩ := (first.iff sat₁).mp head
      obtain ⟨tail', starts'⟩ := ((second sat₁ head').iff sat').mp tail
      exact ⟨⟨sat₁, head', tail'⟩, (split sat₁ head' tail').mpr ⟨starts, starts'⟩⟩
    · rintro ⟨⟨sat₁, head, tail⟩, starts⟩
      obtain ⟨early, late⟩ := (split sat₁ head tail).mp starts
      exact ⟨sat₁, (first.iff sat₁).mpr ⟨head, early⟩,
        ((second sat₁ head).iff sat').mpr ⟨tail, late⟩⟩

private theorem keeps_bind {u : Satellite → Option Satellite} (first : Keeps t sat)
    (second : ∀ sat₁, Keeps (u sat₁) sat₁) : Keeps (t.bind u) sat := by
  intro sat' returns
  obtain ⟨sat₁, head, tail⟩ := Option.bind_eq_some_iff.mp returns
  exact (first sat₁ head).trans (second sat₁ sat' tail)

section Handlers

variable (agree : ∀ e sat, Agrees uvSpawn (f e sat) (g e sat) sat)
  (keep : ∀ e sat, Keeps (g e sat) sat)

private theorem perform_starts (id : ℕ) (a : Action) (sat : Satellite) :
    ShellCommand.perform (fun _ _ => true) g id a sat =
      some ((sat.created id a true).started id a) := rfl

private theorem assignProcess_exited (id : ℕ) (a : Action) (exitCode : Int) (sat : Satellite) :
    (ShellCommand.exited f id a exitCode sat).bind (assignProcess id) = none := by
  rw [ShellCommand.exited, Option.bind_assoc, Option.bind_eq_none_iff]
  intro sat₁ _
  rw [Option.bind_some, assignProcess, if_neg]
  simp [removeAction]

private theorem agrees_script {id : ℕ} (stored : id ∈ sat.actions.map Prod.fst) (a : Action) :
    Agrees uvSpawn ((ShellCommand.perform uvSpawn f id a sat).bind (assignProcess id))
      (ShellCommand.perform (fun _ _ => true) g id a sat) sat := by
  set ready := (sat.created id a true).started id a
  have grown : ready.spawned = sat.spawned ++ [a] := by
    rw [spawned, launches_started, launches_created, List.map_append]
    rfl
  rw [perform_starts]
  refine ⟨fun sat' same => ?_, fun sat' => ?_⟩
  · obtain rfl := Option.some.inj same
    exact ⟨[a], grown.symm⟩
  · cases starts : uvSpawn a.script (sat.attempts a.script) with
    | true =>
      have performs : ShellCommand.perform uvSpawn f id a sat = some ready := by
        rw [ShellCommand.perform, starts]
        rfl
      have kept : assignProcess id ready = some ready := if_pos stored
      rw [performs, Option.bind_some, kept]
      refine ⟨fun same => ⟨same, ?_⟩, And.left⟩
      obtain rfl := Option.some.inj same
      exact (started_iff grown).mpr ⟨starts, trivial⟩
    | false =>
      have performs : ShellCommand.perform uvSpawn f id a sat =
          ShellCommand.exited f id a (-1) (sat.created id a false) := by
        rw [ShellCommand.perform, starts]
        rfl
      rw [performs, assignProcess_exited]
      constructor
      · intro impossible
        cases impossible
      · rintro ⟨same, started⟩
        obtain rfl := Option.some.inj same
        have both := ((started_iff grown).mp started).1
        rw [starts] at both
        cases both

private theorem keeps_script (id : ℕ) (a : Action) (sat : Satellite) :
    Keeps (ShellCommand.perform (fun _ _ => true) g id a sat) sat := by
  intro sat' same
  obtain rfl := Option.some.inj same
  exact List.prefix_refl _

include keep

private theorem keeps_signal (e : Event) {u : Satellite → Option Satellite}
    (rest : ∀ sat₁, Keeps (u sat₁) sat₁) (sat : Satellite) : Keeps ((g e sat).bind u) sat :=
  keeps_bind (keep e sat) rest

private theorem keeps_perform (id : ℕ) (a : Action) (sat : Satellite) :
    Keeps (a.perform (fun _ _ => true) g id sat) sat := by
  have script := keeps_script (g := g) id
  cases a with
  | enterSafeMode reason =>
    exact keeps_signal keep _ (keeps_signal keep _ (script (.enterSafeMode reason))) sat
  | enterManualMode => exact keeps_signal keep _ (script .enterManualMode) sat
  | leaveManualMode => exact keeps_signal keep _ (script .leaveManualMode) sat
  | leaveSafeMode => exact keeps_signal keep _ (script .leaveSafeMode) sat
  | finishLEOP => exact keeps_signal keep _ (script .finishLEOP) sat
  | shellCommand | triggerMeasuring | triggerDetumbling | triggerSunpointing =>
    exact script _ sat

private theorem keeps_performActions (as : List Action) (sat : Satellite) :
    Keeps (performActions (fun _ _ => true) g as sat) sat := by
  induction as generalizing sat with
  | nil =>
    intro sat' same
    obtain rfl := Option.some.inj same
    exact List.prefix_refl _
  | cons a as ih =>
    have head := keeps_perform keep sat.nextId a (sat.prepared a)
    have whole : Keeps (performActions (fun _ _ => true) g (a :: as) sat) (sat.prepared a) :=
      keeps_bind head ih
    intro sat' returns
    exact (List.prefix_append _ _).trans (whole sat' returns)

include agree

private theorem agrees_signal (e : Event) {id : ℕ} {p q : Satellite → Option Satellite}
    (rest : ∀ sat₁ : Satellite, id ∈ sat₁.actions.map Prod.fst →
      Agrees uvSpawn ((p sat₁).bind (assignProcess id)) (q sat₁) sat₁)
    (stored : id ∈ sat.actions.map Prod.fst) :
    Agrees uvSpawn (((f e sat).bind p).bind (assignProcess id)) ((g e sat).bind q) sat := by
  rw [Option.bind_assoc]
  refine (agree e sat).bind fun sat₁ told => rest sat₁ ?_
  exact ((keep e sat sat₁ told).map Prod.fst).subset stored

private theorem agrees_perform {id : ℕ} (a : Action) (stored : id ∈ sat.actions.map Prod.fst) :
    Agrees uvSpawn ((a.perform uvSpawn f id sat).bind (assignProcess id))
      (a.perform (fun _ _ => true) g id sat) sat := by
  have script (a : Action) (sat₁ : Satellite) (stored : id ∈ sat₁.actions.map Prod.fst) :
      Agrees uvSpawn ((ShellCommand.perform uvSpawn f id a sat₁).bind (assignProcess id))
        (ShellCommand.perform (fun _ _ => true) g id a sat₁) sat₁ := agrees_script stored a
  cases a with
  | enterSafeMode reason =>
    exact agrees_signal agree keep _
      (fun _ stored => agrees_signal agree keep _ (script (.enterSafeMode reason)) stored) stored
  | enterManualMode => exact agrees_signal agree keep _ (script .enterManualMode) stored
  | leaveManualMode => exact agrees_signal agree keep _ (script .leaveManualMode) stored
  | leaveSafeMode => exact agrees_signal agree keep _ (script .leaveSafeMode) stored
  | finishLEOP => exact agrees_signal agree keep _ (script .finishLEOP) stored
  | shellCommand | triggerMeasuring | triggerDetumbling | triggerSunpointing =>
    exact script _ sat stored

private theorem agrees_performActions (as : List Action) (sat : Satellite) :
    Agrees uvSpawn (performActionsFreeing uvSpawn f as sat)
      (performActions (fun _ _ => true) g as sat) sat := by
  induction as generalizing sat with
  | nil => exact agrees_pure rfl
  | cons a as ih =>
    have stored : sat.nextId ∈ (sat.prepared a).actions.map Prod.fst := by
      simp [prepared, addAction, record]
    have head := agrees_perform agree keep a stored
    have prepared : (sat.prepared a).spawned = sat.spawned :=
      congrArg (List.map Launch.action) (launches_prepared sat a)
    exact (head.bind fun sat₁ _ => ih sat₁).congr prepared

private theorem agrees_onEventBody (e : Event) (sat : Satellite) :
    Agrees uvSpawn (onEventBodyFreeing uvSpawn f e sat) (onEventBody (fun _ _ => true) g e sat)
      sat := by
  have heard : (sat.record (.event e sat.currentState)).spawned = sat.spawned :=
    spawned_record rfl sat
  exact (agrees_performActions agree keep _ _).congr heard

end Handlers

private theorem keeps_onEvent (n : ℕ) (e : Event) (sat : Satellite) :
    Keeps (onEvent (fun _ _ => true) n e sat) sat := by
  induction n generalizing e sat with
  | zero =>
    intro sat' returns
    cases returns
  | succ n ih => exact keeps_performActions ih _ _

private theorem agrees_onEvent (n : ℕ) (e : Event) (sat : Satellite) :
    Agrees uvSpawn (onEventFreeing uvSpawn n e sat) (onEvent (fun _ _ => true) n e sat) sat := by
  induction n generalizing e sat with
  | zero => exact agrees_none
  | succ n ih => exact agrees_onEventBody ih (keeps_onEvent n) e sat

private theorem agrees_done (n : ℕ) (a : Action) (success : Bool) (sat : Satellite) :
    Agrees uvSpawn (a.done (onEventFreeing uvSpawn n) success sat)
      (a.done (onEvent (fun _ _ => true) n) success sat) sat := by
  have nothing : Agrees uvSpawn (some sat) (some sat) sat := agrees_pure rfl
  have calls (e : Event) : Agrees uvSpawn (onEventFreeing uvSpawn n e sat) _ sat :=
    agrees_onEvent n e sat
  cases a with
  | enterSafeMode reason =>
    cases success with
    | true => exact nothing
    | false => exact calls _
  | leaveManualMode =>
    by_cases safe : sat.currentState.safemode ≠ 0
    · have again : Agrees uvSpawn _ _ (sat.setState { sat.currentState with safemode := 0 }) :=
        agrees_onEvent n (.safeModeReq true) (sat.setState { sat.currentState with safemode := 0 })
      simp only [Action.done, LeaveManualMode.done, if_pos safe]
      exact again.congr rfl
    · simp only [Action.done, LeaveManualMode.done, if_neg safe]
      exact nothing
  | triggerDetumbling | triggerSunpointing | triggerMeasuring =>
    cases success with
    | true => exact calls _
    | false => exact nothing
  | shellCommand | enterManualMode | leaveSafeMode | finishLEOP => exact nothing

private theorem agrees_callback (n : ℕ) (input : Input) (sat : Satellite) :
    Agrees uvSpawn (sat.callback (onEventFreeing uvSpawn n) input)
      (sat.callback (onEvent (fun _ _ => true) n) input) sat := by
  set woken := sat.record (.callback sat.currentState)
  have awake : woken.spawned = sat.spawned := spawned_record rfl sat
  cases input with
  | event e => exact (agrees_onEvent n e woken).congr awake
  | exited child exitStatus termSignal =>
    simp only [callback]
    by_cases reported : termSignal ≠ SIGTERM
    · rw [if_pos reported, if_pos reported]
      set logged := (woken.ended child).record (.exited child.id child.action exitStatus)
      have heard : logged.spawned = sat.spawned := (spawned_record rfl _).trans awake
      have done : Agrees uvSpawn _ _ logged := agrees_done n child.action (exitStatus = 0) logged
      have freed (sat₁ : Satellite) : Agrees uvSpawn
          (some ((sat₁.record (.finished child.id (exitStatus = 0))).removeAction child.id))
          (some ((sat₁.record (.finished child.id (exitStatus = 0))).removeAction child.id)) sat₁ :=
        agrees_pure (spawned_record rfl sat₁)
      exact (done.bind fun sat₁ _ => freed sat₁).congr heard
    · rw [if_neg reported, if_neg reported]
      exact agrees_pure awake

private theorem callback_due (steady : sat.currentState.Steady) (input : Input) :
    ∃ sat', Computes (onEventBody fun _ _ => true) (fun g => sat.callback g input) sat' ∧
      sat'.spawned = sat.spawned ++ sat.currentState.due input := by
  have spawns (script : Script) (j : ℕ) :
      (fun _ _ => true : Script → ℕ → Bool) script j = true := rfl
  set woken := sat.record (.callback sat.currentState)
  have steady' : woken.currentState.Steady := steady
  have awake : woken.spawned = sat.spawned := spawned_record rfl sat
  cases input with
  | event e =>
    obtain ⟨sat', computes, ordered⟩ := gives_event spawns steady' e
    exact ⟨sat', computes, ordered.spawned.trans (congrArg (· ++ _) awake)⟩
  | exited child exitStatus termSignal =>
    by_cases reported : termSignal ≠ SIGTERM
    · have steady'' : (woken.ended child).currentState.Steady := steady
      obtain ⟨sat', computes, ordered⟩ :=
        gives_exited spawns steady'' child.id child.action exitStatus
      refine ⟨sat', computes.congr fun g => if_pos reported, ?_⟩
      rw [State.due, if_pos reported]
      exact ordered.spawned.trans (congrArg (· ++ _) awake)
    · refine ⟨woken.ended child, (computes_pure _).congr fun g => if_neg reported, ?_⟩
      rw [State.due, if_neg reported, List.append_nil]
      exact awake

private theorem calls_unique {input : Input} {n : ℕ}
    (call : sat.callback (onEvent uvSpawn n) input = some sat₁)
    (computes : Computes (onEventBody uvSpawn) (fun g => sat.callback g input) sat') :
    sat₁ = sat' := by
  obtain ⟨N, returns⟩ := eventually_atTop.mp computes
  have mono : Monotone (onEventBody uvSpawn) := onEventBody_monotone
  have later := callback_below (depth_below mono (Nat.le_max_left n N)) input call
  exact Option.some.inj (later.symm.trans (returns (max n N) (Nat.le_max_right n N)))

theorem returns_iff (steady : sat.currentState.Steady) (input : Input) :
    (∃ sat', sat.CallsFreeing uvSpawn input sat') ↔
      AllStart uvSpawn (sat.currentState.due input) sat.attempts := by
  obtain ⟨sat', computes, grown⟩ := callback_due steady input
  constructor
  · rintro ⟨sat₁, n, call⟩
    obtain ⟨plain, started⟩ := ((agrees_callback n input sat).iff sat₁).mp call
    obtain rfl : sat₁ = sat' := calls_unique plain computes
    exact (started_iff grown).mp started
  · intro starts
    obtain ⟨n, call⟩ := computes.exists
    exact ⟨sat', n, ((agrees_callback n input sat).iff sat').mpr
      ⟨call, (started_iff grown).mpr starts⟩⟩

private theorem stepFreeing_iff {input : Input} :
    StepFreeing uvSpawn sat input sat' ↔
      Step (fun _ _ => true) sat input sat' ∧ Started uvSpawn sat sat' := by
  constructor
  · rintro ⟨enabled, n, call⟩
    obtain ⟨plain, started⟩ := ((agrees_callback n input sat).iff sat').mp call
    exact ⟨⟨enabled, n, plain⟩, started⟩
  · rintro ⟨⟨enabled, n, plain⟩, started⟩
    exact ⟨enabled, n, ((agrees_callback n input sat).iff sat').mpr ⟨plain, started⟩⟩

private theorem run_starts
    {args : Arguments} {enforced : Bool} {ts : List (Transition Satellite Input)} :
    Run (StepFreeing uvSpawn) (Satellite.new args enforced) ts sat ↔
      Run (Step fun _ _ => true) (Satellite.new args enforced) ts sat ∧
        AllStart uvSpawn sat.spawned fun _ => 0 := by
  have fresh : (Satellite.new args enforced).attempts = fun _ => 0 := rfl
  have whole (sat : Satellite) : Started uvSpawn (Satellite.new args enforced) sat ↔
      AllStart uvSpawn sat.spawned fun _ => 0 := by
    rw [← fresh]
    exact started_iff rfl
  have split {sat₁ sat' : Satellite} {input : Input}
      (step : Step (fun _ _ => true) sat₁ input sat') :
      Started uvSpawn (Satellite.new args enforced) sat' ↔
        Started uvSpawn (Satellite.new args enforced) sat₁ ∧ Started uvSpawn sat₁ sat' := by
    obtain ⟨as, grown⟩ : sat₁.spawned <+: sat'.spawned := by
      obtain ⟨_, n, call⟩ := step
      have agrees : Agrees uvSpawn _ _ sat₁ := agrees_callback n input sat₁
      exact agrees.grows sat' call
    have counts : sat₁.attempts = fun script =>
        0 + sat₁.spawned.countP fun a => a.script = script := by
      funext script
      rw [attempts_eq_countP, Nat.zero_add]
    rw [whole, whole, started_iff grown.symm, ← grown, allStart_append, counts]
  constructor
  · intro run
    induction run with
    | nil => exact ⟨.nil, trivial⟩
    | snoc _ step ih =>
      obtain ⟨prior, starts⟩ := ih
      obtain ⟨plain, started⟩ := stepFreeing_iff.mp step
      exact ⟨prior.snoc plain, (whole _).mp ((split plain).mpr ⟨(whole _).mpr starts, started⟩)⟩
  · rintro ⟨run, starts⟩
    induction run with
    | nil => exact .nil
    | snoc _ step ih =>
      obtain ⟨early, started⟩ := (split step).mp ((whole _).mpr starts)
      exact (ih ((whole _).mp early)).snoc (stepFreeing_iff.mpr ⟨step, started⟩)

/-- A callback returns exactly if every script that it asks for can be started. -/
theorem callback_returns_iff (uvSpawn : Script → ℕ → Bool) (args : Arguments)
    (reachable : Reachable (StepFreeing uvSpawn) (Satellite.new args false) sat) (input : Input) :
    (∃ sat', sat.CallsFreeing uvSpawn input sat') ↔
      AllStart uvSpawn (sat.currentState.due input) sat.attempts := by
  obtain ⟨ts, run⟩ := reachable
  exact returns_iff (run_steady (run_starts.mp run).1) input

theorem callback_returns_iff_alarm :
    (∃ sat', (Satellite.new {} false).CallsFreeing (fun _ _ => true) (.event (.thmSignal .alarm))
        sat') ↔
      AllStart (fun _ _ => true)
        ((Satellite.new {} false).currentState.due (.event (.thmSignal .alarm)))
        (Satellite.new {} false).attempts :=
  callback_returns_iff _ _ reachable_refl _

/-- If `enter_safemode.sh` can never be started, an alarm is never served. -/
theorem alarm_never_served :
    ¬ ∀ (uvSpawn : Script → ℕ → Bool) (args : Arguments) (sat : Satellite) (input : Input),
      Reachable (StepFreeing uvSpawn) (Satellite.new args false) sat → sat.Enabled input →
      ∃ sat', sat.CallsFreeing uvSpawn input sat' := by
  intro claim
  have returns := claim (fun _ _ => false) {} (Satellite.new {} false) (.event (.thmSignal .alarm))
    reachable_refl rfl
  have starts := (returns_iff (new_steady {}) _).mp returns
  have due : (Satellite.new {} false).currentState.due (.event (.thmSignal .alarm)) =
      [.enterSafeMode 1, .triggerDetumbling] := by decide +kernel
  rw [due] at starts
  exact not_allStart_of_never (fun _ => rfl) starts

/-- For every pattern of failing starts, the runs of the program with the life of its actions are
those of the flat machine in which each script that is asked for can be started. -/
theorem freeing_runs_iff (uvSpawn : Script → ℕ → Bool) (args : Arguments)
    (inputs : List Flat.Input) (c : Flat) (orders : List Action) :
    (∃ ts sat, Run (StepFreeing uvSpawn) (Satellite.new args false) ts sat ∧
      (ts.map fun t => t.label.flat) = inputs ∧ sat.flat = c ∧ sat.spawned = orders) ↔
      transduce Flat.next inputs (Flat.new args) = some (c, orders) ∧
        AllStart uvSpawn orders fun _ => 0 := by
  have spawns (script : Script) (j : ℕ) :
      (fun _ _ => true : Script → ℕ → Bool) script j = true := rfl
  have plain : (∃ ts sat, Run (Step fun _ _ => true) (Satellite.new args false) ts sat ∧
      (ts.map fun t => t.label.flat) = inputs ∧ sat.flat = c ∧ sat.spawned = orders) ↔
      transduce Flat.next inputs (Flat.new args) = some (c, orders) :=
    (refines_flat spawns).runs_iff (new_steady args) rfl
  constructor
  · rintro ⟨ts, sat, run, labels, same, rfl⟩
    obtain ⟨prior, starts⟩ := run_starts.mp run
    exact ⟨plain.mp ⟨ts, sat, prior, labels, same, rfl⟩, starts⟩
  · rintro ⟨answers, starts⟩
    obtain ⟨ts, sat, prior, labels, same, rfl⟩ := plain.mpr answers
    exact ⟨ts, sat, run_starts.mpr ⟨prior, starts⟩, labels, same, rfl⟩

end Satellite

end Horst
