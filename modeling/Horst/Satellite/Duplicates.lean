import Horst.Satellite.Counts
import Horst.Satellite.Enforced

/-!
How many processes of one trigger run at the same time: those that were running
already, and the successful ones among the attempts that a callback makes.
-/

set_option autoImplicit false
set_option relaxedAutoImplicit false

namespace Horst

open Foundation Foundation.Nested

namespace Satellite

def processes (a : Action) (children : List Child) : ℕ := children.countP fun child => child.action = a

/-- The number of processes of an action that a list of launches has started. -/
def started? (a : Action) (ls : List Launch) : ℕ :=
  ls.countP fun l => l.action = a ∧ l.spawned = true

/-- The number of successes among `n` attempts at a script from the `k`-th on. -/
def successes (uvSpawn : Script → ℕ → Bool) (script : Script) (k n : ℕ) : ℕ :=
  (List.range' k n).countP (uvSpawn script)

def remaining (sat : Satellite) : Input → List Child
  | .event _ => sat.running
  | .exited child _ _ => sat.running.erase child

def launched (t : Transition Satellite Input) : List Launch :=
  t.target.launches.drop t.source.launches.length

/-- No trigger runs twice at the same time, and no callback starts one twice. -/
structure Single (t : Transition Satellite Input) : Prop where
  running : ∀ a : Action, a.isTrigger = true → processes a t.target.running ≤ 1
  launches : ∀ a : Action, a.isTrigger = true → started? a (launched t) ≤ 1

/-- At most one process of each trigger comes out of those left running and of the
attempts that the callback is about to make. -/
def Spare (uvSpawn : Script → ℕ → Bool) (t : Transition Satellite Input) : Prop :=
  ∀ a : Action, a.isTrigger = true →
    processes a (t.source.remaining t.label) +
      successes uvSpawn a.script (t.source.attempts a.script) (t.source.coming uvSpawn a t.label) ≤ 1

structure Spawned (uvSpawn : Script → ℕ → Bool) (a : Action) (n : ℕ) (ls : List Launch)
    (sat sat' : Satellite) : Prop where
  attempts : sat'.attempts a.script = sat.attempts a.script + n
  launches : sat'.launches = sat.launches ++ ls
  running : processes a sat'.running =
    processes a sat.running + successes uvSpawn a.script (sat.attempts a.script) n
  started : started? a ls = successes uvSpawn a.script (sat.attempts a.script) n

variable {uvSpawn : Script → ℕ → Bool} {a b : Action} {sat sat₁ sat₂ sat' : Satellite}

private theorem successes_add (script : Script) (k m n : ℕ) :
    successes uvSpawn script k (m + n) =
      successes uvSpawn script k m + successes uvSpawn script (k + m) n := by
  unfold successes
  rw [← List.range'_append_1, List.countP_append]

private theorem successes_one (script : Script) (k : ℕ) :
    successes uvSpawn script k 1 = if uvSpawn script k = true then 1 else 0 := by
  unfold successes
  rw [List.range'_one, List.countP_singleton]

theorem Spawned.trans {m n : ℕ} {ls ls' : List Launch} (first : Spawned uvSpawn a m ls sat sat₁)
    (second : Spawned uvSpawn a n ls' sat₁ sat') :
    Spawned uvSpawn a (m + n) (ls ++ ls') sat sat' := by
  have running := second.running
  have started := second.started
  rw [first.attempts] at running started
  refine ⟨?_, ?_, ?_, ?_⟩
  · rw [second.attempts, first.attempts, Nat.add_assoc]
  · rw [second.launches, first.launches, List.append_assoc]
  · rw [running, first.running, successes_add, Nat.add_assoc]
  · rw [successes_add, ← first.started, ← started]
    exact List.countP_append

private theorem spawned_none
    (launches : sat'.launches = sat.launches) (running : sat'.running = sat.running) :
    Spawned uvSpawn a 0 [] sat sat' := by
  refine ⟨attempts_congr launches _, ?_, ?_, rfl⟩
  · rw [launches, List.append_nil]
  · rw [running]
    rfl

private theorem spawned_script (trigger : a.isTrigger = true) (b : Action) {l : Launch}
    (action : l.action = b) (outcome : l.spawned = uvSpawn b.script (sat.attempts b.script))
    (launches : sat'.launches = sat.launches ++ [l])
    (running : processes a sat'.running =
      processes a sat.running + if b = a ∧ l.spawned = true then 1 else 0) :
    ∃ n, Spawned uvSpawn a n [l] sat sat' := by
  have counted := attempts_of_launches launches a.script
  rw [List.countP_singleton, action] at counted
  have started : started? a [l] = if b = a ∧ l.spawned = true then 1 else 0 := by
    unfold started?
    rw [List.countP_singleton, action]
    simp
  by_cases same : b = a
  · subst same
    have one : successes uvSpawn b.script (sat.attempts b.script) 1 =
        if b = b ∧ l.spawned = true then 1 else 0 := by
      rw [successes_one, outcome]
      simp
    refine ⟨1, ?_, launches, ?_, ?_⟩
    · rw [counted]
      simp
    · rw [running, one]
    · rw [started, one]
  · have other : ¬ b.script = a.script := fun h => same ((script_eq_iff trigger b).mp h)
    refine ⟨0, ?_, launches, ?_, ?_⟩
    · rw [counted]
      simp [other]
    · rw [running, if_neg fun h => same h.1]
      rfl
    · rw [started, if_neg fun h => same h.1]
      rfl

variable (uvSpawn a) in
def Spawns (sat sat' : Satellite) : Prop := ∃ n ls, Spawned uvSpawn a n ls sat sat'

theorem Spawns.trans (first : Spawns uvSpawn a sat sat₁) (second : Spawns uvSpawn a sat₁ sat') :
    Spawns uvSpawn a sat sat' := by
  obtain ⟨m, ls, first⟩ := first
  obtain ⟨n, ls', second⟩ := second
  exact ⟨m + n, ls ++ ls', first.trans second⟩

private theorem spawns_none
    (launches : sat'.launches = sat.launches) (running : sat'.running = sat.running) :
    Spawns uvSpawn a sat sat' := ⟨0, [], spawned_none launches running⟩

private theorem kept_spawns
    (trigger : a.isTrigger = true) : Kept uvSpawn Scope.whole (Spawns uvSpawn a) where
  refl _ := spawns_none rfl rfl
  trans := Spawns.trans
  heard sat e _ := spawns_none (launches_heard sat e) rfl
  unsafed _ := spawns_none rfl rfl
  started sat sat₁ b _ before success := by
    have prepared : Spawns uvSpawn a sat (sat.prepared b) :=
      spawns_none (launches_prepared sat b) rfl
    have running : processes a ((sat₁.created sat.nextId b true).started sat.nextId b).running =
        processes a sat₁.running + if b = a ∧ true = true then 1 else 0 := by
      change processes a (sat₁.running ++ [⟨sat.nextId, b⟩]) = _
      unfold processes
      rw [List.countP_append, List.countP_singleton]
      simp
    have launches : ((sat₁.created sat.nextId b true).started sat.nextId b).launches =
        sat₁.launches ++ [⟨b, sat₁.currentState, true⟩] := launches_created sat₁ sat.nextId b true
    obtain ⟨n, script⟩ := spawned_script trigger b rfl success.symm launches running
    have inner : Spawns uvSpawn a sat₁ ((sat₁.created sat.nextId b true).started sat.nextId b) :=
      ⟨n, _, script⟩
    exact prepared.trans (before.trans inner)
  failed sat sat₁ sat₂ b _ before failure after := by
    have prepared : Spawns uvSpawn a sat (sat.prepared b) :=
      spawns_none (launches_prepared sat b) rfl
    have launches : ((sat₁.created sat.nextId b false).record
        (.exited sat.nextId b (-1))).launches =
          sat₁.launches ++ [⟨b, sat₁.currentState, false⟩] := by
      simp [LogEntry.launch?]
    have running : processes a sat₁.running =
        processes a sat₁.running + if b = a ∧ false = true then 1 else 0 := by
      simp
    obtain ⟨n, script⟩ := spawned_script trigger b rfl failure.symm launches running
    have freed : Spawns uvSpawn a sat₂ (sat₂.freed sat.nextId false) :=
      spawns_none (launches_freed sat₂ sat.nextId false) rfl
    have inner : Spawns uvSpawn a sat₁ _ := ⟨n, _, script⟩
    exact prepared.trans (before.trans (inner.trans (after.trans freed)))

private theorem spawns_record (entry : LogEntry) (silent : entry.launch? = none) (sat : Satellite) :
    Spawns uvSpawn a sat (sat.record entry) := by
  refine spawns_none ?_ rfl
  rw [launches_record, silent]
  exact List.append_nil _

private theorem spawns_callback (trigger : a.isTrigger = true) {input : Input}
    (h : Step uvSpawn sat input sat') :
    Spawns uvSpawn a { sat with running := sat.remaining input } sat' := by
  have kept : Kept uvSpawn Scope.whole (Spawns uvSpawn a) := kept_spawns trigger
  obtain ⟨_, n, call⟩ := h
  cases input with
  | event e =>
    have woken : Spawns uvSpawn a sat (sat.record (.callback sat.currentState)) :=
      spawns_record _ rfl sat
    exact woken.trans (kept.call n trivial call)
  | exited child exitStatus termSignal =>
    have woken : Spawns uvSpawn a (sat.ended child)
        ((sat.record (.callback sat.currentState)).ended child) :=
      spawns_record (.callback sat.currentState) rfl (sat.ended child)
    simp only [callback] at call
    split at call
    · obtain ⟨sat₁, done, rfl⟩ := kept.exited_told n call
      set left := (sat.record (.callback sat.currentState)).ended child with hleft
      have told : Spawns uvSpawn a left (left.record (.exited child.id child.action exitStatus)) :=
        spawns_record _ rfl left
      have freed : Spawns uvSpawn a sat₁ (sat₁.freed child.id (exitStatus = 0)) :=
        spawns_none (launches_freed sat₁ _ _) rfl
      exact woken.trans (told.trans (done.trans freed))
    · obtain rfl := Option.some.inj call
      exact woken

private theorem single_iff (steady : sat.currentState.Steady) {input : Input}
    (h : Step uvSpawn sat input sat') :
    Single ⟨sat, input, sat'⟩ ↔ Spare uvSpawn ⟨sat, input, sat'⟩ := by
  have count {a : Action} (trigger : a.isTrigger = true) :
      processes a sat'.running = processes a (sat.remaining input) +
          successes uvSpawn a.script (sat.attempts a.script) (sat.coming uvSpawn a input) ∧
        started? a (launched ⟨sat, input, sat'⟩) =
          successes uvSpawn a.script (sat.attempts a.script) (sat.coming uvSpawn a input) := by
    obtain ⟨n, ls, spawned⟩ := spawns_callback trigger h
    have attempts : sat'.attempts a.script = sat.attempts a.script + n := spawned.attempts
    have closed : sat'.attempts a.script = sat.attempts a.script + sat.coming uvSpawn a input :=
      attempts_callback trigger steady h
    obtain rfl : n = sat.coming uvSpawn a input := by omega
    have launches : sat'.launches = sat.launches ++ ls := spawned.launches
    refine ⟨spawned.running, ?_⟩
    unfold launched
    rw [launches, List.drop_left]
    exact spawned.started
  constructor
  · intro single a trigger
    have running := single.running a trigger
    change processes a sat'.running ≤ 1 at running
    rw [(count trigger).1] at running
    exact running
  · intro spare
    constructor
    · intro a trigger
      change processes a sat'.running ≤ 1
      rw [(count trigger).1]
      exact spare a trigger
    · intro a trigger
      have bound := spare a trigger
      change processes a (sat.remaining input) + successes uvSpawn a.script
        (sat.attempts a.script) (sat.coming uvSpawn a input) ≤ 1 at bound
      rw [(count trigger).2]
      omega

/-! Runs with the flag on. -/

private theorem settle_cleared (s : State) : s.cleared.settle = s.settle.cleared := by
  by_cases urgent : s.Urgent
  · have urgent' : s.cleared.Urgent := urgent
    rw [State.settle_of_urgent urgent, State.settle_of_urgent urgent']
    rfl
  · have calm : ¬ s.cleared.Urgent := urgent
    rw [State.settle_of_not_urgent urgent, State.settle_of_not_urgent calm]

private theorem requestState_cleared (s : State) (e : Event) :
    s.cleared.requestState e = (s.requestState e).cleared := by
  cases e with
  | leopReq wanted =>
    change (if wanted = .done then _ else _) = State.cleared (if wanted = .done then _ else _)
    split <;> rfl
  | _ => rfl

variable (uvSpawn a) in
private theorem leaveCount_cleared (s : State) (k : ℕ) (started : Bool) :
    leaveCount uvSpawn a s.cleared k started = leaveCount uvSpawn a s k started := by
  have settled : State.settle { s.cleared with manualmode := false } =
      (State.settle { s with manualmode := false }).cleared :=
    settle_cleared { s with manualmode := false }
  unfold leaveCount
  rw [settled]
  rfl

private theorem coming_cleared (sat : Satellite) (input : Input) :
    sat.cleared.coming uvSpawn a input = sat.coming uvSpawn a input := by
  have attempts := attempts_cleared sat
  cases input with
  | event e =>
    unfold coming eventCount requestCount
    have leave := leaveCount_cleared uvSpawn a sat.currentState
    have state : sat.cleared.currentState = sat.currentState.cleared := rfl
    simp only [enterAttempts, leaveStarts, attempts, state, leave, requestState_cleared]
    cases e <;> rfl
  | exited child exitStatus termSignal =>
    unfold coming doneCount
    simp only [enterAttempts, attempts]
    cases child.action <;> rfl

private theorem single_cleared (t : Transition Satellite Input) :
    Single (clearedTransition t) ↔ Single t := by
  have launches (a : Action) : started? a (launched (clearedTransition t)) = started? a (launched t) := by
    unfold launched started? clearedTransition
    simp only [launches_cleared, List.length_map, ← List.map_drop, List.countP_map]
    rfl
  constructor
  · intro single
    refine ⟨single.running, fun a trigger => ?_⟩
    rw [← launches]
    exact single.launches a trigger
  · intro single
    refine ⟨single.running, fun a trigger => ?_⟩
    rw [launches]
    exact single.launches a trigger

private theorem spare_cleared (t : Transition Satellite Input) :
    Spare uvSpawn (clearedTransition t) ↔ Spare uvSpawn t := by
  unfold Spare clearedTransition
  simp only [coming_cleared, attempts_cleared]
  cases t.label <;> exact Iff.rfl

/-- Over a run: no trigger ever runs twice, or is started twice by one callback, exactly
if every callback finds room for the attempts that it is about to make. -/
theorem single_run_iff (uvSpawn : Script → ℕ → Bool) (args : Arguments) (enforced : Bool)
    {ts : List (Transition Satellite Input)}
    (run : Run (Step uvSpawn) (Satellite.new args enforced) ts sat) :
    (∀ t ∈ ts, Single t) ↔ ∀ t ∈ ts, Spare uvSpawn t := by
  refine forall₂_congr fun t mem => ?_
  cases enforced with
  | false =>
    obtain ⟨⟨_, early⟩, step⟩ := run.transition mem
    exact single_iff (run_steady early) step
  | true =>
    have mem' : clearedTransition t ∈ ts.map clearedTransition := List.mem_map_of_mem mem
    obtain ⟨⟨_, early⟩, step⟩ := (run_shadowed run).2.transition mem'
    rw [← single_cleared, ← spare_cleared]
    exact single_iff (run_steady early) step

def warmTwice : List Input := [.event (.thmSignal .ok), .event (.thmSignal .ok)]

theorem single_run_iff_warm :
    ∃ ts sat, Run (Step fun _ _ => true) (Satellite.new {} false) ts sat ∧
      ts.map Transition.label = warmTwice ∧
      ((∀ t ∈ ts, Single t) ↔ ∀ t ∈ ts, Spare (fun _ _ => true) t) := by
  obtain ⟨ts, sat, run, labels, _⟩ := exists_run (fun _ _ => true) 4 (Satellite.new {} false)
    warmTwice (fun _ => true) (by decide +kernel)
  exact ⟨ts, sat, run, labels, single_run_iff _ _ _ run⟩

def detumblesTwice : List (Transition Satellite Input) → Bool
  | [_, t] => processes .triggerDetumbling t.target.running = 2
  | _ => false

/-- The second report starts `trigger_detumbling.sh` while the first one is still running. -/
theorem detumbling_runs_twice :
    ¬ ∀ (uvSpawn : Script → ℕ → Bool) (args : Arguments) (enforced : Bool)
      (ts : List (Transition Satellite Input)) (sat : Satellite),
      Run (Step uvSpawn) (Satellite.new args enforced) ts sat → ∀ t ∈ ts, Single t := by
  intro claim
  obtain ⟨ts, sat, run, labels, test⟩ :=
    exists_trace (step_of_next (fun _ _ => true) 4) (Satellite.new {} false)
      warmTwice detumblesTwice (by decide +kernel)
  have single := claim _ _ _ ts sat run
  obtain ⟨t₀, rest, rfl, _, labels⟩ := List.map_eq_cons_iff.mp labels
  obtain ⟨t, rest, rfl, _, labels⟩ := List.map_eq_cons_iff.mp labels
  obtain rfl := List.map_eq_nil_iff.mp labels
  have twice : processes .triggerDetumbling t.target.running = 2 := of_decide_eq_true test
  have once := (single t (by simp)).running .triggerDetumbling rfl
  rw [twice] at once
  omega

end Satellite

end Horst
