import Horst.Satellite.Modes

/-!
What a script that fails leaves in the state: the field that its action claimed
before the script was run.
-/

set_option autoImplicit false
set_option relaxedAutoImplicit false

namespace Horst

open Foundation

/-- The fields that `EnterManualMode` and `FinishLEOP` set before they run their script. -/
inductive Field
  | manualmode | leop
  deriving DecidableEq, Repr

def Field.Agree (f : Field) (s s' : State) : Prop :=
  match f with
  | .manualmode => s.manualmode = s'.manualmode
  | .leop => s.leop = s'.leop

private theorem Field.agree_refl (f : Field) (s : State) : f.Agree s s := by
  cases f <;> rfl

theorem Field.Agree.trans {f : Field} {s s₁ s₂ : State} (first : f.Agree s s₁)
    (second : f.Agree s₁ s₂) : f.Agree s s₂ := by
  cases f <;> exact Eq.trans first second

theorem Field.Agree.symm {f : Field} {s s₁ : State} (h : f.Agree s s₁) : f.Agree s₁ s := by
  cases f <;> exact Eq.symm h

def Action.field? : Action → Option Field
  | .enterManualMode => some .manualmode
  | .finishLEOP => some .leop
  | .shellCommand _ _ | .leaveManualMode | .enterSafeMode _ | .leaveSafeMode | .triggerMeasuring
  | .triggerDetumbling | .triggerSunpointing => none

/-- The field that a callback brings a request for. -/
def Input.requests : Input → Option Field
  | .event (.manualModeReq _) => some .manualmode
  | .event (.leopReq _) => some .leop
  | _ => none

instance (f : Field) (s s' : State) : Decidable (f.Agree s s') :=
  match f with
  | .manualmode => inferInstanceAs (Decidable (_ = _))
  | .leop => inferInstanceAs (Decidable (_ = _))

namespace Satellite

/-- A script of an action that claims the field could not be started in this callback. -/
def FailsToStart (f : Field) (t : Transition Satellite Input) : Prop :=
  ∃ l ∈ t.target.launches.drop t.source.launches.length,
    l.action.field? = some f ∧ l.spawned = false

/-- A script of an action that claims the field was started in the callback `t₀`, and
ends in failure in `t`, with no request for the field between the two. -/
structure FailsLater (f : Field) (t₀ : Transition Satellite Input)
    (between : List (Transition Satellite Input)) (t : Transition Satellite Input) : Prop where
  script : ∃ child ∈ t₀.target.running, child ∉ t₀.source.running ∧ child.action.field? = some f ∧
    ∃ exitStatus termSignal, t.label = .exited child exitStatus termSignal ∧
      (exitStatus ≠ 0 ∨ termSignal ≠ 0)
  unrequested : ∀ u ∈ between, u.label.requests ≠ some f

/-- A script that fails leaves the field it claimed as it was before the action was performed. -/
structure Restores (ts : List (Transition Satellite Input)) : Prop where
  atOnce : ∀ f, ∀ t ∈ ts, FailsToStart f t → f.Agree t.source.currentState t.target.currentState
  later : ∀ f xs t₀ between t ys, ts = xs ++ t₀ :: (between ++ t :: ys) →
    FailsLater f t₀ between t → f.Agree t₀.source.currentState t.target.currentState

variable {uvSpawn : Script → ℕ → Bool} {sat sat' : Satellite}

private theorem claimed {input : Input} (h : Answered sat input sat') {a : Action} {f : Field}
    (field : a.field? = some f) (starts : input.Starts sat.currentState a) :
    ¬ f.Agree sat.currentState sat'.currentState := by
  intro agree
  rcases starts with settling | ⟨rfl, on, off⟩ | ⟨rfl, _⟩ | rfl | ⟨rfl, done, open_⟩
  · cases a <;> first
      | exact settling
      | cases field
  · obtain rfl := Option.some.inj field
    have same : sat.currentState.manualmode = sat'.currentState.manualmode := agree
    rw [h.manualmode, on, off] at same
    cases same
  · cases field
  · cases field
  · obtain rfl := Option.some.inj field
    have same : sat.currentState.leop = sat'.currentState.leop := agree
    rw [h.leop, done] at same
    exact open_ same

private theorem unrequested {input : Input} (h : Step uvSpawn sat input sat') {f : Field}
    (none : input.requests ≠ some f) : f.Agree sat.currentState sat'.currentState := by
  have enabled := h.1
  have modes := answered h
  cases f with
  | manualmode =>
    change sat.currentState.manualmode = sat'.currentState.manualmode
    rw [modes.manualmode]
    cases input with
    | exited => rfl
    | event e =>
      cases e <;> first
        | rfl
        | exact absurd rfl none
        | cases enabled
  | leop =>
    change sat.currentState.leop = sat'.currentState.leop
    rw [modes.leop]
    cases input with
    | exited => rfl
    | event e =>
      cases e <;> first
        | rfl
        | exact absurd rfl none
        | cases enabled

private theorem run_unrequested {start : Satellite} {ts : List (Transition Satellite Input)}
    (run : Run (Step uvSpawn) start ts sat) {f : Field}
    (none : ∀ t ∈ ts, t.label.requests ≠ some f) : f.Agree start.currentState sat.currentState := by
  induction run with
  | nil => exact f.agree_refl _
  | snoc prior step ih =>
    have early := ih fun t mem => none t (List.mem_append_left _ mem)
    have last := none _ (List.mem_append_right _ List.mem_cons_self)
    exact early.trans (unrequested step last)

/-- In no run does a script that fails give the field back that its action claimed. -/
theorem never_restores (uvSpawn : Script → ℕ → Bool) (args : Arguments) (enforced : Bool)
    {ts : List (Transition Satellite Input)}
    (run : Run (Step uvSpawn) (Satellite.new args enforced) ts sat) (f : Field) :
    (∀ t ∈ ts, FailsToStart f t → ¬ f.Agree t.source.currentState t.target.currentState) ∧
      ∀ xs t₀ between t ys, ts = xs ++ t₀ :: (between ++ t :: ys) → FailsLater f t₀ between t →
        ¬ f.Agree t₀.source.currentState t.target.currentState := by
  constructor
  · intro t mem fails
    obtain ⟨_, step⟩ := run.transition mem
    have modes := answered step
    obtain ⟨l, new, field, _⟩ := fails
    obtain ⟨ls, append, starts⟩ := modes.launches
    rw [append, List.drop_left] at new
    exact claimed modes field (starts l new)
  · intro xs t₀ between t ys split fails agree
    rw [split] at run
    obtain ⟨_, _, first⟩ := run.split
    obtain ⟨_, step₀, rest⟩ := first.cons_inv
    obtain ⟨m, middle, last⟩ := rest.split
    obtain ⟨here, step, _⟩ := last.cons_inv
    obtain ⟨child, mem, fresh, field, exitStatus, termSignal, label, _⟩ := fails.script
    have modes := answered step₀
    have starts : t₀.label.Starts t₀.source.currentState child.action := by
      rcases modes.running child mem with old | starts
      · exact absurd old fresh
      · exact starts
    have kept : f.Agree t₀.target.currentState t.target.currentState := by
      have waiting := run_unrequested middle fails.unrequested
      have ending : f.Agree t.source.currentState t.target.currentState := by
        apply unrequested step
        rw [label]
        exact fun request => by cases request
      rw [← here] at waiting
      exact waiting.trans ending
    exact claimed modes field starts (agree.trans kept.symm)

theorem never_restores_leop :
    ∃ ts sat, Run (Step fun _ _ => true) (Satellite.new { leop := .deployed } false) ts sat ∧
      ts.map Transition.label = [.event (.leopReq .done), .exited ⟨0, .finishLEOP⟩ 1 0] ∧
      ((∀ t ∈ ts, FailsToStart .leop t →
          ¬ Field.leop.Agree t.source.currentState t.target.currentState) ∧
        ∀ xs t₀ between t ys, ts = xs ++ t₀ :: (between ++ t :: ys) →
          FailsLater .leop t₀ between t →
          ¬ Field.leop.Agree t₀.source.currentState t.target.currentState) := by
  obtain ⟨ts, sat, run, labels, _⟩ := exists_run (fun _ _ => true) 4
    (Satellite.new { leop := .deployed } false)
    [.event (.leopReq .done), .exited ⟨0, .finishLEOP⟩ 1 0] (fun _ => true) (by decide +kernel)
  exact ⟨ts, sat, run, labels, never_restores _ _ _ run .leop⟩

/-- In two callbacks `finish_leop.sh` is started, and the LEOP sequence changes for good. -/
def failsToFinish : List (Transition Satellite Input) → Bool
  | [t₀, t] => (⟨0, .finishLEOP⟩ : Child) ∈ t₀.target.running ∧
      (⟨0, .finishLEOP⟩ : Child) ∉ t₀.source.running ∧
      ¬ Field.leop.Agree t₀.source.currentState t.target.currentState
  | _ => false

/-- `finish_leop.sh` fails, and the LEOP sequence stays at DONE. -/
theorem failed_finish_stays :
    ¬ ∀ (uvSpawn : Script → ℕ → Bool) (args : Arguments) (enforced : Bool)
      (ts : List (Transition Satellite Input)) (sat : Satellite),
      Run (Step uvSpawn) (Satellite.new args enforced) ts sat → Restores ts := by
  intro claim
  obtain ⟨ts, sat, run, labels, test⟩ :=
    exists_trace (step_of_next (fun _ _ => true) 4) (Satellite.new { leop := .deployed } false)
      [.event (.leopReq .done), .exited ⟨0, .finishLEOP⟩ 1 0] failsToFinish (by decide +kernel)
  obtain ⟨t₀, rest, rfl, _, labels⟩ := List.map_eq_cons_iff.mp labels
  obtain ⟨t, rest, rfl, ended, labels⟩ := List.map_eq_cons_iff.mp labels
  obtain rfl := List.map_eq_nil_iff.mp labels
  obtain ⟨started, fresh, changed⟩ := of_decide_eq_true test
  have fails : FailsLater .leop t₀ [] t :=
    ⟨⟨_, started, fresh, rfl, 1, 0, ended, Or.inl (by decide)⟩, fun _ mem => by cases mem⟩
  exact changed ((claim _ _ _ _ sat run).later .leop [] t₀ [] t [] rfl fails)

end Satellite

end Horst
