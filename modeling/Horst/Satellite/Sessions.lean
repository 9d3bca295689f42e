import Horst.Satellite.Modes

/-!
Manualmode sessions: each is entered by a request, and its `enter_manualmode.sh` asks
for the end of manualmode once its sleep is over, in the same words as an operator.
-/

set_option autoImplicit false
set_option relaxedAutoImplicit false

namespace Horst

open Foundation

/-- A callback, or the one call of `setManualmode FALSE` that a running
`enter_manualmode.sh` makes after its sleep. -/
inductive Call
  | loop (input : Input)
  | timer (child : Child)
  deriving DecidableEq, Repr

def Call.input : Call → Input
  | .loop input => input
  | .timer _ => .event (.manualModeReq false)

def Call.wanted? : Call → Option Bool
  | .loop (.event (.manualModeReq wanted)) => some wanted
  | .loop _ => none
  | .timer _ => some false

/-- The satellite and the scripts that have made their call. -/
structure Sessions where
  sat : Satellite
  called : List Child
  deriving DecidableEq, Repr

namespace Sessions

def new (args : Arguments) (enforced : Bool) : Sessions := ⟨Satellite.new args enforced, []⟩

/-- A script that is running and has not called yet can do so. -/
def Allowed (s : Sessions) : Call → Prop
  | .loop _ => True
  | .timer child => child ∈ s.sat.running ∧ child.action = .enterManualMode ∧ child ∉ s.called

instance (s : Sessions) (call : Call) : Decidable (s.Allowed call) :=
  match call with
  | .loop _ => inferInstanceAs (Decidable True)
  | .timer child => inferInstanceAs
      (Decidable (child ∈ s.sat.running ∧ child.action = .enterManualMode ∧ child ∉ s.called))

/-- The sessions after a call that the satellite has served. -/
def served (s : Sessions) (call : Call) (sat : Satellite) : Sessions :=
  match call with
  | .loop _ => ⟨sat, s.called⟩
  | .timer child => ⟨sat, child :: s.called⟩

def Step (uvSpawn : Script → ℕ → Bool) (s : Sessions) (call : Call) (s' : Sessions) : Prop :=
  s.Allowed call ∧ s.sat.Step uvSpawn call.input s'.sat ∧ s' = s.served call s'.sat

/-- A session is entered: by a request for it, out of manualmode. -/
def Enters (t : Transition Sessions Call) : Prop :=
  t.source.sat.currentState.manualmode = false ∧ t.target.sat.currentState.manualmode = true

def Ends (t : Transition Sessions Call) : Prop :=
  t.source.sat.currentState.manualmode = true ∧ t.target.sat.currentState.manualmode = false

def Starts (child : Child) (t : Transition Sessions Call) : Prop :=
  child.action = .enterManualMode ∧ child ∈ t.target.sat.running ∧
    child ∉ t.source.sat.running

def requests (ts : List (Transition Sessions Call)) : List Bool :=
  ts.filterMap fun t => t.label.wanted?

/-- The call of a session's script ends no session that was entered after its own. -/
def OwnTimer (ts : List (Transition Sessions Call)) : Prop :=
  ∀ xs t₀ between t ys child, ts = xs ++ t₀ :: (between ++ t :: ys) → Starts child t₀ →
    t.label = .timer child → (∃ u ∈ between, Enters u) → ¬ Ends t

/-- Whenever the call of a session's script comes, either no request FALSE came since
the session was entered, or the last request that came was FALSE. -/
def Unrenewed (ts : List (Transition Sessions Call)) : Prop :=
  ∀ xs t₀ between t ys child, ts = xs ++ t₀ :: (between ++ t :: ys) → Starts child t₀ →
    t.label = .timer child → false ∈ requests between → (requests between).getLast? = some false

variable {uvSpawn : Script → ℕ → Bool} {s s' : Sessions} {ts : List (Transition Sessions Call)}

private theorem requests_snoc
    (ts : List (Transition Sessions Call)) (t : Transition Sessions Call) :
    requests (ts ++ [t]) = requests ts ++ t.label.wanted?.toList := by
  unfold requests
  rw [List.filterMap_append]
  cases h : t.label.wanted? <;> simp [h]

private theorem manualmode_step {call : Call} (h : Step uvSpawn s call s') :
    s'.sat.currentState.manualmode = call.wanted?.getD s.sat.currentState.manualmode := by
  have enabled := h.2.1.1
  have modes := (Satellite.answered h.2.1).manualmode
  rw [modes]
  cases call with
  | timer child => rfl
  | loop input =>
    cases input with
    | exited => rfl
    | event e =>
      cases e <;> first
        | rfl
        | cases enabled

private theorem manualmode_run {start : Sessions} (run : Run (Step uvSpawn) start ts s) :
    s.sat.currentState.manualmode =
      (requests ts).getLast?.getD start.sat.currentState.manualmode := by
  induction run with
  | nil => rfl
  | @snoc ts s s' call prior step ih =>
    rw [manualmode_step step, requests_snoc, ih]
    cases call.wanted? with
    | none =>
      rw [show (none : Option Bool).toList = [] from rfl, List.append_nil]
      rfl
    | some wanted =>
      rw [show (some wanted).toList = [wanted] from rfl, List.getLast?_append]
      rfl

private theorem enters_iff {start : Sessions} (run : Run (Step uvSpawn) start ts s)
    (before : start.sat.currentState.manualmode = true)
    (after : s.sat.currentState.manualmode = true) :
    (∃ u ∈ ts, Enters u) ↔ false ∈ requests ts := by
  constructor
  · rintro ⟨u, mem, off, _⟩
    obtain ⟨xs, ys, rfl⟩ := List.append_of_mem mem
    obtain ⟨m, first, rest⟩ := run.split
    have here := rest.cons_inv.1
    have last := manualmode_run first
    rw [← here, off, before] at last
    have asked : false ∈ requests xs := by
      cases h : (requests xs).getLast? with
      | none =>
        rw [h] at last
        cases last
      | some wanted =>
        rw [h] at last
        have same : false = wanted := last
        rw [same]
        exact List.mem_of_getLast? h
    unfold requests at asked ⊢
    rw [List.filterMap_append]
    exact List.mem_append_left _ asked
  · intro asked
    induction run with
    | nil => cases asked
    | @snoc ts s s' call prior step ih =>
      have turn := manualmode_step step
      cases still : s.sat.currentState.manualmode with
      | false =>
        exact ⟨_, List.mem_append_right _ List.mem_cons_self, still, after⟩
      | true =>
        have early : false ∈ requests ts := by
          rw [requests_snoc] at asked
          rcases List.mem_append.mp asked with early | last
          · exact early
          · cases wanted : call.wanted? with
            | none =>
              rw [wanted] at last
              cases last
            | some mode =>
              rw [wanted] at last turn
              obtain rfl := List.mem_singleton.mp last
              rw [after] at turn
              cases turn
        obtain ⟨u, mem, enters⟩ := ih still early
        exact ⟨u, List.mem_append_left _ mem, enters⟩

private theorem manualmode_starts {call : Call} (h : Step uvSpawn s call s') {child : Child}
    (starts : Starts child ⟨s, call, s'⟩) : s'.sat.currentState.manualmode = true := by
  obtain ⟨enter, mem, fresh⟩ := starts
  have modes := Satellite.answered h.2.1
  rcases modes.running child mem with old | reason
  · exact absurd old fresh
  · rw [enter] at reason
    rcases reason with settling | ⟨_, on, _⟩ | ⟨leave, _⟩ | leave | ⟨finish, _⟩
    · exact settling.elim
    · rw [modes.manualmode, on]
    · cases leave
    · cases leave
    · cases finish

/-- Over a run: no timer ends a session later than its own exactly if no timer's call
comes after a session was ended and another one entered by the requests in between. -/
theorem ownTimer_iff (uvSpawn : Script → ℕ → Bool) (args : Arguments) (enforced : Bool)
    (run : Run (Step uvSpawn) (Sessions.new args enforced) ts s) :
    OwnTimer ts ↔ Unrenewed ts := by
  have each : ∀ xs t₀ between t ys child, ts = xs ++ t₀ :: (between ++ t :: ys) →
      Starts child t₀ → t.label = .timer child →
      (((∃ u ∈ between, Enters u) → ¬ Ends t) ↔
        (false ∈ requests between → (requests between).getLast? = some false)) := by
    intro xs t₀ between t ys child split starts label
    have run' := run
    rw [split] at run'
    obtain ⟨_, _, first⟩ := run'.split
    obtain ⟨_, step₀, rest⟩ := first.cons_inv
    obtain ⟨m, middle, last⟩ := rest.split
    obtain ⟨here, step, _⟩ := last.cons_inv
    have on : t₀.target.sat.currentState.manualmode = true := manualmode_starts step₀ starts
    have off : t.target.sat.currentState.manualmode = false := by
      rw [manualmode_step step, label]
      rfl
    have still := manualmode_run middle
    rw [on, ← here] at still
    constructor
    · intro own asked
      cases final : (requests between).getLast? with
      | none =>
        rw [List.getLast?_eq_none_iff] at final
        rw [final] at asked
        cases asked
      | some wanted =>
        rw [final] at still
        cases wanted with
        | false => rfl
        | true =>
          have entered := (enters_iff middle on (by rw [← here]; exact still)).mpr asked
          exact absurd ⟨still, off⟩ (own entered)
    · intro unrenewed entered ends
      have asked := (enters_iff middle on (by rw [← here]; exact ends.1)).mp entered
      rw [unrenewed asked, ends.1] at still
      cases still
  constructor
  · intro own xs t₀ between t ys child split starts label
    exact (each xs t₀ between t ys child split starts label).mp
      (own xs t₀ between t ys child split starts label)
  · intro unrenewed xs t₀ between t ys child split starts label
    exact (each xs t₀ between t ys child split starts label).mpr
      (unrenewed xs t₀ between t ys child split starts label)

def next (uvSpawn : Script → ℕ → Bool) (n : ℕ) (s : Sessions) (call : Call) : Option Sessions :=
  if s.Allowed call then (s.sat.next uvSpawn n call.input).map (s.served call) else none

variable (uvSpawn) in
theorem step_of_next (n : ℕ) (s : Sessions) (call : Call) (s' : Sessions)
    (h : s.next uvSpawn n call = some s') : s.Step uvSpawn call s' := by
  unfold next at h
  split at h
  · rename_i allowed
    obtain ⟨sat, called, rfl⟩ := Option.map_eq_some_iff.mp h
    have step := Satellite.step_of_next _ _ _ _ _ called
    cases call <;> exact ⟨allowed, step, rfl⟩
  · cases h

/-- A session is entered and left, another one is entered, and the first script calls. -/
def renewed : List Call :=
  [.loop (.event (.manualModeReq true)), .loop (.event (.manualModeReq false)),
    .loop (.event (.manualModeReq true)), .timer ⟨0, .enterManualMode⟩]

theorem ownTimer_iff_renewed :
    ∃ ts s, Run (Step fun _ _ => true) (Sessions.new {} false) ts s ∧
      ts.map Transition.label = renewed ∧ (OwnTimer ts ↔ Unrenewed ts) := by
  obtain ⟨ts, s, run, labels, _⟩ :=
    exists_trace (step_of_next (fun _ _ => true) 4) (Sessions.new {} false)
      renewed (fun _ => true) (by decide +kernel)
  exact ⟨ts, s, run, labels, ownTimer_iff _ _ _ run⟩

/-- The script is started by the first call, and the fourth ends what the third has entered. -/
def endsRenewed : List (Transition Sessions Call) → Bool
  | [t₀, _, u, t] => (⟨0, .enterManualMode⟩ : Child) ∈ t₀.target.sat.running ∧
      (⟨0, .enterManualMode⟩ : Child) ∉ t₀.source.sat.running ∧
      u.source.sat.currentState.manualmode = false ∧
      u.target.sat.currentState.manualmode = true ∧
      t.source.sat.currentState.manualmode = true ∧
      t.target.sat.currentState.manualmode = false
  | _ => false

/-- The timer of a session that was left early ends the next one. -/
theorem old_timer_ends_session :
    ¬ ∀ (uvSpawn : Script → ℕ → Bool) (args : Arguments) (enforced : Bool)
      (ts : List (Transition Sessions Call)) (s : Sessions),
      Run (Step uvSpawn) (Sessions.new args enforced) ts s → OwnTimer ts := by
  intro claim
  obtain ⟨ts, s, run, labels, test⟩ :=
    exists_trace (step_of_next (fun _ _ => true) 4) (Sessions.new {} false)
      renewed endsRenewed (by decide +kernel)
  obtain ⟨t₀, rest, rfl, _, labels⟩ := List.map_eq_cons_iff.mp labels
  obtain ⟨left, rest, rfl, _, labels⟩ := List.map_eq_cons_iff.mp labels
  obtain ⟨u, rest, rfl, _, labels⟩ := List.map_eq_cons_iff.mp labels
  obtain ⟨t, rest, rfl, calls, labels⟩ := List.map_eq_cons_iff.mp labels
  obtain rfl := List.map_eq_nil_iff.mp labels
  obtain ⟨started, fresh, off, on, before, after⟩ := of_decide_eq_true test
  have own := claim _ _ _ _ s run [] t₀ [left, u] t [] ⟨0, .enterManualMode⟩ rfl
    ⟨rfl, started, fresh⟩ calls ⟨u, by simp, off, on⟩
  exact own ⟨before, after⟩

end Sessions

end Horst
