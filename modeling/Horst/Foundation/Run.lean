import Mathlib.Algebra.Ring.Nat
import Mathlib.Data.List.Basic
import Mathlib.Data.List.Induction

/-!
Finite runs of a labelled step relation, with every transition they took.
-/

set_option autoImplicit false
set_option relaxedAutoImplicit false

namespace Horst.Foundation

variable {σ ι : Type*}

/-- One transition of a run: the state before, the label, the state after. -/
structure Transition (σ ι : Type*) where
  source : σ
  label : ι
  target : σ

/-- A run from `init`, its transitions in the order they were taken, and where it ends. -/
inductive Run (step : σ → ι → σ → Prop) (init : σ) : List (Transition σ ι) → σ → Prop
  | nil : Run step init [] init
  | snoc {ts : List (Transition σ ι)} {s s' : σ} {l : ι} :
      Run step init ts s → step s l s' → Run step init (ts ++ [⟨s, l, s'⟩]) s'

def Reachable (step : σ → ι → σ → Prop) (init s : σ) : Prop := ∃ ts, Run step init ts s

variable {step : σ → ι → σ → Prop} {init s : σ} {ts : List (Transition σ ι)}

theorem reachable_refl : Reachable step s s := ⟨[], .nil⟩

theorem Run.reachable (run : Run step init ts s) : Reachable step init s := ⟨ts, run⟩

/-- An invariant that holds at the start and is kept by every step holds where a run ends. -/
theorem Run.invariant {I : σ → Prop} (start : I init)
    (kept : ∀ s l s', I s → step s l s' → I s') (run : Run step init ts s) : I s := by
  induction run with
  | nil => exact start
  | snoc _ hs ih => exact kept _ _ _ ih hs

theorem Reachable.invariant {I : σ → Prop} (start : I init)
    (kept : ∀ s l s', I s → step s l s' → I s') (h : Reachable step init s) : I s := by
  obtain ⟨ts, run⟩ := h
  exact run.invariant start kept

theorem Run.imp {step' : σ → ι → σ → Prop} (sound : ∀ s l s', step s l s' → step' s l s')
    (run : Run step init ts s) : Run step' init ts s := by
  induction run with
  | nil => exact .nil
  | snoc _ hs ih => exact ih.snoc (sound _ _ _ hs)

theorem Run.transition (run : Run step init ts s) {t : Transition σ ι} (mem : t ∈ ts) :
    Reachable step init t.source ∧ step t.source t.label t.target := by
  induction run with
  | nil => simp at mem
  | snoc prior hs ih =>
    rcases List.mem_append.mp mem with earlier | last
    · exact ih earlier
    · obtain rfl := List.mem_singleton.mp last
      exact ⟨prior.reachable, hs⟩

theorem Run.split {xs ys : List (Transition σ ι)} (run : Run step init (xs ++ ys) s) :
    ∃ m, Run step init xs m ∧ Run step m ys s := by
  induction ys using List.reverseRecOn generalizing s with
  | nil =>
    rw [List.append_nil] at run
    exact ⟨s, run, .nil⟩
  | append_singleton ys t ih =>
    rw [← List.append_assoc] at run
    generalize whole : xs ++ ys ++ [t] = ts at run
    cases run with
    | nil =>
      have length : (xs ++ ys ++ [t]).length = ([] : List (Transition σ ι)).length := by rw [whole]
      simp at length
    | snoc prior hs =>
      obtain ⟨rfl, same⟩ := List.append_inj' whole rfl
      obtain rfl := List.singleton_inj.mp same
      obtain ⟨m, first, second⟩ := ih prior
      exact ⟨m, first, second.snoc hs⟩

theorem Run.nil_inv (run : Run step init [] s) : s = init := by
  generalize empty : ([] : List (Transition σ ι)) = ts at run
  cases run with
  | nil => rfl
  | snoc _ _ => simp at empty

theorem Run.cons_inv {t : Transition σ ι} (run : Run step init (t :: ts) s) :
    t.source = init ∧ step t.source t.label t.target ∧ Run step t.target ts s := by
  have front : Run step init ([t] ++ ts) s := run
  obtain ⟨m, first, rest⟩ := front.split
  generalize single : [t] = us at first
  cases first with
  | nil => cases single
  | snoc prior hs =>
    rw [← List.nil_append [t]] at single
    obtain ⟨rfl, same⟩ := List.append_inj' single rfl
    obtain rfl := List.singleton_inj.mp same
    have start := prior.nil_inv
    exact ⟨start, hs, rest⟩

theorem Run.unique (det : ∀ s l s₁ s₂, step s l s₁ → step s l s₂ → s₁ = s₂)
    {ts' : List (Transition σ ι)} {s' : σ} (run : Run step init ts s) (run' : Run step init ts' s')
    (labels : ts.map Transition.label = ts'.map Transition.label) : ts = ts' ∧ s = s' := by
  induction run generalizing ts' s' with
  | nil =>
    have empty : ts' = [] := List.map_eq_nil_iff.mp labels.symm
    subst empty
    exact ⟨rfl, run'.nil_inv.symm⟩
  | snoc prior hs ih =>
    cases run' with
    | nil => simp at labels
    | snoc prior' hs' =>
      rw [List.map_append, List.map_append] at labels
      obtain ⟨early, last⟩ := List.append_inj' labels rfl
      obtain ⟨rfl, rfl⟩ := ih prior' early
      have label := List.singleton_inj.mp last
      subst label
      obtain rfl := det _ _ _ _ hs hs'
      exact ⟨rfl, rfl⟩

/-- A property of the end state that every step adds a local share to is the
conjunction of these shares over the whole run. -/
theorem Run.accumulates {Good : σ → Prop} {Share : Transition σ ι → Prop} {I : σ → Prop}
    (start : I init) (kept : ∀ s l s', I s → step s l s' → I s') (good : Good init)
    (share : ∀ s l s', I s → step s l s' → (Good s' ↔ Good s ∧ Share ⟨s, l, s'⟩))
    (run : Run step init ts s) : Good s ↔ ∀ t ∈ ts, Share t := by
  induction run with
  | nil => simp [good]
  | snoc prior hs ih =>
    rw [share _ _ _ (prior.invariant start kept) hs, ih]
    simp [or_imp, forall_and]

/-- A quantity from which every step takes its gain, and to which it adds no more than its
label costs. -/
theorem Run.charged {I : σ → Prop} (worth : σ → ℕ) (gain cost : ι → ℕ) (start : I init)
    (kept : ∀ s l s', I s → step s l s' → I s')
    (paid : ∀ s l s', I s → step s l s' → worth s' + gain l ≤ worth s + cost l)
    (run : Run step init ts s) :
    worth s + (ts.map fun t => gain t.label).sum ≤
      worth init + (ts.map fun t => cost t.label).sum := by
  induction run with
  | nil => exact Nat.le_refl _
  | snoc prior hs ih =>
    have last := paid _ _ _ (prior.invariant start kept) hs
    simp only [List.map_append, List.sum_append, List.map_cons, List.map_nil, List.sum_cons,
      List.sum_nil]
    omega

/-- A run can be narrowed to steps that end in a property of its end, if no step
of the program establishes that property anew. -/
theorem Run.guarded {P : σ → Prop} (back : ∀ s l s', step s l s' → P s' → P s)
    (run : Run step init ts s) (holds : P s) :
    Run (fun s l s' => step s l s' ∧ P s') init ts s := by
  induction run with
  | nil => exact .nil
  | snoc _ hs ih => exact (ih (back _ _ _ hs holds)).snoc ⟨hs, holds⟩

section Throughout

variable {P C : List (Transition σ ι) → Transition σ ι → Prop}

/-- A property of every transition, together with those that came before it. -/
def Throughout (P : List (Transition σ ι) → Transition σ ι → Prop)
    (ts : List (Transition σ ι)) : Prop :=
  ∀ xs t ys, ts = xs ++ t :: ys → P xs t

theorem throughout_nil : Throughout P [] := by
  intro xs t ys split
  have length : ([] : List (Transition σ ι)).length = (xs ++ t :: ys).length := by rw [split]
  simp at length

theorem throughout_snoc {t : Transition σ ι} :
    Throughout P (ts ++ [t]) ↔ Throughout P ts ∧ P ts t := by
  constructor
  · intro all
    constructor
    · intro xs u ys split
      apply all xs u (ys ++ [t])
      rw [split, List.append_assoc, List.cons_append]
    · exact all ts t [] rfl
  · rintro ⟨early, last⟩ xs u ys split
    rcases List.eq_nil_or_concat ys with rfl | ⟨zs, v, rfl⟩
    · obtain ⟨rfl, same⟩ := List.append_inj' split rfl
      obtain rfl := List.singleton_inj.mp same
      exact last
    · rw [List.concat_eq_append, ← List.cons_append, ← List.append_assoc] at split
      obtain ⟨prior, _⟩ := List.append_inj' split rfl
      exact early xs u zs prior

theorem throughout_forall {P : Transition σ ι → Prop} :
    Throughout (fun _ t => P t) ts ↔ ∀ t ∈ ts, P t := by
  constructor
  · intro all t mem
    obtain ⟨xs, ys, split⟩ := List.append_of_mem mem
    exact all xs t ys split
  · intro all xs t ys split
    exact all t (by rw [split]; exact List.mem_append_right xs List.mem_cons_self)

theorem Run.throughout_invariant {I : List (Transition σ ι) → σ → Prop} (start : I [] init)
    (kept : ∀ ts s l s', Run step init ts s → I ts s → step s l s' → C ts ⟨s, l, s'⟩ →
      I (ts ++ [⟨s, l, s'⟩]) s')
    (run : Run step init ts s) (all : Throughout C ts) : I ts s := by
  induction run with
  | nil => exact start
  | snoc prior hs ih =>
    obtain ⟨early, last⟩ := throughout_snoc.mp all
    exact kept _ _ _ _ prior (ih early) hs last

/-- If, where an invariant holds, a step has a property exactly under a condition that
keeps the invariant, then so it is with all the steps of a run. -/
theorem Run.throughout_iff {I : List (Transition σ ι) → σ → Prop} (start : I [] init)
    (kept : ∀ ts s l s', Run step init ts s → I ts s → step s l s' → C ts ⟨s, l, s'⟩ →
      I (ts ++ [⟨s, l, s'⟩]) s')
    (share : ∀ ts s l s', Run step init ts s → I ts s → step s l s' →
      (P ts ⟨s, l, s'⟩ ↔ C ts ⟨s, l, s'⟩))
    (run : Run step init ts s) : Throughout P ts ↔ Throughout C ts := by
  induction run with
  | nil => exact iff_of_true throughout_nil throughout_nil
  | snoc prior hs ih =>
    rw [throughout_snoc, throughout_snoc, ih]
    apply and_congr_right
    intro early
    exact share _ _ _ _ prior (prior.throughout_invariant start kept early) hs

/-- A step has its property exactly under a condition, and keeps the invariant under it. -/
structure Hinges (P C I : Prop) : Prop where
  share : P ↔ C
  keeps : C → I

theorem Hinges.of_holds {P C I : Prop} (property : P) (condition : C) (kept : I) :
    Hinges P C I where
  share := iff_of_true property condition
  keeps _ := kept

theorem Run.forall_iff {P C : Transition σ ι → Prop} {I : σ → Prop} (start : I init)
    (hinges : ∀ s l s', I s → step s l s' → Hinges (P ⟨s, l, s'⟩) (C ⟨s, l, s'⟩) (I s'))
    (run : Run step init ts s) : (∀ t ∈ ts, P t) ↔ ∀ t ∈ ts, C t := by
  rw [← throughout_forall, ← throughout_forall]
  refine run.throughout_iff (I := fun _ s => I s) start ?_ ?_
  · intro _ s l s' _ holds hs condition
    exact (hinges s l s' holds hs).keeps condition
  · intro _ s l s' _ holds hs
    exact (hinges s l s' holds hs).share

end Throughout

section Deterministic

variable {next : σ → ι → Option σ}

/-- Take one deterministic step for each input, as far as every step has a result. -/
def follow (next : σ → ι → Option σ) : List ι → σ → Option σ
  | [], s => some s
  | input :: inputs, s => (next s input).bind (follow next inputs)

/-- A condition on the state before each step and its input, along the whole way. -/
def AllAlong (next : σ → ι → Option σ) (P : σ → ι → Prop) : List ι → σ → Prop
  | [], _ => True
  | input :: inputs, s => P s input ∧ ∀ s', next s input = some s' → AllAlong next P inputs s'

theorem AllAlong.iff {P Q R : σ → ι → Prop} (share : ∀ s input, R s input → (P s input ↔ Q s input))
    {inputs : List ι} {s : σ} (all : AllAlong next R inputs s) :
    AllAlong next P inputs s ↔ AllAlong next Q inputs s := by
  induction inputs generalizing s with
  | nil => exact Iff.rfl
  | cons input inputs ih =>
    obtain ⟨now, later⟩ := all
    apply and_congr (share s input now)
    exact forall_congr' fun s' => forall_congr' fun step => ih (later s' step)

theorem follow_append (inputs inputs' : List ι) (s : σ) :
    follow next (inputs ++ inputs') s = (follow next inputs s).bind (follow next inputs') := by
  induction inputs generalizing s with
  | nil => rfl
  | cons input inputs ih =>
    rw [List.cons_append, follow, follow, Option.bind_assoc]
    exact Option.bind_congr fun s' _ => ih s'

theorem follow_invariant {P : σ → Prop} (kept : ∀ s input s', next s input = some s' → P s → P s')
    {inputs : List ι} {s s' : σ} (h : follow next inputs s = some s') (start : P s) : P s' := by
  induction inputs generalizing s with
  | nil =>
    obtain rfl := Option.some.inj h
    exact start
  | cons input inputs ih =>
    obtain ⟨s₁, first, rest⟩ := Option.bind_eq_some_iff.mp h
    exact ih rest (kept s input s₁ first start)

/-- If a step has a result exactly under a condition, then a list of inputs can be
followed exactly when the condition is met all along. -/
theorem follow_isSome_iff {P : σ → ι → Prop} (step_iff : ∀ s input, (next s input).isSome ↔ P s input)
    (inputs : List ι) (s : σ) : (follow next inputs s).isSome ↔ AllAlong next P inputs s := by
  induction inputs generalizing s with
  | nil => simp [follow, AllAlong]
  | cons input inputs ih =>
    rw [follow, AllAlong, ← step_iff]
    cases next s input with
    | none => simp
    | some s₁ => simpa using ih s₁

theorem Run.of_follow {inputs : List ι} {s s' : σ} {ts : List (Transition σ ι)}
    (run : Run (fun s input s' => next s input = some s') init ts s)
    (h : follow next inputs s = some s') :
    ∃ ts', Run (fun s input s' => next s input = some s') init (ts ++ ts') s' ∧
      ts'.map Transition.label = inputs := by
  induction inputs generalizing s ts with
  | nil =>
    obtain rfl := Option.some.inj h
    exact ⟨[], by rwa [List.append_nil], rfl⟩
  | cons input inputs ih =>
    obtain ⟨s₁, first, rest⟩ := Option.bind_eq_some_iff.mp h
    obtain ⟨ts', run', labels⟩ := ih (run.snoc first) rest
    refine ⟨⟨s, input, s₁⟩ :: ts', ?_, by rw [List.map_cons, labels]⟩
    rwa [List.append_assoc, List.singleton_append] at run'

def trace (next : σ → ι → Option σ) : List ι → σ → Option (List (Transition σ ι))
  | [], _ => some []
  | input :: inputs, s => (next s input).bind fun s' =>
      (trace next inputs s').map fun ts => ⟨s, input, s'⟩ :: ts

theorem Run.of_trace (sound : ∀ s l s', next s l = some s' → step s l s')
    (run : Run step init ts s) {inputs : List ι} {ts' : List (Transition σ ι)}
    (h : trace next inputs s = some ts') :
    ∃ s', Run step init (ts ++ ts') s' ∧ ts'.map Transition.label = inputs := by
  induction inputs generalizing s ts ts' with
  | nil =>
    obtain rfl := Option.some.inj h
    exact ⟨s, by rwa [List.append_nil], rfl⟩
  | cons input inputs ih =>
    obtain ⟨s₁, first, rest⟩ := Option.bind_eq_some_iff.mp h
    obtain ⟨ts₁, traced, rfl⟩ := Option.map_eq_some_iff.mp rest
    obtain ⟨s', run', labels⟩ := ih (run.snoc (sound s input s₁ first)) traced
    refine ⟨s', ?_, by rw [List.map_cons, labels]⟩
    rwa [List.append_assoc, List.singleton_append] at run'

theorem exists_trace (sound : ∀ s l s', next s l = some s' → step s l s') (start : σ)
    (inputs : List ι) (test : List (Transition σ ι) → Bool)
    (h : (trace next inputs start).any test = true) :
    ∃ ts s, Run step start ts s ∧ ts.map Transition.label = inputs ∧ test ts = true := by
  obtain ⟨ts, traced, passes⟩ := (Option.any_eq_true _ _).mp h
  obtain ⟨s, run, labels⟩ := Run.of_trace sound .nil traced
  exact ⟨ts, s, run, labels, passes⟩

theorem exists_run_to (sound : ∀ s l s', next s l = some s' → step s l s') (start : σ)
    (inputs : List ι) (test : σ → Bool) (h : (follow next inputs start).any test = true) :
    ∃ ts s, Run step start ts s ∧ ts.map Transition.label = inputs ∧ test s = true := by
  obtain ⟨s, follows, passes⟩ := (Option.any_eq_true _ _).mp h
  obtain ⟨ts, run, labels⟩ := Run.of_follow .nil follows
  exact ⟨ts, s, run.imp sound, labels, passes⟩

end Deterministic

end Horst.Foundation
