import Horst.Foundation.Run

/-!
Refinement by an abstraction function. Either the abstract machine is a function that answers
an input with a new state and with what it puts out, or it takes any number of steps of its
own for a step of the other.
-/

set_option autoImplicit false
set_option relaxedAutoImplicit false

namespace Horst.Foundation

variable {σ ι α κ ω : Type*}

/-- The answers to a list of inputs, one after the other, and all that was put out. -/
def transduce (next : α → κ → Option (α × List ω)) : List κ → α → Option (α × List ω)
  | [], a => some (a, [])
  | k :: ks, a =>
      (next a k).bind fun answer =>
        (transduce next ks answer.1).map fun rest => (rest.1, answer.2 ++ rest.2)

variable {next : α → κ → Option (α × List ω)} {a a' : α} {os : List ω} {ks : List κ}

theorem transduce_snoc_iff {k : κ} :
    transduce next (ks ++ [k]) a = some (a', os) ↔
      ∃ b before after, transduce next ks a = some (b, before) ∧ next b k = some (a', after) ∧
        os = before ++ after := by
  induction ks generalizing a os with
  | nil =>
    constructor
    · intro h
      obtain ⟨⟨b, out⟩, first, last⟩ := Option.bind_eq_some_iff.mp h
      obtain ⟨rfl, same⟩ := Prod.mk.inj (Option.some.inj last)
      refine ⟨a, [], out, rfl, first, ?_⟩
      rw [← same]
      exact List.append_nil out
    · rintro ⟨b, before, after, first, last, rfl⟩
      obtain ⟨rfl, rfl⟩ := Prod.mk.inj (Option.some.inj first)
      rw [List.nil_append, transduce, last]
      simp [transduce]
  | cons l ks ih =>
    rw [List.cons_append]
    simp only [transduce]
    constructor
    · intro h
      obtain ⟨⟨b, out⟩, first, rest⟩ := Option.bind_eq_some_iff.mp h
      obtain ⟨⟨c, outs⟩, later, same⟩ := Option.map_eq_some_iff.mp rest
      obtain ⟨rfl, rfl⟩ := Prod.mk.inj same
      obtain ⟨d, before, after, middle, last, rfl⟩ := ih.mp later
      refine ⟨d, out ++ before, after, ?_, last, (List.append_assoc _ _ _).symm⟩
      rw [first, Option.bind_some, middle]
      rfl
    · rintro ⟨d, before, after, early, last, rfl⟩
      obtain ⟨⟨b, out⟩, first, rest⟩ := Option.bind_eq_some_iff.mp early
      obtain ⟨⟨c, outs⟩, middle, same⟩ := Option.map_eq_some_iff.mp rest
      obtain ⟨rfl, rfl⟩ := Prod.mk.inj same
      have later : transduce next (ks ++ [k]) b = some (a', outs ++ after) :=
        ih.mpr ⟨c, outs, after, middle, last, rfl⟩
      rw [first, Option.bind_some, later, Option.map_some, List.append_assoc]

/-- A step relation under an invariant, seen through an abstraction of its states and labels
and through an output that grows. Each step is a step of the abstract machine, and an input
that the machine answers has a step. -/
structure Refines (step : σ → ι → σ → Prop) (next : α → κ → Option (α × List ω))
    (I : σ → Prop) (abs : σ → α) (label : ι → κ) (out : σ → List ω) : Prop where
  kept : ∀ s l s', I s → step s l s' → I s'
  forth : ∀ s l s', I s → step s l s' →
    ∃ os, next (abs s) (label l) = some (abs s', os) ∧ out s' = out s ++ os
  back : ∀ s k answer, I s → next (abs s) k = some answer → ∃ l s', label l = k ∧ step s l s'

namespace Refines

variable {step : σ → ι → σ → Prop} {I : σ → Prop} {abs : σ → α} {label : ι → κ}
  {out : σ → List ω} {init s : σ} {ts : List (Transition σ ι)}

theorem follows (refines : Refines step next I abs label out) (start : I init)
    (run : Run step init ts s) :
    ∃ os, transduce next (ts.map fun t => label t.label) (abs init) = some (abs s, os) ∧
      out s = out init ++ os := by
  induction run with
  | nil => exact ⟨[], rfl, (List.append_nil _).symm⟩
  | snoc prior hs ih =>
    obtain ⟨before, early, grown⟩ := ih
    have holds := prior.invariant start refines.kept
    obtain ⟨after, answers, grown'⟩ := refines.forth _ _ _ holds hs
    refine ⟨before ++ after, ?_, ?_⟩
    · rw [List.map_append]
      exact transduce_snoc_iff.mpr ⟨_, before, after, early, answers, rfl⟩
    · rw [grown', grown, List.append_assoc]

theorem realizes (refines : Refines step next I abs label out) (start : I init)
    (h : transduce next ks (abs init) = some (a, os)) :
    ∃ ts s, Run step init ts s ∧ (ts.map fun t => label t.label) = ks ∧ abs s = a ∧
      out s = out init ++ os := by
  induction ks using List.reverseRecOn generalizing a os with
  | nil =>
    obtain ⟨rfl, rfl⟩ := Prod.mk.inj (Option.some.inj h)
    exact ⟨[], init, .nil, rfl, rfl, (List.append_nil _).symm⟩
  | append_singleton ks k ih =>
    obtain ⟨b, before, after, early, answers, rfl⟩ := transduce_snoc_iff.mp h
    obtain ⟨ts, s, run, labels, rfl, grown⟩ := ih early
    have holds := run.invariant start refines.kept
    obtain ⟨l, s', rfl, hs⟩ := refines.back s k _ holds answers
    obtain ⟨after', answers', grown'⟩ := refines.forth s l s' holds hs
    obtain ⟨rfl, rfl⟩ := Prod.mk.inj (Option.some.inj (answers.symm.trans answers'))
    refine ⟨ts ++ [⟨s, l, s'⟩], s', run.snoc hs, ?_, rfl, ?_⟩
    · rw [List.map_append, labels]
      rfl
    · rw [grown', grown, List.append_assoc]

/-- The runs of the two levels are the same. -/
theorem runs_iff (refines : Refines step next I abs label out) (start : I init)
    (fresh : out init = []) :
    (∃ ts s, Run step init ts s ∧ (ts.map fun t => label t.label) = ks ∧ abs s = a ∧ out s = os) ↔
      transduce next ks (abs init) = some (a, os) := by
  constructor
  · rintro ⟨ts, s, run, rfl, rfl, rfl⟩
    obtain ⟨os, follows, grown⟩ := refines.follows start run
    rw [fresh, List.nil_append] at grown
    rw [grown]
    exact follows
  · intro h
    obtain ⟨ts, s, run, labels, same, grown⟩ := refines.realizes start h
    rw [fresh, List.nil_append] at grown
    exact ⟨ts, s, run, labels, same, grown⟩

end Refines

section Stuttering

variable {step : σ → ι → σ → Prop} {step' : α → κ → α → Prop} {I : σ → Prop} {abs : σ → α}
  {init s : σ} {ts : List (Transition σ ι)}

theorem Run.append {us : List (Transition σ ι)} {m : σ} (run : Run step init ts m)
    (rest : Run step m us s) : Run step init (ts ++ us) s := by
  induction rest with
  | nil => rwa [List.append_nil]
  | snoc _ hs ih =>
    rw [← List.append_assoc]
    exact ih.snoc hs

theorem Run.labelled {P : ι → Prop} (run : Run step init ts s) (labels : ∀ t ∈ ts, P t.label) :
    Run (fun s l s' => step s l s' ∧ P l) init ts s := by
  induction run with
  | nil => exact .nil
  | snoc _ hs ih =>
    have early := ih fun t mem => labels t (List.mem_append_left _ mem)
    exact early.snoc ⟨hs, labels _ (List.mem_append_right _ List.mem_cons_self)⟩

/-- Where every step is some abstract steps, a run is a run of the abstract machine, on the
inputs that the steps stand for. -/
theorem Run.implements (inputs : Transition σ ι → List κ) (start : I init)
    (kept : ∀ s l s', I s → step s l s' → I s')
    (forth : ∀ s l s', I s → step s l s' → ∃ us, Run step' (abs s) us (abs s') ∧
      us.map Transition.label = inputs ⟨s, l, s'⟩)
    (run : Run step init ts s) :
    ∃ us, Run step' (abs init) us (abs s) ∧ us.map Transition.label = ts.flatMap inputs := by
  induction run with
  | nil => exact ⟨[], .nil, rfl⟩
  | snoc prior hs ih =>
    obtain ⟨us, before, labels⟩ := ih
    obtain ⟨vs, here, labels'⟩ := forth _ _ _ (prior.invariant start kept) hs
    refine ⟨us ++ vs, before.append here, ?_⟩
    rw [List.map_append, labels, labels', List.flatMap_append]
    simp

theorem Reachable.lift (abs : σ → α) (start : I init)
    (back : ∀ s k a', I s → step' (abs s) k a' → ∃ s', Reachable step s s' ∧ abs s' = a' ∧ I s')
    {a : α} (reachable : Reachable step' (abs init) a) :
    ∃ s, Reachable step init s ∧ abs s = a ∧ I s := by
  obtain ⟨us, run⟩ := reachable
  induction run with
  | nil => exact ⟨init, reachable_refl, rfl, start⟩
  | snoc _ hs ih =>
    obtain ⟨s, ⟨ts, before⟩, rfl, holds⟩ := ih
    obtain ⟨s', ⟨ts', here⟩, same, holds'⟩ := back s _ _ holds hs
    exact ⟨s', ⟨ts ++ ts', before.append here⟩, same, holds'⟩

end Stuttering

end Horst.Foundation
