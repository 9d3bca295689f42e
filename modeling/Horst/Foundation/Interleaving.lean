import Mathlib.Data.List.Basic

/-!
Interleavings. Items come from several sources; two lists of them may differ in the
order of items from different sources, and keep the order within each source.
-/

set_option autoImplicit false
set_option relaxedAutoImplicit false

namespace Horst.Foundation

variable {α δ σ : Type*} [DecidableEq δ] {source : α → δ} {xs ys : List α}

def itemsOf (source : α → δ) (d : δ) (xs : List α) : List α := xs.filter fun a => source a = d

/-- An interleaving of the lists of all the sources. -/
def Interleaves (source : α → δ) (lists : δ → List α) (xs : List α) : Prop :=
  ∀ d, itemsOf source d xs = lists d

theorem mem_itemsOf {a : α} {d : δ} : a ∈ itemsOf source d xs ↔ a ∈ xs ∧ source a = d := by
  simp [itemsOf]

theorem itemsOf_append (d : δ) :
    itemsOf source d (xs ++ ys) = itemsOf source d xs ++ itemsOf source d ys :=
  List.filter_append xs ys

theorem itemsOf_cons_self (a : α) : itemsOf source (source a) (a :: xs) =
    a :: itemsOf source (source a) xs := by
  simp [itemsOf]

theorem itemsOf_cons_of_ne {a : α} {d : δ} (other : source a ≠ d) :
    itemsOf source d (a :: xs) = itemsOf source d xs := by
  simp [itemsOf, other]

theorem Interleaves.mem_iff {lists : δ → List α} (h : Interleaves source lists xs) {a : α} :
    a ∈ xs ↔ a ∈ lists (source a) := by
  rw [← h, mem_itemsOf]
  exact (and_iff_left rfl).symm

theorem foldl_move {step : σ → α → σ} {a : α}
    (comm : ∀ x ∈ xs, ∀ s, step (step s x) a = step (step s a) x) (s : σ) :
    (xs ++ a :: ys).foldl step s = (a :: (xs ++ ys)).foldl step s := by
  induction xs generalizing s with
  | nil => rfl
  | cons x xs ih =>
    have here : step (step s x) a = step (step s a) x := comm x List.mem_cons_self s
    have rest := ih (fun y mem => comm y (List.mem_cons_of_mem x mem)) (step s x)
    rw [List.cons_append, List.foldl_cons, rest, List.foldl_cons, here]
    rfl

/-- Items of different sources that commute can be taken in any interleaving. -/
theorem foldl_interleaves {step : σ → α → σ} {lists : δ → List α}
    (comm : ∀ a ∈ xs, ∀ b ∈ xs, source a ≠ source b →
      ∀ s, step (step s a) b = step (step s b) a)
    (first : Interleaves source lists xs) (second : Interleaves source lists ys) (s : σ) :
    xs.foldl step s = ys.foldl step s := by
  induction xs generalizing ys lists s with
  | nil =>
    have empty : ys = [] := by
      refine List.eq_nil_iff_forall_not_mem.mpr fun a mem => ?_
      have listed := second.mem_iff.mp mem
      rw [← first] at listed
      cases listed
    rw [empty]
  | cons a xs ih =>
    have same (d : δ) : itemsOf source d (a :: xs) = itemsOf source d ys :=
      (first d).trans (second d).symm
    have own := same (source a)
    rw [itemsOf_cons_self] at own
    -- the first item of this source in the other list, with the items before it
    obtain ⟨us, vs, rfl, before, _, after⟩ := List.filter_eq_cons_iff.mp own.symm
    have before' : ∀ u ∈ us, source u ≠ source a := fun u mem => by simpa using before u mem
    have none : itemsOf source (source a) us = [] := by
      refine List.filter_eq_nil_iff.mpr fun u mem => ?_
      simpa using before' u mem
    have listed : ∀ u ∈ us, u ∈ a :: xs := by
      intro u mem
      have whole := second.mem_iff.mp (List.mem_append_left (a :: vs) mem)
      exact first.mem_iff.mpr whole
    have rest : ∀ d, itemsOf source d (us ++ vs) = itemsOf source d xs := by
      intro d
      by_cases eq : source a = d
      · subst eq
        rw [itemsOf_append, none, List.nil_append]
        exact after
      · have both := same d
        rw [itemsOf_cons_of_ne eq, itemsOf_append, itemsOf_cons_of_ne eq] at both
        rw [itemsOf_append, both]
    rw [foldl_move (fun u mem s => comm u (listed u mem) a List.mem_cons_self (before' u mem) s)]
    refine ih ?_ (fun _ => rfl) rest (step s a)
    intro b memb c memc
    exact comm b (List.mem_cons_of_mem a memb) c (List.mem_cons_of_mem a memc)

end Horst.Foundation
