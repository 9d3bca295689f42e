import Mathlib.Data.Nat.Find
import Mathlib.Order.Lattice.Nat
import Mathlib.Order.Basic

/-!
Streams of outcomes. The result of the `j`-th attempt at something outside the
program is `p j`; what matters to a program that retries is how many attempts
from a given one on will succeed.
-/

set_option autoImplicit false
set_option relaxedAutoImplicit false

namespace Horst.Foundation.Outcomes

/-- At least `c` of the attempts from the `k`-th on succeed. -/
def Supplies (p : ℕ → Bool) : ℕ → ℕ → Prop
  | 0, _ => True
  | c + 1, k => ∃ j, k ≤ j ∧ p j = true ∧ Supplies p c (j + 1)

def FirstSuccess (p : ℕ → Bool) (k m : ℕ) : Prop :=
  k ≤ m ∧ p m = true ∧ ∀ j, k ≤ j → j < m → p j = false

variable {p : ℕ → Bool}

theorem Supplies.of_le {c k k' : ℕ} (le : k ≤ k') (h : Supplies p c k') : Supplies p c k := by
  cases c with
  | zero => trivial
  | succ c =>
    obtain ⟨j, hj, success, rest⟩ := h
    exact ⟨j, le.trans hj, success, rest⟩

theorem Supplies.pred {c k : ℕ} (h : Supplies p (c + 1) k) : Supplies p c k := by
  obtain ⟨j, hj, _, rest⟩ := h
  exact rest.of_le (by omega)

theorem Supplies.of_count_le {c c' k : ℕ} (le : c ≤ c') (h : Supplies p c' k) :
    Supplies p c k := by
  induction c', le using Nat.le_induction with
  | base => exact h
  | succ c' _ ih => exact ih h.pred

theorem supplies_one_iff {k : ℕ} : Supplies p 1 k ↔ ∃ j, k ≤ j ∧ p j = true := by
  simp [Supplies]

theorem not_supplies_one_iff {k : ℕ} : ¬ Supplies p 1 k ↔ ∀ j, k ≤ j → p j = false := by
  simp [supplies_one_iff]

theorem FirstSuccess.supplies_iff {k m : ℕ} (first : FirstSuccess p k m) (c : ℕ) :
    Supplies p (c + 1) k ↔ Supplies p c (m + 1) := by
  obtain ⟨le, success, fails⟩ := first
  constructor
  · rintro ⟨j, hj, hs, rest⟩
    have : m ≤ j := by
      by_contra hlt
      simp [fails j hj (by omega)] at hs
    exact rest.of_le (by omega)
  · intro rest
    exact ⟨m, le, success, rest⟩

theorem firstSuccess_self {k : ℕ} (h : p k = true) : FirstSuccess p k k :=
  ⟨le_rfl, h, fun _ hj hlt => absurd hlt (by omega)⟩

theorem FirstSuccess.of_fail {k m : ℕ} (h : p k = false) (first : FirstSuccess p (k + 1) m) :
    FirstSuccess p k m := by
  obtain ⟨le, success, fails⟩ := first
  refine ⟨by omega, success, fun j hj hlt => ?_⟩
  by_cases heq : j = k
  · exact heq ▸ h
  · exact fails j (by omega) hlt

theorem supplies_of_fail {k : ℕ} (h : p k = false) (c : ℕ) :
    Supplies p (c + 1) k ↔ Supplies p (c + 1) (k + 1) := by
  constructor
  · rintro ⟨j, hj, hs, rest⟩
    have : j ≠ k := by
      rintro rfl
      simp [h] at hs
    exact ⟨j, by omega, hs, rest⟩
  · exact Supplies.of_le (by omega)

theorem exists_firstSuccess {k : ℕ} (h : Supplies p 1 k) : ∃ m, FirstSuccess p k m := by
  classical
  have ex := supplies_one_iff.mp h
  refine ⟨Nat.find ex, (Nat.find_spec ex).1, (Nat.find_spec ex).2, fun j hj hlt => ?_⟩
  have := Nat.find_min ex hlt
  simpa [hj] using this

theorem supplies_of_forall (h : ∀ j, p j = true) (c k : ℕ) : Supplies p c k := by
  induction c generalizing k with
  | zero => trivial
  | succ c ih => exact ⟨k, le_rfl, h k, ih (k + 1)⟩

/-- The number of attempts from the `k`-th on that fail before the first one that succeeds. -/
noncomputable def failures (p : ℕ → Bool) (k : ℕ) : ℕ := sInf {j | p (k + j) = true}

theorem FirstSuccess.add_failures {k m : ℕ} (first : FirstSuccess p k m) : k + failures p k = m := by
  obtain ⟨le, success, fails⟩ := first
  have reached : p (k + (m - k)) = true := by
    rw [Nat.add_sub_cancel' le]
    exact success
  have least : failures p k ≤ m - k := Nat.sInf_le reached
  have some : {j | p (k + j) = true}.Nonempty := ⟨m - k, reached⟩
  have hit : p (k + failures p k) = true := Nat.sInf_mem some
  by_contra other
  have failed := fails (k + failures p k) (by omega) (by omega)
  rw [failed] at hit
  cases hit

theorem failures_of_success {k : ℕ} (h : p k = true) : failures p k = 0 := by
  have first := (firstSuccess_self h).add_failures
  omega

theorem FirstSuccess.failures_of_fail {k m : ℕ} (h : p k = false)
    (first : FirstSuccess p (k + 1) m) : failures p k = failures p (k + 1) + 1 := by
  have later := first.add_failures
  have whole := (first.of_fail h).add_failures
  omega

end Horst.Foundation.Outcomes
