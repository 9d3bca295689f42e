import Mathlib.Data.List.Basic
import Mathlib.Data.List.Nodup

/-!
Switches on a hash. A parser that compares the hash of its input with the hashes of its
keywords, instead of the input with the keywords.
-/

set_option autoImplicit false
set_option relaxedAutoImplicit false

namespace Horst.Foundation

variable {α β η : Type*} [DecidableEq η] (hash : α → η)

/-- `switch (hash(x))` with a case for the hash of each keyword, and a default. -/
def switch (cases : List (α × β)) (default : β) (x : α) : β :=
  match cases.find? fun c => hash c.1 = hash x with
  | some c => c.2
  | none => default

/-- The compiler accepts the switch: no two of its labels are the same. -/
def Labels (cases : List (α × β)) : Prop := (cases.map fun c => hash c.1).Nodup

instance (cases : List (α × β)) : Decidable (Labels hash cases) :=
  inferInstanceAs (Decidable (List.Nodup _))

/-- The input has the hash of a keyword only if it is this keyword. -/
def Unmistaken (x keyword : α) : Prop := hash x = hash keyword → x = keyword

variable {hash} {cases : List (α × β)} {default : β} {x : α}

theorem find?_eq_some_of_labels (labels : Labels hash cases) {c : α × β} (mem : c ∈ cases)
    (same : hash c.1 = hash x) : (cases.find? fun c => hash c.1 = hash x) = some c := by
  induction cases with
  | nil => cases mem
  | cons d cases ih =>
    obtain ⟨fresh, rest⟩ := List.nodup_cons.mp labels
    rcases List.mem_cons.mp mem with rfl | later
    · exact List.find?_cons_of_pos (decide_eq_true same)
    · have other : hash d.1 ≠ hash x := by
        intro eq
        apply fresh
        change hash d.1 ∈ _
        rw [eq, ← same]
        exact List.mem_map_of_mem (f := fun c : α × β => hash c.1) later
      rw [List.find?_cons_of_neg (by simpa using other)]
      exact ih rest later

theorem switch_of_mem (labels : Labels hash cases) (default : β) {c : α × β} (mem : c ∈ cases)
    (same : hash c.1 = hash x) : switch hash cases default x = c.2 := by
  rw [switch, find?_eq_some_of_labels labels mem same]

variable (hash cases default x) in
/-- The switch takes its default, or the case of a keyword with the same hash. -/
theorem switch_cases : switch hash cases default x = default ∨
    ∃ c ∈ cases, hash c.1 = hash x ∧ switch hash cases default x = c.2 := by
  unfold switch
  cases found : cases.find? fun c => hash c.1 = hash x with
  | none => exact Or.inl rfl
  | some c =>
    have same : decide (hash c.1 = hash x) = true :=
      List.find?_some (p := fun c : α × β => decide (hash c.1 = hash x)) found
    exact Or.inr ⟨c, List.mem_of_find?_eq_some found, of_decide_eq_true same, rfl⟩

/-- Values other than the default are each read from their own name alone, exactly if no
other input has the hash of one of these names. -/
theorem switch_exact_iff {ι : Type*} (value : ι → β) (name : ι → α) (labels : Labels hash cases)
    (default : β) (other : ∀ i, value i ≠ default) (listed : ∀ i, (name i, value i) ∈ cases)
    (only : ∀ c ∈ cases, ∀ i, c.2 = value i → c.1 = name i) (x : α) :
    (∀ i, switch hash cases default x = value i ↔ x = name i) ↔
      ∀ i, Unmistaken hash x (name i) := by
  constructor
  · intro exact i same
    exact (exact i).mp (switch_of_mem labels default (listed i) same.symm)
  · intro apart i
    constructor
    · intro reached
      rcases switch_cases hash cases default x with fallen | ⟨c, mem, same, taken⟩
      · exact absurd (reached.symm.trans fallen) (other i)
      · have named : c.1 = name i := only c mem i (taken.symm.trans reached)
        rw [named] at same
        exact apart i same.symm
    · rintro rfl
      exact switch_of_mem labels default (listed i) rfl

theorem switch_eq_default {ι : Type*} {value : ι → β} {name : ι → α}
    (values : ∀ c ∈ cases, ∃ i, c.2 = value i)
    (exact : ∀ i, switch hash cases default x = value i ↔ x = name i) (none : ∀ i, x ≠ name i) :
    switch hash cases default x = default := by
  rcases switch_cases hash cases default x with fallen | ⟨c, mem, _, taken⟩
  · exact fallen
  · obtain ⟨i, same⟩ := values c mem
    exact absurd ((exact i).mp (taken.trans same)) (none i)

theorem switch_names_iff (name : β → α) (labels : Labels hash cases) (default : β)
    (listed : ∀ v, v ≠ default → (name v, v) ∈ cases) (only : ∀ c ∈ cases, c.1 = name c.2)
    (x : α) :
    (∀ v, v ≠ default → (switch hash cases default x = v ↔ x = name v)) ↔
      ∀ v, v ≠ default → Unmistaken hash x (name v) := by
  have exact := switch_exact_iff (fun v : { v // v ≠ default } => v.1) (fun v => name v.1) labels
    default (fun v => v.2) (fun v => listed v.1 v.2)
    (fun c mem v same => (only c mem).trans (congrArg name same)) x
  simpa only [Subtype.forall] using exact

end Horst.Foundation
