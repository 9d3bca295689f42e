import Mathlib.Order.Filter.AtTopBot.Basic
import Horst.Foundation.Outcomes

/-!
Re-entrant handlers. A handler serves one request on a state and may call itself
while it does. Bounding the nesting depth gives a structurally recursive
approximation; a call returns when some depth is enough for it.
-/

set_option autoImplicit false
set_option relaxedAutoImplicit false

namespace Horst.Foundation.Nested

open Filter

variable {ε σ : Type*}

/-- Serve a request on a state; `none` is a call cut off by the depth bound. -/
abbrev Handler (ε σ : Type*) := ε → σ → Option σ

/-- Every call that `f` completes is completed by `g` with the same result. -/
def Below (f g : Handler ε σ) : Prop := ∀ e s r, f e s = some r → g e s = some r

/-- The body of a re-entrant function cannot observe that a nested call was cut off. -/
def Monotone (body : Handler ε σ → Handler ε σ) : Prop :=
  ∀ f g, Below f g → Below (body f) (body g)

/-- The re-entrant function with at most `n` calls open at the same time. -/
def depth (body : Handler ε σ → Handler ε σ) : ℕ → Handler ε σ
  | 0 => fun _ _ => none
  | n + 1 => body (depth body n)

def Returns (body : Handler ε σ → Handler ε σ) (e : ε) (s r : σ) : Prop :=
  ∃ n, depth body n e s = some r

/-- A computation that makes nested calls ends in `r` once the depth is large enough. -/
def Computes (body : Handler ε σ → Handler ε σ) (c : Handler ε σ → Option σ) (r : σ) : Prop :=
  ∀ᶠ n in atTop, c (depth body n) = some r

/-- A computation that makes nested calls is cut off at every depth. -/
def Diverges (body : Handler ε σ → Handler ε σ) (c : Handler ε σ → Option σ) : Prop :=
  ∀ n, c (depth body n) = none

theorem Below.refl (f : Handler ε σ) : Below f f := fun _ _ _ h => h

theorem Below.trans {f g h : Handler ε σ} (fg : Below f g) (gh : Below g h) : Below f h :=
  fun e s r hr => gh e s r (fg e s r hr)

variable {body : Handler ε σ → Handler ε σ}

theorem depth_below_succ (mono : Monotone body) (n : ℕ) :
    Below (depth body n) (depth body (n + 1)) := by
  induction n with
  | zero => intro e s r h; simp [depth] at h
  | succ n ih => exact mono _ _ ih

theorem depth_below (mono : Monotone body) {m n : ℕ} (le : m ≤ n) :
    Below (depth body m) (depth body n) := by
  induction n, le using Nat.le_induction with
  | base => exact Below.refl _
  | succ n _ ih => exact ih.trans (depth_below_succ mono n)

theorem depth_imp {body' : Handler ε σ → Handler ε σ} (mono : Monotone body')
    (imp : ∀ f, Below (body f) (body' f)) (n : ℕ) : Below (depth body n) (depth body' n) := by
  induction n with
  | zero => exact Below.refl _
  | succ n ih => exact (imp _).trans (mono _ _ ih)

/-- A property of handlers that the cut-off handler has and the body keeps holds at every depth. -/
theorem depth_induction {motive : Handler ε σ → Prop} (bottom : motive fun _ _ => none)
    (step : ∀ h, motive h → motive (body h)) (n : ℕ) : motive (depth body n) := by
  induction n with
  | zero => exact bottom
  | succ n ih => exact step _ ih

theorem Computes.congr {c d : Handler ε σ → Option σ} {r : σ} (h : Computes body c r)
    (eq : ∀ f, d f = c f) : Computes body d r := by
  filter_upwards [h] with n hn
  rw [eq, hn]

theorem computes_pure (r : σ) : Computes body (fun _ => some r) r :=
  Eventually.of_forall fun _ => rfl

theorem Computes.bind {c : Handler ε σ → Option σ} {d : Handler ε σ → σ → Option σ} {s r : σ}
    (hc : Computes body c s) (hd : Computes body (fun h => d h s) r) :
    Computes body (fun h => (c h).bind (d h)) r := by
  filter_upwards [hc, hd] with n hcn hdn
  simp only [hcn, Option.bind_some, hdn]

theorem Computes.bind_pure {c : Handler ε σ → Option σ} {k : σ → Option σ} {s r : σ}
    (hc : Computes body c s) (hk : k s = some r) :
    Computes body (fun h => (c h).bind k) r := by
  filter_upwards [hc] with n hcn
  rw [hcn, Option.bind_some, hk]

/-- A call computes its result when the body does, one level further down. -/
theorem computes_call {e : ε} {s r : σ} (h : Computes body (fun f => body f e s) r) :
    Computes body (fun f => f e s) r := by
  obtain ⟨N, hN⟩ := eventually_atTop.mp h
  refine eventually_atTop.mpr ⟨N + 1, fun n hn => ?_⟩
  obtain ⟨m, rfl⟩ : ∃ m, n = m + 1 := ⟨n - 1, by omega⟩
  exact hN m (by omega)

theorem Computes.returns {e : ε} {s r : σ} (h : Computes body (fun f => f e s) r) :
    Returns body e s r := by
  obtain ⟨N, hN⟩ := eventually_atTop.mp h
  exact ⟨N, hN N le_rfl⟩

/-! Computations that wait for outcomes. -/

open Outcomes (Supplies)

/-- The computation returns exactly if `need` of the attempts from the `k`-th on succeed. -/
structure Takes (body : Handler ε σ → Handler ε σ) (p : ℕ → Bool)
    (c : Handler ε σ → Option σ) (need k : ℕ) : Prop where
  ends : Supplies p need k → ∃ r, Computes body c r
  cut_off : ¬ Supplies p need k → Diverges body c

variable {p : ℕ → Bool} {c c' : Handler ε σ → Option σ} {need need' k k' : ℕ}

theorem takes_zero (ends : ∃ r, Computes body c r) : Takes body p c 0 k :=
  ⟨fun _ => ends, fun starved => absurd trivial starved⟩

theorem Takes.congr (h : Takes body p c need k) (eq : ∀ f, c' f = c f) :
    Takes body p c' need k := by
  refine ⟨fun supply => ?_, fun starved n => ?_⟩
  · obtain ⟨r, computes⟩ := h.ends supply
    exact ⟨r, computes.congr eq⟩
  · rw [eq, h.cut_off starved n]

/-- In sequence, the second computation has to do with the attempts the first one left. -/
theorem Takes.bind {d : Handler ε σ → σ → Option σ} (first : Takes body p c need k)
    (second : ∀ n s, c (depth body n) = some s → ∃ k', Takes body p (fun h => d h s) need' k' ∧
      (Supplies p (need + need') k → Supplies p need' k') ∧
      (Supplies p need k → Supplies p need' k' → Supplies p (need + need') k)) :
    Takes body p (fun h => (c h).bind (d h)) (need + need') k := by
  constructor
  · intro supply
    have enough : Supplies p need k := supply.of_count_le (by omega)
    obtain ⟨s, computes⟩ := first.ends enough
    obtain ⟨n, hn⟩ := computes.exists
    obtain ⟨k', rest, left, _⟩ := second n s hn
    obtain ⟨r, computes'⟩ := rest.ends (left supply)
    exact ⟨r, computes.bind computes'⟩
  · intro starved n
    by_cases enough : Supplies p need k
    · cases hc : c (depth body n) with
      | none => simp only [hc, Option.bind_none]
      | some s =>
        obtain ⟨k', rest, _, back⟩ := second n s hc
        have cut := rest.cut_off (fun supply => starved (back enough supply)) n
        simpa only [hc, Option.bind_some] using cut
    · simp only [first.cut_off enough n, Option.bind_none]

theorem Takes.bind_zero {d : Handler ε σ → σ → Option σ} (first : Takes body p c need k)
    (second : ∀ n s, c (depth body n) = some s → ∃ r, Computes body (fun h => d h s) r) :
    Takes body p (fun h => (c h).bind (d h)) need k := by
  refine first.bind fun n s hs => ⟨k, takes_zero (second n s hs), ?_, ?_⟩
  · exact fun _ => trivial
  · exact fun enough _ => enough

/-- A call takes what its body takes, one level further down. -/
theorem takes_call {e : ε} {s : σ} (h : Takes body p (fun f => body f e s) need k) :
    Takes body p (fun f => f e s) need k := by
  refine ⟨fun supply => ?_, fun starved n => ?_⟩
  · obtain ⟨r, computes⟩ := h.ends supply
    exact ⟨r, computes_call computes⟩
  · cases n with
    | zero => rfl
    | succ n => exact h.cut_off starved n

theorem Takes.returns_iff (h : Takes body p c need k) :
    (∃ n r, c (depth body n) = some r) ↔ Supplies p need k := by
  constructor
  · rintro ⟨n, r, hn⟩
    by_contra starved
    rw [h.cut_off starved n] at hn
    cases hn
  · intro supply
    obtain ⟨r, computes⟩ := h.ends supply
    obtain ⟨n, hn⟩ := computes.exists
    exact ⟨n, r, hn⟩

end Horst.Foundation.Nested
