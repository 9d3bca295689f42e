import Mathlib.Data.List.Nodup
import Mathlib.Logic.Equiv.Basic

/-!
Formats: an encoder of values and a decoder that reads one value off the front of a list of
symbols. A format carries the law that makes it one: the decoder reads a value exactly where
the list starts with what the encoder makes of it.
-/

set_option autoImplicit false
set_option relaxedAutoImplicit false

namespace Horst.Foundation

structure Format (σ α : Type*) where
  encode : α → List σ
  decode : List σ → Option (α × List σ)
  exact : ∀ symbols a rest, decode symbols = some (a, rest) ↔ symbols = encode a ++ rest

namespace Format

variable {σ α β : Type*}

def symbol (encode : α → σ) (decode : σ → Option α)
    (exact : ∀ s a, decode s = some a ↔ s = encode a) : Format σ α where
  encode a := [encode a]
  decode
    | [] => none
    | s :: rest => (decode s).map fun a => (a, rest)
  exact symbols a rest := by
    cases symbols with
    | nil => simp
    | cons s symbols =>
      constructor
      · intro h
        obtain ⟨b, read, same⟩ := Option.map_eq_some_iff.mp h
        obtain ⟨rfl, rfl⟩ := Prod.mk.inj same
        rw [(exact s b).mp read]
        rfl
      · intro h
        obtain ⟨rfl, rfl⟩ := List.cons.inj h
        have read := (exact (encode a) a).mpr rfl
        simp [read]

/-- A symbol of its own for each value of an enumeration. -/
def choice [DecidableEq σ] (values : List α) (encode : α → σ) (complete : ∀ a, a ∈ values)
    (distinct : (values.map encode).Nodup) : Format σ α :=
  symbol encode (fun s => values.find? fun a => encode a = s) <| by
    intro s a
    constructor
    · intro found
      have same := List.find?_some found
      exact (of_decide_eq_true same).symm
    · rintro rfl
      have some_ : (values.find? fun b => encode b = encode a).isSome :=
        List.find?_isSome.mpr ⟨a, complete a, decide_eq_true rfl⟩
      obtain ⟨b, found⟩ := Option.isSome_iff_exists.mp some_
      have same := List.find?_some found
      rw [found, List.inj_on_of_nodup_map distinct (complete b) (complete a) (of_decide_eq_true same)]

def seq (f : Format σ α) (g : Format σ β) : Format σ (α × β) where
  encode v := f.encode v.1 ++ g.encode v.2
  decode symbols :=
    (f.decode symbols).bind fun first =>
      (g.decode first.2).map fun second => ((first.1, second.1), second.2)
  exact symbols v rest := by
    obtain ⟨a, b⟩ := v
    constructor
    · intro h
      obtain ⟨⟨a', middle⟩, first, later⟩ := Option.bind_eq_some_iff.mp h
      obtain ⟨⟨b', rest'⟩, second, same⟩ := Option.map_eq_some_iff.mp later
      obtain ⟨values, rfl⟩ := Prod.mk.inj same
      obtain ⟨rfl, rfl⟩ := Prod.mk.inj values
      have front : symbols = f.encode a' ++ middle := (f.exact _ _ _).mp first
      have back : middle = g.encode b' ++ rest' := (g.exact _ _ _).mp second
      rw [front, back]
      exact (List.append_assoc _ _ _).symm
    · rintro rfl
      have first : f.decode (f.encode a ++ g.encode b ++ rest) = some (a, g.encode b ++ rest) :=
        (f.exact _ _ _).mpr (List.append_assoc _ _ _)
      have second : g.decode (g.encode b ++ rest) = some (b, rest) := (g.exact _ _ _).mpr rfl
      rw [first, Option.bind_some, second]
      rfl

def as (f : Format σ α) (e : α ≃ β) : Format σ β where
  encode b := f.encode (e.symm b)
  decode symbols := (f.decode symbols).map fun read => (e read.1, read.2)
  exact symbols b rest := by
    constructor
    · intro h
      obtain ⟨⟨a, rest'⟩, read, same⟩ := Option.map_eq_some_iff.mp h
      obtain ⟨rfl, rfl⟩ := Prod.mk.inj same
      rw [e.symm_apply_apply]
      exact (f.exact _ _ _).mp read
    · intro h
      have read := (f.exact _ _ _).mpr h
      simp [read]

/-- A list that is one value and nothing else. -/
def parse (f : Format σ α) (symbols : List σ) : Option α :=
  match f.decode symbols with
  | some (a, []) => some a
  | _ => none

variable (f : Format σ α)

theorem parse_iff {symbols : List σ} {a : α} : f.parse symbols = some a ↔ symbols = f.encode a := by
  have whole := f.exact symbols a []
  rw [List.append_nil] at whole
  rw [← whole, parse]
  constructor
  · intro h
    split at h
    · rename_i b read
      rw [read, Option.some.inj h]
    · cases h
  · intro read
    rw [read]

theorem parse_encode (a : α) : f.parse (f.encode a) = some a := f.parse_iff.mpr rfl

end Format

end Horst.Foundation
