import Mathlib.Data.List.Basic

/-!
Texts that are cut at separators: the words between them, the first separator, and a
line end that is left out.
-/

set_option autoImplicit false
set_option relaxedAutoImplicit false

namespace Horst.Foundation

variable {α : Type*} [DecidableEq α]

def words (sep : α) (text : List α) : List (List α) :=
  (text.splitOn sep).filter fun word => word ≠ []

def chomp (last : α) (text : List α) : List α :=
  if text.getLast? = some last then text.dropLast else text

/-- A text that stands alone, or with the given end. -/
def Line (last : α) (text line : List α) : Prop := line = text ∨ line = text ++ [last]

instance (last : α) (text line : List α) : Decidable (Line last text line) :=
  inferInstanceAs (Decidable (_ ∨ _))

variable {sep last : α} {word text line rest : List α}

theorem words_append_cons (front : List α) :
    words sep (front ++ sep :: rest) = words sep front ++ words sep rest := by
  rw [words, List.splitOn_append_cons_self, List.filter_append]
  rfl

theorem words_single (fresh : sep ∉ word) (nonempty : word ≠ []) : words sep word = [word] := by
  rw [words, List.splitOn_eq_singleton fresh]
  exact List.filter_cons_of_pos (decide_eq_true nonempty)

theorem words_cons (fresh : sep ∉ word) (nonempty : word ≠ []) :
    words sep (word ++ sep :: rest) = word :: words sep rest := by
  rw [words_append_cons, words_single fresh nonempty]
  rfl

theorem idxOf?_append_cons (fresh : sep ∉ word) :
    (word ++ sep :: rest).idxOf? sep = some word.length := by
  induction word with
  | nil => simp [List.idxOf?_cons]
  | cons a word ih =>
    obtain ⟨other, fresh⟩ := not_or.mp (mt List.mem_cons.mpr fresh)
    have differs : (a == sep) = false := beq_eq_false_iff_ne.mpr (Ne.symm other)
    rw [List.cons_append, List.idxOf?_cons, differs, ih fresh]
    rfl

theorem chomp_append : chomp last (text ++ [last]) = text := by
  rw [chomp, if_pos List.getLast?_concat, List.dropLast_concat]

theorem chomp_of_ne (other : text.getLast? ≠ some last) : chomp last text = text := if_neg other

theorem Line.chomp (h : Line last text line) (other : text.getLast? ≠ some last) :
    chomp last line = text := by
  rcases h with rfl | rfl
  · exact chomp_of_ne other
  · exact chomp_append

omit [DecidableEq α] in
theorem Line.cut (h : Line last (word ++ sep :: text) line) :
    ∃ rest, line = word ++ sep :: rest ∧ Line last text rest := by
  rcases h with rfl | rfl
  · exact ⟨text, rfl, Or.inl rfl⟩
  · exact ⟨text ++ [last], by rw [List.append_assoc, List.cons_append], Or.inr rfl⟩

end Horst.Foundation
