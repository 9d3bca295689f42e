import Mathlib.Data.List.Basic

/-!
A pipe of a bounded capacity. What its writer hands over waits until the pipe has room
for it; closing an end discards what is still on that side.
-/

set_option autoImplicit false
set_option relaxedAutoImplicit false

namespace Horst.Foundation

/-- A pipe with all that was ever written to it, in order: first what the reader has got,
then what is in the pipe, then what waits for room, and last what a close has discarded. -/
structure Pipe (α : Type*) where
  written : List α
  read : List α
  content : List α
  waiting : List α
  discarded : List α
  closed : Bool
  conserved : read ++ content ++ waiting ++ discarded = written
  kept : closed = false → discarded = []

namespace Pipe

variable {α : Type*}

def empty : Pipe α where
  written := []
  read := []
  content := []
  waiting := []
  discarded := []
  closed := false
  conserved := rfl
  kept _ := rfl

variable (p : Pipe α) (capacity size : ℕ) (xs : List α)

/-- The pipe takes as much of what waits as it has room for. -/
def pump : Pipe α :=
  let room := capacity - p.content.length
  { p with
    content := p.content ++ p.waiting.take room
    waiting := p.waiting.drop room
    conserved := by
      have whole : p.waiting.take room ++ p.waiting.drop room = p.waiting := List.take_append_drop _ _
      calc p.read ++ (p.content ++ p.waiting.take room) ++ p.waiting.drop room ++ p.discarded
          = p.read ++ p.content ++ (p.waiting.take room ++ p.waiting.drop room) ++ p.discarded := by
            simp only [List.append_assoc]
        _ = p.written := by rw [whole, p.conserved] }

def submit (h : p.closed = false) : Pipe α :=
  { p with
    written := p.written ++ xs
    waiting := p.waiting ++ xs
    conserved := by
      have none : p.discarded = [] := p.kept h
      rw [← p.conserved, none, List.append_nil, List.append_nil, ← List.append_assoc] }

/-- The writer writes; a pipe that nothing waits for takes at once what fits. -/
def write : Pipe α :=
  if h : p.closed = false then
    if p.waiting = [] then (p.submit xs h).pump capacity else p.submit xs h
  else
    p

def take : Pipe α :=
  { p with
    read := p.read ++ p.content.take size
    content := p.content.drop size
    conserved := by
      rw [List.append_assoc p.read, List.take_append_drop, p.conserved] }

/-- The writer closes its end; what waits is not written any more. -/
def closeWriter : Pipe α :=
  { p with
    waiting := []
    discarded := p.waiting ++ p.discarded
    closed := true
    conserved := by
      rw [List.append_nil, ← List.append_assoc, p.conserved]
    kept := by simp }

/-- The reader closes its end; what it has not got is lost. -/
def closeReader : Pipe α :=
  { p with
    content := []
    waiting := []
    discarded := p.content ++ p.waiting ++ p.discarded
    closed := true
    conserved := by
      rw [List.append_nil, List.append_nil, ← List.append_assoc, ← List.append_assoc, p.conserved]
    kept := by simp }

variable {p} {capacity} {size} {xs}

theorem write_closed (h : p.closed = true) : p.write capacity xs = p := by
  apply dif_neg
  simp [h]

theorem write_open (h : p.closed = false) :
    p.write capacity xs = (p.submit xs h).pump capacity ∨ p.write capacity xs = p.submit xs h := by
  rw [write, dif_pos h]
  by_cases none : p.waiting = []
  · left
    exact if_pos none
  · right
    exact if_neg none

theorem written_write (h : p.closed = false) :
    (p.write capacity xs).written = p.written ++ xs := by
  rcases write_open h with same | same
  · rw [same]
    rfl
  · rw [same]
    rfl

@[simp] theorem written_write_nil : (p.write capacity []).written = p.written := by
  cases h : p.closed with
  | true => rw [write_closed h]
  | false => rw [written_write h, List.append_nil]

@[simp] theorem closed_write : (p.write capacity xs).closed = p.closed := by
  cases h : p.closed with
  | true => rw [write_closed h, h]
  | false =>
    rcases write_open h with same | same
    · rw [same]
      exact h
    · rw [same]
      exact h

@[simp] theorem read_write : (p.write capacity xs).read = p.read := by
  cases h : p.closed with
  | true => rw [write_closed h]
  | false =>
    rcases write_open h with same | same
    · rw [same]
      rfl
    · rw [same]
      rfl

theorem pump_available (idle : p.waiting = []) :
    (p.pump capacity).read ++ (p.pump capacity).content = p.read ++ p.content := by
  change p.read ++ (p.content ++ p.waiting.take _) = p.read ++ p.content
  rw [idle, List.take_nil, List.append_nil]

theorem take_available : (p.take size).read ++ (p.take size).content = p.read ++ p.content := by
  change p.read ++ p.content.take size ++ p.content.drop size = p.read ++ p.content
  rw [List.append_assoc, List.take_append_drop]

theorem pump_waiting (idle : p.waiting = []) : (p.pump capacity).waiting = [] := by
  change p.waiting.drop _ = []
  rw [idle, List.drop_nil]

/-- After the writer has closed its end, the reader can get all that was written exactly if
nothing was waiting. -/
theorem closeWriter_iff (h : p.closed = false) :
    p.closeWriter.read ++ p.closeWriter.content = p.written ↔ p.waiting = [] := by
  have none : p.discarded = [] := p.kept h
  have whole : p.read ++ p.content ++ p.waiting = p.written := by
    rw [← p.conserved, none, List.append_nil]
  change p.read ++ p.content = p.written ↔ p.waiting = []
  rw [← whole]
  exact List.self_eq_append_right

/-- Of a pipe with nothing in it, the reader has got all that was written exactly if
nothing was discarded. -/
theorem read_iff (drained : p.content = []) (idle : p.waiting = []) :
    p.read = p.written ↔ p.discarded = [] := by
  have whole : p.read ++ p.discarded = p.written := by
    have conserved := p.conserved
    rwa [drained, idle, List.append_nil, List.append_nil] at conserved
  rw [← whole]
  exact List.self_eq_append_right

end Pipe

end Horst.Foundation
