import Mathlib.Data.List.Basic
import Mathlib.Tactic.Common

/-!
# Readings - programs that read a memory

A program that reads a memory cell by cell, as a tree: it returns a value, or it reads
the cell at an offset and goes on with what it found there.  The offsets of a run are
then data, and a bound on them is a statement about the tree.

Main results:

- Theorem {lit}`run_bind`: the run of a program and then another.
- Theorem {lit}`offsets_bind`: the offsets of a program and then another.
- Theorem {lit}`within_bind`: when both stay within a bound.
-/

universe u v w

/-- A program that reads cells of a memory and returns a value. -/
inductive Reading (β : Type u) (α : Type v) : Type (max u v) where
  | done (value : α)
  | read (offset : ℕ) (next : β → Reading β α)

namespace Reading

variable {β : Type u} {α : Type v} {γ : Type w}

/-! ## Runs -/

/-- What the program returns on a memory. -/
def run : Reading β α → (ℕ → β) → α
  | done value, _ => value
  | read offset next, memory => (next (memory offset)).run memory

/-- The offsets that it reads, in order. -/
def offsets : Reading β α → (ℕ → β) → List ℕ
  | done _, _ => []
  | read offset next, memory => offset :: (next (memory offset)).offsets memory

/-- Go on with another program. -/
def bind : Reading β α → (α → Reading β γ) → Reading β γ
  | done value, next => next value
  | read offset rest, next => read offset fun cell => (rest cell).bind next

/-- The cell at an offset. -/
def cell (offset : ℕ) : Reading β β :=
  read offset done

/-- The cells from an offset on. -/
def cells : ℕ → ℕ → Reading β (List β)
  | _, 0 => done []
  | offset, count + 1 =>
      (cell offset).bind fun head =>
        (cells (offset + 1) count).bind fun tail => done (head :: tail)

/-- Read some cells, and go on without their values. -/
def visit : List ℕ → Reading β α → Reading β α
  | [], next => next
  | offset :: rest, next => read offset fun _ => visit rest next

/-- Every offset of the run is below the bound. -/
def Within (bound : ℕ) (reading : Reading β α) (memory : ℕ → β) : Prop :=
  ∀ offset ∈ reading.offsets memory, offset < bound

section Rules

variable {memory : ℕ → β} {bound : ℕ}

@[simp]
theorem run_done (value : α) : (done value : Reading β α).run memory = value :=
  rfl

@[simp]
theorem offsets_done (value : α) : (done value : Reading β α).offsets memory = [] :=
  rfl

@[simp]
theorem run_cell (offset : ℕ) : (cell offset).run memory = memory offset :=
  rfl

@[simp]
theorem offsets_cell (offset : ℕ) : (cell offset).offsets memory = [offset] :=
  rfl

@[simp]
theorem run_bind (reading : Reading β α) (next : α → Reading β γ) :
    (reading.bind next).run memory = (next (reading.run memory)).run memory := by
  induction reading with
  | done value => rfl
  | read offset rest ih => exact ih (memory offset)

@[simp]
theorem offsets_bind (reading : Reading β α) (next : α → Reading β γ) :
    (reading.bind next).offsets memory =
      reading.offsets memory ++ (next (reading.run memory)).offsets memory := by
  induction reading with
  | done value => rfl
  | read offset rest ih => exact congrArg (List.cons offset) (ih (memory offset))

@[simp]
theorem run_cells (offset count : ℕ) :
    (cells offset count).run memory = (List.range' offset count).map memory := by
  induction count generalizing offset with
  | zero => rfl
  | succ count ih => simp [cells, ih, List.range'_succ]

@[simp]
theorem offsets_cells (offset count : ℕ) :
    (cells offset count).offsets memory = List.range' offset count := by
  induction count generalizing offset with
  | zero => rfl
  | succ count ih => simp [cells, ih, List.range'_succ]

@[simp]
theorem run_visit (visited : List ℕ) (next : Reading β α) :
    (visit visited next).run memory = next.run memory := by
  induction visited with
  | nil => rfl
  | cons offset rest ih => exact ih

@[simp]
theorem offsets_visit (visited : List ℕ) (next : Reading β α) :
    (visit visited next).offsets memory = visited ++ next.offsets memory := by
  induction visited with
  | nil => rfl
  | cons offset rest ih => exact congrArg (List.cons offset) ih

/-! ## Bounds -/

theorem within_done (value : α) : Within bound (done value : Reading β α) memory := by
  simp [Within]

/-- A program and then another stay within a bound if each of them does. -/
theorem within_bind (reading : Reading β α) (next : α → Reading β γ) :
    Within bound (reading.bind next) memory ↔
      Within bound reading memory ∧ Within bound (next (reading.run memory)) memory := by
  simp only [Within, offsets_bind, List.forall_mem_append]

theorem within_cell (offset : ℕ) :
    Within bound (cell offset) memory ↔ offset < bound := by
  simp [Within]

theorem within_visit (visited : List ℕ) (next : Reading β α) :
    Within bound (visit visited next) memory ↔
      (∀ offset ∈ visited, offset < bound) ∧ Within bound next memory := by
  simp only [Within, offsets_visit, List.forall_mem_append]

/-- Consecutive cells are within a bound if the last of them is. -/
theorem within_cells (offset : ℕ) {count : ℕ} (hcount : 0 < count) :
    Within bound (cells offset count) memory ↔ offset + count ≤ bound := by
  unfold Within
  rw [offsets_cells]
  constructor
  · intro hall
    have hlast := hall (offset + (count - 1)) (by rw [List.mem_range'_1]; omega)
    omega
  · intro hend i hi
    rw [List.mem_range'_1] at hi
    omega

end Rules

end Reading
