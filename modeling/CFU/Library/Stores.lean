import Mathlib.Data.List.Basic

/-!
# Stores - blocks written over a memory

A store writes a block of cells over a memory from an offset on.  A list of stores is
carried out in order, so a cell holds what the last store that covers it left there.

Main results:

- Definitions {lit}`Store.apply`, {lit}`storeAll`: one store, and a list of them.
- Theorem {lit}`storeAll_last`: the last store that covers a cell decides.
- Theorem {lit}`storeAll_of_pairwise`: stores that do not overlap all stay.
- Theorem {lit}`storeAll_outside`: a cell that no store covers keeps its value.
- Theorem {lit}`storeAll_perm`: stores that do not overlap may change places.
-/

namespace Stores

universe u

variable {β : Type u}

/-! ## One store -/

/-- A block of cells and the place of its first one. -/
structure Store (β : Type u) where
  offset : ℕ
  block : List β

namespace Store

/-- The cell lies in the block. -/
def Covers (s : Store β) (a : ℕ) : Prop :=
  s.offset ≤ a ∧ a < s.offset + s.block.length

instance (s : Store β) (a : ℕ) : Decidable (s.Covers a) :=
  inferInstanceAs (Decidable (_ ∧ _))

/-- The memory behind the store. -/
def apply (memory : ℕ → β) (s : Store β) (a : ℕ) : β :=
  if s.offset ≤ a then s.block.getD (a - s.offset) (memory a) else memory a

/-- The block is found where it was stored. -/
theorem apply_add (memory : ℕ → β) (s : Store β) {i : ℕ} {b : β} (h : s.block[i]? = some b) :
    s.apply memory (s.offset + i) = b := by
  unfold apply
  rw [if_pos (Nat.le_add_right _ _), Nat.add_sub_cancel_left, List.getD_eq_getElem?_getD, h]
  rfl

theorem apply_outside (memory : ℕ → β) {s : Store β} {a : ℕ} (h : ¬ s.Covers a) :
    s.apply memory a = memory a := by
  unfold apply
  by_cases hle : s.offset ≤ a
  · have hlong : s.block.length ≤ a - s.offset := by
      unfold Covers at h
      omega
    rw [if_pos hle, List.getD_eq_getElem?_getD, List.getElem?_eq_none hlong]
    rfl
  · rw [if_neg hle]

/-- The blocks share no cell. -/
def Apart (s t : Store β) : Prop :=
  s.offset + s.block.length ≤ t.offset ∨ t.offset + t.block.length ≤ s.offset

instance (s t : Store β) : Decidable (s.Apart t) :=
  inferInstanceAs (Decidable (_ ∨ _))

theorem Apart.not_covers {s t : Store β} (h : s.Apart t) {a : ℕ} (hs : s.Covers a) :
    ¬ t.Covers a := by
  unfold Apart at h
  unfold Covers at hs ⊢
  omega

end Store

/-! ## Stores in order -/

/-- The memory behind the stores. -/
def storeAll (memory : ℕ → β) (stores : List (Store β)) : ℕ → β :=
  stores.foldl (fun memory s => s.apply memory) memory

@[simp]
theorem storeAll_nil (memory : ℕ → β) : storeAll memory [] = memory :=
  rfl

@[simp]
theorem storeAll_cons (memory : ℕ → β) (s : Store β) (stores : List (Store β)) :
    storeAll memory (s :: stores) = storeAll (s.apply memory) stores :=
  rfl

theorem storeAll_append (memory : ℕ → β) (front back : List (Store β)) :
    storeAll memory (front ++ back) = storeAll (storeAll memory front) back :=
  List.foldl_append

/-- A cell that no store covers keeps its value. -/
theorem storeAll_outside (memory : ℕ → β) {stores : List (Store β)} {a : ℕ}
    (h : ∀ s ∈ stores, ¬ s.Covers a) : storeAll memory stores a = memory a := by
  induction stores generalizing memory with
  | nil => rfl
  | cons s stores ih =>
      rw [storeAll_cons, ih _ fun t ht => h t (List.mem_cons_of_mem s ht)]
      exact s.apply_outside memory (h s List.mem_cons_self)

/-- The last store that covers a cell decides what it holds. -/
theorem storeAll_last (memory : ℕ → β) (front : List (Store β)) {s : Store β}
    {back : List (Store β)} {i : ℕ} {b : β} (hcell : s.block[i]? = some b)
    (hback : ∀ t ∈ back, ¬ t.Covers (s.offset + i)) :
    storeAll memory (front ++ s :: back) (s.offset + i) = b := by
  rw [storeAll_append, storeAll_cons, storeAll_outside _ hback]
  exact s.apply_add _ hcell

/-- Stores that do not overlap all stay. -/
theorem storeAll_of_pairwise (memory : ℕ → β) {stores : List (Store β)}
    (hapart : stores.Pairwise Store.Apart) {s : Store β} (hmem : s ∈ stores) {i : ℕ} {b : β}
    (hcell : s.block[i]? = some b) : storeAll memory stores (s.offset + i) = b := by
  obtain ⟨front, back, rfl⟩ := List.append_of_mem hmem
  apply storeAll_last memory front hcell
  intro t ht
  obtain ⟨-, hlater, -⟩ := List.pairwise_append.1 hapart
  apply Store.Apart.not_covers ((List.pairwise_cons.1 hlater).1 t ht)
  have hindex := (List.getElem?_eq_some_iff.1 hcell).1
  unfold Store.Covers
  omega

/-- Stores that do not overlap may be carried out in any order. -/
theorem storeAll_perm (memory : ℕ → β) {stores stores' : List (Store β)}
    (hperm : stores.Perm stores') (hapart : stores.Pairwise Store.Apart) :
    storeAll memory stores = storeAll memory stores' := by
  have hapart' : stores'.Pairwise Store.Apart :=
    hperm.pairwise hapart fun h => Or.symm h
  funext a
  by_cases hcovered : ∃ s ∈ stores, s.Covers a
  · obtain ⟨s, hs, hle, hlt⟩ := hcovered
    have hindex : a - s.offset < s.block.length := by omega
    obtain ⟨i, rfl⟩ := Nat.exists_eq_add_of_le hle
    rw [Nat.add_sub_cancel_left] at hindex
    have hcell := List.getElem?_eq_getElem hindex
    rw [storeAll_of_pairwise memory hapart hs hcell,
      storeAll_of_pairwise memory hapart' (hperm.mem_iff.1 hs) hcell]
  · have hnone : ∀ s ∈ stores, ¬ s.Covers a := by
      intro s hs hcovers
      exact hcovered ⟨s, hs, hcovers⟩
    rw [storeAll_outside memory hnone,
      storeAll_outside memory fun s hs => hnone s (hperm.mem_iff.2 hs)]

end Stores
