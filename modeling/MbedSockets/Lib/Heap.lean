import Mathlib.Algebra.BigOperators.Intervals
import Mathlib.Tactic

/-!
A store of objects with serial identities. An identity is never given twice,
so a reference to a freed object stays distinguishable from every later
object, wherever that one is placed. `total g` adds up a weight over the live
objects; each operation changes it by the weight of the one object it touches,
which is how counters and ownership counts are followed through a run.
-/

namespace MbedSockets.Lib

/-- `next` is the first identity not yet given out; no cell at or past it is
live. -/
structure Heap (α : Type*) where
  next : Nat
  cell : Nat → Option α
  fresh : ∀ i, next ≤ i → cell i = none

namespace Heap

variable {α : Type*}

def empty : Heap α := ⟨0, fun _ => none, fun _ _ => rfl⟩

theorem lt_next (h : Heap α) {i : Nat} {a : α} (hi : h.cell i = some a) :
    i < h.next := by
  by_contra hge
  have hnone := h.fresh i (by omega)
  simp [hnone] at hi

/-- Place a new object under the next identity. -/
def alloc (h : Heap α) (a : α) : Heap α where
  next := h.next + 1
  cell i := if i = h.next then some a else h.cell i
  fresh i hi := by
    have hne : i ≠ h.next := by omega
    simpa [hne] using h.fresh i (by omega)

/-- Replace a live object; an identity that is not live stays that way. -/
def set (h : Heap α) (i : Nat) (a : α) : Heap α where
  next := h.next
  cell j := if j = i then (h.cell i).map (fun _ => a) else h.cell j
  fresh j hj := by
    have hnone := h.fresh j hj
    by_cases hji : j = i
    · subst hji
      simp [hnone]
    · simpa [hji] using hnone

def free (h : Heap α) (i : Nat) : Heap α where
  next := h.next
  cell j := if j = i then none else h.cell j
  fresh j hj := by
    have hnone := h.fresh j hj
    by_cases hji : j = i <;> simp [hji, hnone]

@[simp] theorem empty_cell (i : Nat) : (empty : Heap α).cell i = none := rfl

@[simp] theorem alloc_next (h : Heap α) (a : α) :
    (h.alloc a).next = h.next + 1 := rfl

@[simp] theorem alloc_cell_self (h : Heap α) (a : α) :
    (h.alloc a).cell h.next = some a := by simp [alloc]

theorem alloc_cell_of_ne (h : Heap α) (a : α) {i : Nat} (hi : i ≠ h.next) :
    (h.alloc a).cell i = h.cell i := by simp [alloc, hi]

theorem alloc_cell_eq_some (h : Heap α) (a b : α) (i : Nat) :
    (h.alloc a).cell i = some b ↔
      (i = h.next ∧ b = a) ∨ h.cell i = some b := by
  by_cases hi : i = h.next
  · subst hi
    have hnone := h.fresh h.next le_rfl
    simp [hnone, eq_comm]
  · simp [alloc_cell_of_ne h a hi, hi]

@[simp] theorem set_next (h : Heap α) (i : Nat) (a : α) :
    (h.set i a).next = h.next := rfl

theorem set_cell_self (h : Heap α) {i : Nat} {a b : α}
    (hi : h.cell i = some a) : (h.set i b).cell i = some b := by
  simp [set, hi]

theorem set_cell_of_ne (h : Heap α) {i j : Nat} (a : α) (hj : j ≠ i) :
    (h.set i a).cell j = h.cell j := by simp [set, hj]

theorem set_cell_eq_some (h : Heap α) {i j : Nat} {a b c : α} (hi : h.cell i = some a) :
    (h.set i b).cell j = some c ↔ (j = i ∧ c = b) ∨ (j ≠ i ∧ h.cell j = some c) := by
  by_cases hj : j = i
  · subst hj
    simp [set_cell_self h hi, eq_comm]
  · simp [set_cell_of_ne h b hj, hj]

theorem set_self (h : Heap α) {i : Nat} {a : α} (hi : h.cell i = some a) : h.set i a = h := by
  have hcell : (h.set i a).cell = h.cell := by
    funext j
    by_cases hj : j = i
    · rw [hj, set_cell_self h hi, hi]
    · exact set_cell_of_ne h a hj
  cases h
  simp only [set, mk.injEq, true_and] at hcell ⊢
  exact hcell

@[simp] theorem set_cell_isSome (h : Heap α) (i j : Nat) (a : α) :
    ((h.set i a).cell j).isSome = (h.cell j).isSome := by
  by_cases hj : j = i
  · subst hj
    simp [set]
  · simp [set_cell_of_ne h a hj]

@[simp] theorem free_next (h : Heap α) (i : Nat) :
    (h.free i).next = h.next := rfl

@[simp] theorem free_cell_self (h : Heap α) (i : Nat) :
    (h.free i).cell i = none := by simp [free]

theorem free_cell_of_ne (h : Heap α) {i j : Nat} (hj : j ≠ i) :
    (h.free i).cell j = h.cell j := by simp [free, hj]

theorem free_cell_eq_some (h : Heap α) (i j : Nat) (a : α) :
    (h.free i).cell j = some a ↔ j ≠ i ∧ h.cell j = some a := by
  by_cases hj : j = i <;> simp [free, hj]

/-- The weight of the live objects. -/
def total (g : α → Nat) (h : Heap α) : Nat :=
  ∑ i ∈ Finset.range h.next, (h.cell i).elim 0 g

@[simp] theorem total_empty (g : α → Nat) : (empty : Heap α).total g = 0 := rfl

theorem total_alloc (g : α → Nat) (h : Heap α) (a : α) :
    (h.alloc a).total g = h.total g + g a := by
  unfold total
  rw [alloc_next, Finset.sum_range_succ, alloc_cell_self]
  congr 1
  apply Finset.sum_congr rfl
  intro i hi
  have hne : i ≠ h.next := by
    have := Finset.mem_range.mp hi
    omega
  rw [alloc_cell_of_ne h a hne]

/-- Two stores that agree away from `i` differ in weight by what they hold
at `i`. -/
private theorem sum_change (f f' : Nat → Nat) {n i : Nat} (hi : i < n)
    (hother : ∀ j, j ≠ i → f' j = f j) :
    (∑ j ∈ Finset.range n, f' j) + f i = (∑ j ∈ Finset.range n, f j) + f' i := by
  have hmem : i ∈ Finset.range n := Finset.mem_range.mpr hi
  rw [← Finset.add_sum_erase _ f' hmem, ← Finset.add_sum_erase _ f hmem]
  have hrest : ∑ j ∈ (Finset.range n).erase i, f' j =
      ∑ j ∈ (Finset.range n).erase i, f j := by
    apply Finset.sum_congr rfl
    intro j hj
    exact hother j (Finset.ne_of_mem_erase hj)
  rw [hrest]
  omega

theorem total_set (g : α → Nat) (h : Heap α) {i : Nat} {a : α} (b : α)
    (hi : h.cell i = some a) :
    (h.set i b).total g + g a = h.total g + g b := by
  have hchange := sum_change (fun j => (h.cell j).elim 0 g)
    (fun j => ((h.set i b).cell j).elim 0 g) (h.lt_next hi)
    (fun j hj => by simp only [set_cell_of_ne h b hj])
  simpa [total, hi, set_cell_self h hi] using hchange

theorem total_free (g : α → Nat) (h : Heap α) {i : Nat} {a : α}
    (hi : h.cell i = some a) :
    (h.free i).total g + g a = h.total g := by
  have hchange := sum_change (fun j => (h.cell j).elim 0 g)
    (fun j => ((h.free i).cell j).elim 0 g) (h.lt_next hi)
    (fun j hj => by simp only [free_cell_of_ne h hj])
  simpa [total, hi] using hchange

theorem le_total (g : α → Nat) (h : Heap α) {i : Nat} {a : α}
    (hi : h.cell i = some a) : g a ≤ h.total g := by
  have hfree := h.total_free g hi
  omega

end Heap

end MbedSockets.Lib
