import Mathlib.Order.Basic

/-!
# Priority queues

A priority queue whose elements are ordered by a comparison `cmp`.  All that can be observed of it
is the collection of its elements and the one that is popped next, which is a greatest one; so it is
a list, in no particular order, and the layout of the elements in memory does not show.
-/

set_option autoImplicit false

universe u

abbrev BinaryHeap (α : Type u) := List α

namespace BinaryHeap

variable {α : Type u} {cmp : α → α → Ordering}

def peek (cmp : α → α → Ordering) : BinaryHeap α → Option α
  | [] => none
  | x :: heap =>
    match peek cmp heap with
    | none => some x
    | some y => if cmp x y = .lt then some y else some x

variable {heap : BinaryHeap α}

theorem peek_eq_none : peek cmp heap = none ↔ heap = [] := by
  cases heap with
  | nil => simp [peek]
  | cons x heap =>
    simp only [peek, reduceCtorEq, iff_false]
    split
    · simp
    · split <;> simp

theorem mem_of_peek {x : α} (h : peek cmp heap = some x) : x ∈ heap := by
  induction heap with
  | nil => simp [peek] at h
  | cons y heap ih =>
    simp only [peek] at h
    split at h
    · cases h
      exact List.mem_cons_self
    · rename_i z hz
      split at h
      · cases h
        exact List.mem_cons_of_mem _ (ih hz)
      · cases h
        exact List.mem_cons_self

theorem isLE_of_peek [Std.TransCmp cmp] {x : α}
    (h : peek cmp heap = some x) : ∀ y ∈ heap, (cmp y x).isLE = true := by
  induction heap generalizing x with
  | nil => simp
  | cons z heap ih =>
    simp only [peek] at h
    intro y hy
    split at h
    · rename_i hnone
      cases h
      obtain rfl | hy := List.mem_cons.1 hy
      · simp [Std.ReflCmp.compare_self]
      · simp [peek_eq_none.1 hnone] at hy
    · rename_i w hw
      split at h
      · rename_i hlt
        cases h
        obtain rfl | hy := List.mem_cons.1 hy
        · simp [hlt]
        · exact ih hw y hy
      · rename_i hge
        cases h
        have hwz : (cmp w z).isLE = true := by
          have hswap : cmp w z = (cmp z w).swap := Std.OrientedCmp.eq_swap
          rw [hswap, Ordering.isLE_swap, Ordering.isGE_iff_ne_lt]
          exact hge
        obtain rfl | hy := List.mem_cons.1 hy
        · simp [Std.ReflCmp.compare_self]
        · exact Std.TransCmp.isLE_trans (ih hw y hy) hwz

end BinaryHeap
