import Mathlib.Data.List.Sort
import Mathlib.Data.List.GetD
import Mathlib.Order.Basic

namespace Nightjar.Lib

variable {α : Type}

/-- Go's `sort.Slice`. It promises a sorted permutation and no more; which one it
takes is settled by the keys, since these are all it compares. -/
class SortSlice where
  order : List Nat → List Nat
  perm : ∀ keys, (order keys).Perm (List.range keys.length)
  sorted : ∀ keys, ((order keys).map (keys.getD · 0)).Pairwise (· ≤ ·)

namespace SortSlice

@[reducible] def stable : SortSlice where
  order keys := (List.range keys.length).insertionSort (fun i j => keys.getD i 0 ≤ keys.getD j 0)
  perm keys := List.perm_insertionSort _ _
  sorted keys := by
    have : Std.Total (fun i j => keys.getD i 0 ≤ keys.getD j 0) := ⟨fun i j => Nat.le_total _ _⟩
    have : IsTrans Nat (fun i j => keys.getD i 0 ≤ keys.getD j 0) := ⟨fun i j k => Nat.le_trans⟩
    exact List.pairwise_map.mpr (List.pairwise_insertionSort _ _)

theorem filterMap_range (xs : List α) : (List.range xs.length).filterMap (xs[·]?) = xs := by
  induction xs with
  | nil => rfl
  | cons x xs ih =>
      rw [List.length_cons, List.range_succ_eq_map, List.filterMap_cons, List.filterMap_map]
      simpa using ih

variable [SortSlice]

def sort (key : α → Nat) (xs : List α) : List α := (order (xs.map key)).filterMap (xs[·]?)

theorem sort_perm (key : α → Nat) (xs : List α) : (sort key xs).Perm xs := by
  have h := (perm (xs.map key)).filterMap (xs[·]?)
  rwa [List.length_map, filterMap_range] at h

theorem sort_sorted (key : α → Nat) (xs : List α) : (sort key xs).Pairwise (fun x y => key x ≤ key y) := by
  refine List.pairwise_filterMap.mpr ((List.pairwise_map.mp (sorted (xs.map key))).imp fun {i j} hij => ?_)
  have hkey {i : Nat} {x : α} (hx : xs[i]? = some x) : (xs.map key).getD i 0 = key x := by
    simp [List.getD, hx]
  intro x hx y hy
  rwa [hkey hx, hkey hy] at hij

end SortSlice

end Nightjar.Lib
