import Mathlib.Algebra.BigOperators.Ring.Finset
import Nightjar.Lib.Tables

namespace Nightjar.Lib

namespace Table

variable {κ ν ν' : Type} [DecidableEq κ]

/-- A Go map from keys to counters, after `m[k]++` for each of the keys. -/
def tally (ks : List κ) : Table κ Nat := ks.foldl (fun m k => AList.insert k ((m.lookup k).getD 0 + 1) m) ∅

/-- A Go map used as a set, after `m[k] = true` for each of the keys. -/
def keySet (ks : List κ) : Table κ Bool := ks.foldl (fun m k => AList.insert k true m) ∅

def size (m : Table κ ν) : Nat := m.entries.length

theorem tally_append (ks : List κ) (k : κ) :
    tally (ks ++ [k]) = AList.insert k (((tally ks).lookup k).getD 0 + 1) (tally ks) := by
  rw [tally, List.foldl_append]
  rfl

theorem lookup_tally (ks : List κ) (k : κ) : (tally ks).lookup k = if k ∈ ks then some (ks.count k) else none := by
  induction ks using List.reverseRecOn with
  | nil => rfl
  | append_singleton ks j ih =>
      rw [tally_append, lookup_insert]
      by_cases hk : k = j
      · subst hk
        rw [ih, if_pos rfl]
        by_cases hmem : k ∈ ks
        · simp [hmem]
        · simp [hmem, List.count_eq_zero_of_not_mem hmem]
      · rw [if_neg hk, ih]
        simp [hk, Ne.symm hk]

theorem getD_lookup_tally (ks : List κ) (k : κ) : ((tally ks).lookup k).getD 0 = ks.count k := by
  rw [lookup_tally]
  split
  · rfl
  · rename_i h
    exact (List.count_eq_zero_of_not_mem h).symm

theorem sum_tally (ks : List κ) : (collect (tally ks) (fun _ n => [n])).sum = ks.length := by
  induction ks using List.reverseRecOn with
  | nil => rfl
  | append_singleton ks k ih =>
      rw [tally_append, collect_insert, List.length_append, ← ih]
      cases hl : (tally ks).lookup k with
      | none =>
          rw [erase_of_lookup_none hl]
          simp [Nat.add_comm]
      | some n =>
          rw [(collect_erase hl).sum_eq]
          simp
          omega

theorem lookup_keySet (ks : List κ) (k : κ) : (keySet ks).lookup k = if k ∈ ks then some true else none := by
  induction ks using List.reverseRecOn with
  | nil => rfl
  | append_singleton ks j ih =>
      rw [keySet, List.foldl_append]
      change (AList.insert j true (keySet ks)).lookup k = _
      rw [lookup_insert, ih]
      by_cases hk : k = j
      · simp [hk]
      · simp [hk]

theorem size_congr {m : Table κ ν} {m' : Table κ ν'} (h : ∀ k, (m.lookup k).isSome = (m'.lookup k).isSome) :
    size m = size m' := by
  have hkeys : m.keys.Perm m'.keys := by
    refine (List.perm_ext_iff_of_nodup m.keys_nodup m'.keys_nodup).mpr (fun k => ?_)
    rw [← AList.mem_keys, ← AList.mem_keys, ← AList.lookup_isSome, ← AList.lookup_isSome, h]
  have hlength := hkeys.length_eq
  simpa [size, AList.keys, List.keys] using hlength

end Table

theorem countP_eq_sum {α : Type} (p : α → Bool) (xs : List α) :
    xs.countP p = (xs.map (fun x => if p x then 1 else 0)).sum := by
  induction xs with
  | nil => rfl
  | cons x xs ih => rw [List.countP_cons, List.map_cons, List.sum_cons, ih, Nat.add_comm]

theorem sum_countP_comm {α β : Type} (p : α → β → Bool) (xs : List α) (ys : List β) :
    (xs.map (fun x => ys.countP (p x))).sum = (ys.map (fun y => xs.countP (fun x => p x y))).sum := by
  induction xs with
  | nil => simp
  | cons x xs ih =>
      rw [List.map_cons, List.sum_cons, ih, countP_eq_sum, ← List.sum_map_add]
      refine congrArg List.sum (List.map_congr_left (fun y _ => ?_))
      rw [List.countP_cons, Nat.add_comm]

theorem sum_count_add {κ : Type} [DecidableEq κ] {names : List κ} (h : names.Nodup) (ks : List κ) :
    (names.map (fun n => ks.count n)).sum + ks.countP (fun k => k ∉ names) = ks.length := by
  have hswap : (names.map (fun n => ks.count n)).sum = ks.countP (fun k => k ∈ names) := by
    have hcomm := sum_countP_comm (fun n k => k == n) names ks
    refine hcomm.trans ?_
    rw [countP_eq_sum]
    refine congrArg List.sum (List.map_congr_left (fun k _ => ?_))
    have hcount : names.countP (fun n => k == n) = names.count k := by
      refine List.countP_congr (fun n _ => ?_)
      rw [beq_iff_eq, beq_iff_eq, eq_comm]
    rw [hcount, h.count]
    simp
  rw [hswap, List.length_eq_countP_add_countP (fun k => decide (k ∈ names))]
  simp

end Nightjar.Lib
