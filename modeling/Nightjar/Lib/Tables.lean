import Mathlib.Data.List.AList
import Mathlib.Data.List.Induction

namespace Nightjar.Lib

/-- A Go map: its entries in some order, at most one for each key. -/
abbrev Table (κ ν : Type) := AList (fun _ : κ => ν)

namespace Table

variable {κ ν : Type}

def restrict (m : Table κ ν) (p : κ → ν → Bool) : Table κ ν :=
  ⟨m.entries.filter (fun e => p e.1 e.2), m.nodupKeys.sublist List.filter_sublist⟩

variable [DecidableEq κ]

theorem lookup_insert (m : Table κ ν) (k j : κ) (v : ν) :
    (AList.insert k v m).lookup j = if j = k then some v else m.lookup j := by
  split
  · subst j
    exact AList.lookup_insert m
  · exact AList.lookup_insert_ne ‹_›

theorem lookup_erase (m : Table κ ν) (k j : κ) :
    (AList.erase k m).lookup j = if j = k then none else m.lookup j := by
  split
  · subst j
    exact AList.lookup_erase k m
  · exact AList.lookup_erase_ne ‹_›

theorem lookup_restrict (m : Table κ ν) (p : κ → ν → Bool) (k : κ) :
    (restrict m p).lookup k = (m.lookup k).filter (p k) := by
  ext v
  have hm : v ∈ (restrict m p).lookup k ↔ v ∈ m.lookup k ∧ p k v = true := by
    rw [AList.mem_lookup_iff, AList.mem_lookup_iff, restrict, List.mem_filter]
  rw [Option.filter_eq_some_iff]
  exact hm

theorem erase_of_lookup_none {m : Table κ ν} {k : κ} (h : m.lookup k = none) : AList.erase k m = m :=
  AList.ext (List.kerase_of_notMem_keys (AList.lookup_eq_none.mp h))

theorem forall_lookup_iff {m : Table κ ν} {P : κ → ν → Prop} :
    (∀ k v, m.lookup k = some v → P k v) ↔ ∀ e ∈ m.entries, P e.1 e.2 := by
  constructor
  · intro h e he
    exact h e.1 e.2 (AList.mem_lookup_iff.mpr he)
  · intro h k v hl
    exact h ⟨k, v⟩ (AList.mem_lookup_iff.mp hl)

def bindings (m : Table κ ν) : List (κ × ν) := m.entries.map (fun e => (e.1, e.2))

theorem lookup_bindings (m : Table κ ν) (k : κ) : (bindings m).lookup k = m.lookup k := by
  rw [bindings, AList.lookup]
  generalize m.entries = es
  induction es with
  | nil => rfl
  | cons e es ih =>
      obtain ⟨j, v⟩ := e
      by_cases h : k = j
      · subst h
        simp
      · rw [List.map_cons, List.lookup_cons, beq_false_of_ne h, List.dlookup_cons_ne _ _ h]
        exact ih

/-- The lists of all entries, one after the other. -/
def collect {β : Type} (m : Table κ ν) (f : κ → ν → List β) : List β := m.entries.flatMap (fun e => f e.1 e.2)

section Collect

variable {β : Type} {m : Table κ ν} {f : κ → ν → List β}

theorem mem_collect {x : β} : x ∈ collect m f ↔ ∃ k v, m.lookup k = some v ∧ x ∈ f k v := by
  simp only [collect, List.mem_flatMap, Sigma.exists]
  refine exists_congr (fun k => exists_congr (fun v => and_congr_left (fun _ => ?_)))
  exact AList.mem_lookup_iff.symm

theorem collect_insert (k : κ) (v : ν) :
    collect (AList.insert k v m) f = f k v ++ collect (AList.erase k m) f := rfl

theorem collect_erase {k : κ} {v : ν} (h : m.lookup k = some v) :
    (collect m f).Perm (f k v ++ collect (AList.erase k m) f) := by
  have hperm : m.entries.Perm (AList.insert k v m).entries := by
    refine List.lookup_ext m.nodupKeys (AList.insert k v m).nodupKeys ?_
    intro j w
    have hl := lookup_insert m k j v
    change w ∈ m.lookup j ↔ w ∈ (AList.insert k v m).lookup j
    rw [hl]
    split
    · rw [‹j = k›, h]
    · rfl
  exact hperm.flatMap_right _

end Collect

theorem lookup_foldl_insert (as : List (κ × ν)) (m : Table κ ν) (k : κ) :
    (k ∉ as.map Prod.fst ∧ (as.foldl (fun m a => AList.insert a.1 a.2 m) m).lookup k = m.lookup k) ∨
      ∃ v, (k, v) ∈ as ∧ (as.foldl (fun m a => AList.insert a.1 a.2 m) m).lookup k = some v := by
  induction as generalizing m with
  | nil => exact .inl ⟨List.not_mem_nil, rfl⟩
  | cons a as ih =>
      rw [List.foldl_cons]
      obtain ⟨hnot, hl⟩ | ⟨v, hmem, hl⟩ := ih (AList.insert a.1 a.2 m)
      · rw [lookup_insert] at hl
        split at hl
        · rename_i hk
          exact .inr ⟨a.2, by rw [hk]; exact List.mem_cons_self, hl⟩
        · rename_i hk
          refine .inl ⟨?_, hl⟩
          rw [List.map_cons, List.mem_cons, not_or]
          exact ⟨hk, hnot⟩
      · exact .inr ⟨v, List.mem_cons_of_mem a hmem, hl⟩

theorem lookup_foldl_insert_perm {as : List (κ × ν)} {m : Table κ ν}
    (h : (as.map (fun a => ⟨a.1, a.2⟩)).Perm m.entries) (k : κ) :
    (as.foldl (fun m a => AList.insert a.1 a.2 m) (∅ : Table κ ν)).lookup k = m.lookup k := by
  have hmem {k : κ} {v : ν} : (k, v) ∈ as ↔ m.lookup k = some v := by
    rw [← Option.mem_def, AList.mem_lookup_iff, ← h.mem_iff]
    simp
  obtain ⟨hnot, hl⟩ | ⟨v, hv, hl⟩ := lookup_foldl_insert as ∅ k
  · rw [hl, AList.lookup_empty, eq_comm, Option.eq_none_iff_forall_ne_some]
    intro v hv
    exact hnot (List.mem_map.mpr ⟨_, hmem.mpr hv, rfl⟩)
  · exact hl.trans (hmem.mp hv).symm

/-- The values of each key, in their order. -/
def group (ps : List (κ × ν)) : Table κ (List ν) :=
  ps.foldl (fun m p => AList.insert p.1 ((m.lookup p.1).getD [] ++ [p.2]) m) ∅

theorem lookup_group (ps : List (κ × ν)) (k : κ) :
    (group ps).lookup k =
      if k ∈ ps.map Prod.fst then some ((ps.filter (fun p => p.1 = k)).map Prod.snd) else none := by
  induction ps using List.reverseRecOn with
  | nil => rfl
  | append_singleton ps p ih =>
      have hlast : group (ps ++ [p]) = AList.insert p.1 (((group ps).lookup p.1).getD [] ++ [p.2]) (group ps) := by
        rw [group, List.foldl_append]
        rfl
      rw [hlast, lookup_insert]
      by_cases hk : k = p.1
      · subst hk
        rw [ih]
        by_cases hmem : p.1 ∈ ps.map Prod.fst
        · simp [hmem]
        · have hnone : ps.filter (fun q => q.1 = p.1) = [] := by
            rw [List.filter_eq_nil_iff]
            intro q hq he
            exact hmem (List.mem_map.mpr ⟨q, hq, of_decide_eq_true he⟩)
          simp [hmem, hnone]
      · have hrest : [p].filter (fun q => q.1 = k) = [] := by simp [Ne.symm hk]
        rw [if_neg hk, ih, List.map_append, List.filter_append, hrest, List.append_nil]
        simp only [List.mem_append, List.map_singleton, List.mem_singleton, hk, or_false]

end Table

end Nightjar.Lib
