import Mathlib.Data.List.AList
import Mathlib.Data.List.Forall2
import Mathlib.Data.List.Perm.Subperm

namespace Nightjar.Lib

variable {κ ν : Type} [DecidableEq κ]

theorem map_eq_of_forall₂ {α β γ : Type} {R : α → β → Prop} {f : α → γ} {g : β → γ} (hr : ∀ a b, R a b → g b = f a)
    {xs : List α} {ys : List β} (h : List.Forall₂ R xs ys) : ys.map g = xs.map f := by
  induction h with
  | nil => rfl
  | cons hab _ ih => rw [List.map_cons, List.map_cons, hr _ _ hab, ih]

/-- A finite map in which every value is filed under the key computed from it. -/
structure KeyedStore (key : ν → κ) where
  entries : AList (fun _ : κ => ν)
  keyed : ∀ k v, v ∈ entries.lookup k → key v = k

namespace KeyedStore

variable {key : ν → κ}

def empty : KeyedStore key := ⟨∅, by simp⟩

def lookup (s : KeyedStore key) (k : κ) : Option ν := s.entries.lookup k

def upsert (s : KeyedStore key) (v : ν) : KeyedStore key where
  entries := s.entries.insert (key v) v
  keyed k w hw := by
    by_cases hk : k = key v
    · subst hk
      rw [AList.lookup_insert, Option.mem_some_iff] at hw
      rw [hw]
    · rw [AList.lookup_insert_ne hk] at hw
      exact s.keyed k w hw

def delete (s : KeyedStore key) (k : κ) : KeyedStore key where
  entries := s.entries.erase k
  keyed j w hw := by
    by_cases hj : j = k
    · subst hj
      simp at hw
    · rw [AList.lookup_erase_ne hj] at hw
      exact s.keyed j w hw

def values (s : KeyedStore key) : List ν := s.entries.entries.map (·.2)

def upsertAll (s : KeyedStore key) (vs : List ν) : KeyedStore key := vs.foldl upsert s

def deleteAll (s : KeyedStore key) (ks : List κ) : KeyedStore key := ks.foldl delete s

@[simp] theorem lookup_empty (k : κ) : (empty : KeyedStore key).lookup k = none := AList.lookup_empty k

theorem lookup_upsert (s : KeyedStore key) (v : ν) (k : κ) :
    (s.upsert v).lookup k = if key v = k then some v else s.lookup k := by
  by_cases hk : key v = k
  · subst hk
    simp [lookup, upsert]
  · simp [lookup, upsert, AList.lookup_insert_ne (Ne.symm hk), hk]

theorem lookup_delete (s : KeyedStore key) (k j : κ) :
    (s.delete k).lookup j = if j = k then none else s.lookup j := by
  by_cases hj : j = k
  · subst hj
    simp [lookup, delete]
  · simp [lookup, delete, AList.lookup_erase_ne hj, hj]

theorem key_of_lookup {s : KeyedStore key} {k : κ} {v : ν} (h : s.lookup k = some v) : key v = k :=
  s.keyed k v h

theorem mem_values {s : KeyedStore key} {v : ν} : v ∈ s.values ↔ s.lookup (key v) = some v := by
  rw [values, List.mem_map]
  constructor
  · rintro ⟨⟨k, w⟩, hm, rfl⟩
    have hl : w ∈ s.entries.lookup k := AList.mem_lookup_iff.mpr hm
    rw [s.keyed k w hl]
    exact hl
  · intro h
    exact ⟨⟨key v, v⟩, AList.mem_lookup_iff.mp h, rfl⟩

theorem map_key_values (s : KeyedStore key) : s.values.map key = s.entries.keys := by
  rw [values, List.map_map, AList.keys, List.keys]
  apply List.map_congr_left
  rintro ⟨k, v⟩ hm
  exact s.keyed k v (AList.mem_lookup_iff.mpr hm)

theorem nodup_map_key (s : KeyedStore key) : (s.values.map key).Nodup := by
  rw [map_key_values]
  exact s.entries.keys_nodup

theorem nodup_values (s : KeyedStore key) : s.values.Nodup := s.nodup_map_key.of_map key

@[simp] theorem upsertAll_nil (s : KeyedStore key) : s.upsertAll [] = s := rfl

@[simp] theorem upsertAll_cons (s : KeyedStore key) (v : ν) (vs : List ν) :
    s.upsertAll (v :: vs) = (s.upsert v).upsertAll vs := rfl

theorem upsertAll_append (s : KeyedStore key) (vs ws : List ν) :
    s.upsertAll (vs ++ ws) = (s.upsertAll vs).upsertAll ws := by
  simp [upsertAll, List.foldl_append]

@[simp] theorem deleteAll_nil (s : KeyedStore key) : s.deleteAll [] = s := rfl

@[simp] theorem deleteAll_cons (s : KeyedStore key) (k : κ) (ks : List κ) :
    s.deleteAll (k :: ks) = (s.delete k).deleteAll ks := rfl

theorem lookup_upsertAll (s : KeyedStore key) (vs : List ν) (k : κ) :
    (s.upsertAll vs).lookup k = (vs.reverse.find? (fun v => key v = k)).or (s.lookup k) := by
  induction vs generalizing s with
  | nil => simp
  | cons v vs ih =>
      rw [upsertAll_cons, ih, List.reverse_cons, List.find?_append, lookup_upsert]
      by_cases hk : key v = k <;> simp [hk]

theorem lookup_upsertAll_of_notMem (s : KeyedStore key) {vs : List ν} {k : κ}
    (h : k ∉ vs.map key) : (s.upsertAll vs).lookup k = s.lookup k := by
  have hn : vs.reverse.find? (fun v => key v = k) = none := by
    rw [List.find?_eq_none]
    intro v hv
    simp only [decide_eq_true_eq]
    intro he
    exact h (List.mem_map.mpr ⟨v, List.mem_reverse.mp hv, he⟩)
  rw [lookup_upsertAll, hn, Option.none_or]

theorem lookup_upsertAll_of_mem (s : KeyedStore key) {vs : List ν} {k : κ}
    (h : k ∈ vs.map key) : ∃ v ∈ vs, key v = k ∧ (s.upsertAll vs).lookup k = some v := by
  obtain ⟨w, hw, hk⟩ := List.mem_map.mp h
  cases hf : vs.reverse.find? (fun v => key v = k) with
  | none =>
      rw [List.find?_eq_none] at hf
      exact absurd hk (by simpa using hf w (List.mem_reverse.mpr hw))
  | some v =>
      refine ⟨v, List.mem_reverse.mp (List.mem_of_find?_eq_some hf), ?_, ?_⟩
      · simpa using List.find?_some hf
      · rw [lookup_upsertAll, hf, Option.some_or]

theorem lookup_deleteAll (s : KeyedStore key) (ks : List κ) (j : κ) :
    (s.deleteAll ks).lookup j = if j ∈ ks then none else s.lookup j := by
  induction ks generalizing s with
  | nil => simp
  | cons k ks ih =>
      rw [deleteAll_cons, ih, lookup_delete]
      by_cases hj : j = k <;> by_cases hm : j ∈ ks <;> simp [hj, hm]

theorem lookup_upsertAll_of_nodup (s : KeyedStore key) {vs : List ν} (hn : (vs.map key).Nodup)
    {v : ν} (hv : v ∈ vs) : (s.upsertAll vs).lookup (key v) = some v := by
  obtain ⟨w, hw, hk, hl⟩ := s.lookup_upsertAll_of_mem (List.mem_map_of_mem (f := key) hv)
  rw [hl, List.inj_on_of_nodup_map hn hw hv hk]

/-- A batch of writes survives as a whole, duplicates counted, exactly when no
two of its values share a key. -/
theorem subperm_values_upsertAll (s : KeyedStore key) (vs : List ν) :
    vs.Subperm (s.upsertAll vs).values ↔ (vs.map key).Nodup := by
  constructor
  · rintro ⟨ws, hp, hs⟩
    have hw : (ws.map key).Nodup := (hs.map key).nodup (s.upsertAll vs).nodup_map_key
    exact (hp.map key).nodup_iff.mp hw
  · intro hn
    apply List.subperm_of_subset (hn.of_map key)
    intro v hv
    exact mem_values.mpr (s.lookup_upsertAll_of_nodup hn hv)

section Origin
variable (s : KeyedStore key) {p : ν → Bool} (hs : ∀ v ∈ s.values, p v = false)
include hs

theorem lookup_upsertAll_of_origin {vs : List ν} {k : κ} {v : ν} (hl : (s.upsertAll vs).lookup k = some v)
    (hp : p v = true) : v ∈ vs := by
  by_cases hk : k ∈ vs.map key
  · obtain ⟨w, hw, _, hlw⟩ := s.lookup_upsertAll_of_mem hk
    rw [hlw] at hl
    cases hl
    exact hw
  · rw [s.lookup_upsertAll_of_notMem hk] at hl
    have hv : v ∈ s.values := by
      rw [mem_values, key_of_lookup hl]
      exact hl
    rw [hs v hv] at hp
    cases hp

/-- After the batches `vs` and `ws` of one origin the store holds exactly `ws` of
that origin when `ws` has distinct keys and writes to every key of `vs`. -/
theorem filter_values_perm_iff {vs ws : List ν} (hvs : ∀ v ∈ vs, p v = true) (hws : ∀ w ∈ ws, p w = true) :
    (((s.upsertAll vs).upsertAll ws).values.filter p).Perm ws ↔
      (ws.map key).Nodup ∧ ∀ v ∈ vs, key v ∈ ws.map key := by
  rw [← upsertAll_append]
  constructor
  · intro hperm
    refine ⟨?_, ?_⟩
    · rw [← (hperm.map key).nodup_iff]
      exact (s.upsertAll (vs ++ ws)).nodup_map_key.sublist (List.filter_sublist.map key)
    · intro v hv
      have hk : key v ∈ (vs ++ ws).map key := List.mem_map_of_mem (List.mem_append_left ws hv)
      obtain ⟨w, hw, hkw, hl⟩ := s.lookup_upsertAll_of_mem hk
      have hpw : p w = true := (List.mem_append.mp hw).elim (hvs w) (hws w)
      have hval : w ∈ (s.upsertAll (vs ++ ws)).values := by
        rw [mem_values, hkw]
        exact hl
      rw [← hkw]
      exact List.mem_map_of_mem (hperm.mem_iff.mp (List.mem_filter.mpr ⟨hval, hpw⟩))
  · rintro ⟨hn, hcover⟩
    apply (List.perm_ext_iff_of_nodup ((s.upsertAll (vs ++ ws)).nodup_values.filter p) (hn.of_map key)).mpr
    intro c
    rw [List.mem_filter, mem_values]
    constructor
    · rintro ⟨hl, hpc⟩
      have hkey : key c ∈ ws.map key := (List.mem_append.mp (s.lookup_upsertAll_of_origin hs hl hpc)).elim
        (hcover c) (fun hw => List.mem_map_of_mem hw)
      obtain ⟨w, hw, _, hlw⟩ := (s.upsertAll vs).lookup_upsertAll_of_mem hkey
      rw [upsertAll_append, hlw] at hl
      cases hl
      exact hw
    · intro hc
      rw [upsertAll_append]
      exact ⟨(s.upsertAll vs).lookup_upsertAll_of_nodup hn hc, hws c hc⟩

end Origin

/-- Deleting the keys `ks` removes all that a batch of writes left behind
exactly when every key of the batch is among them. -/
theorem deleteAll_upsertAll_clean_iff (s : KeyedStore key) (vs : List ν) (ks : List κ) :
    (∀ v ∈ vs, v ∉ ((s.upsertAll vs).deleteAll ks).values) ↔ ∀ v ∈ vs, key v ∈ ks := by
  constructor
  · intro hclean v hv
    by_contra hk
    obtain ⟨w, hw, hkw, hl⟩ := s.lookup_upsertAll_of_mem (List.mem_map_of_mem (f := key) hv)
    apply hclean w hw
    rw [mem_values, lookup_deleteAll, hkw, if_neg hk]
    exact hl
  · intro hcover v hv hval
    rw [mem_values, lookup_deleteAll, if_pos (hcover v hv)] at hval
    cases hval

section Related
variable {R : ν → ν → Prop}

/-- Two stores that agree position by position, up to `R`. -/
def Related (R : ν → ν → Prop) (s t : KeyedStore key) : Prop :=
  List.Forall₂ (fun e e' => e'.1 = e.1 ∧ R e.2 e'.2) s.entries.entries t.entries.entries

variable {s t : KeyedStore key}

theorem Related.values (h : s.Related R t) : List.Forall₂ R s.values t.values := by
  rw [KeyedStore.values, KeyedStore.values, List.forall₂_map_left_iff, List.forall₂_map_right_iff]
  exact h.imp fun _ _ he => he.2

theorem Related.delete (h : s.Related R t) (k : κ) : (s.delete k).Related R (t.delete k) := by
  have hkerase {es es' : List (Sigma fun _ : κ => ν)}
      (hes : List.Forall₂ (fun e e' => e'.1 = e.1 ∧ R e.2 e'.2) es es') :
      List.Forall₂ (fun e e' => e'.1 = e.1 ∧ R e.2 e'.2) (es.kerase k) (es'.kerase k) := by
    induction hes with
    | nil => exact .nil
    | @cons e e' es es' he hrest ih =>
        by_cases hk : k = e.1
        · rw [List.kerase_cons_eq hk, List.kerase_cons_eq (hk.trans he.1.symm)]
          exact hrest
        · rw [List.kerase_cons_ne hk, List.kerase_cons_ne (he.1 ▸ hk)]
          exact .cons he ih
  exact hkerase h

theorem Related.upsert (h : s.Related R t) {v w : ν} (hkey : key w = key v) (hr : R v w) :
    (s.upsert v).Related R (t.upsert w) := by
  have hrest : List.Forall₂ (fun e e' => e'.1 = e.1 ∧ R e.2 e'.2) (s.entries.entries.kerase (key v))
      (t.entries.entries.kerase (key w)) := by
    rw [hkey]
    exact h.delete (key v)
  exact .cons ⟨hkey, hr⟩ hrest

theorem Related.deleteAll (h : s.Related R t) (ks : List κ) : (s.deleteAll ks).Related R (t.deleteAll ks) := by
  induction ks generalizing s t with
  | nil => exact h
  | cons k ks ih => exact ih (h.delete k)

theorem Related.isSome_lookup (h : s.Related R t) (k : κ) : (t.lookup k).isSome = (s.lookup k).isSome := by
  have hkeys : t.entries.keys = s.entries.keys := map_eq_of_forall₂ (fun _ _ he => he.1) h
  rw [Bool.eq_iff_iff, KeyedStore.lookup, KeyedStore.lookup, AList.lookup_isSome, AList.lookup_isSome, AList.mem_keys,
    AList.mem_keys, hkeys]

end Related

end KeyedStore

end Nightjar.Lib
