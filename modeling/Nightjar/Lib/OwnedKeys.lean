import Mathlib.Data.List.Induction
import Nightjar.Lib.KeyedStore

namespace Nightjar.Lib.KeyedStore

/-- A change to a store that several owners share. -/
inductive Change (ο κ ν : Type) where
  | put (o : ο) (vs : List ν)
  | remove (o : ο) (ks : List κ)

variable {κ ν ο : Type} {key : ν → κ}

theorem values_perm_map [DecidableEq κ] {ν' : Type} {key' : ν' → κ} {s : KeyedStore key} {s' : KeyedStore key'}
    (f : ν → ν') (h : ∀ k, s'.lookup k = (s.lookup k).map f) : s'.values.Perm (s.values.map f) := by
  have hkey {v : ν} (hv : v ∈ s.values) : key' (f v) = key v := by
    have hl := h (key v)
    rw [mem_values.mp hv] at hl
    exact key_of_lookup hl
  have hnodup : (s.values.map f).Nodup := by
    have hkeys : (s.values.map f).map key' = s.values.map key := by
      rw [List.map_map]
      exact List.map_congr_left fun v hv => hkey hv
    exact (hkeys ▸ s.nodup_map_key).of_map key'
  rw [List.perm_ext_iff_of_nodup s'.nodup_values hnodup]
  intro w
  rw [mem_values, h, Option.map_eq_some_iff, List.mem_map]
  constructor
  · rintro ⟨v, hl, hf⟩
    exact ⟨v, mem_values.mpr (key_of_lookup hl ▸ hl), hf⟩
  · rintro ⟨v, hv, rfl⟩
    exact ⟨v, hkey hv ▸ mem_values.mp hv, rfl⟩

namespace Change

def owner : Change ο κ ν → ο
  | put o _ | remove o _ => o

def keys (key : ν → κ) : Change ο κ ν → List κ
  | put _ vs => vs.map key
  | remove _ ks => ks

variable [DecidableEq κ]

def apply (s : KeyedStore key) : Change ο κ ν → KeyedStore key
  | put _ vs => s.upsertAll vs
  | remove _ ks => s.deleteAll ks

theorem lookup_apply_of_notMem (s : KeyedStore key) {c : Change ο κ ν} {k : κ} (h : k ∉ c.keys key) :
    (c.apply s).lookup k = s.lookup k := by
  cases c with
  | put o vs => exact lookup_upsertAll_of_notMem s h
  | remove o ks => exact (lookup_deleteAll s ks k).trans (if_neg h)

theorem lookup_apply_of_mem (s s' : KeyedStore key) {c : Change ο κ ν} {k : κ} (h : k ∈ c.keys key) :
    (c.apply s).lookup k = (c.apply s').lookup k := by
  cases c with
  | put o vs =>
      obtain ⟨v, hv, hk, -⟩ := lookup_upsertAll_of_mem s h
      rw [apply, apply, lookup_upsertAll, lookup_upsertAll]
      cases hfind : vs.reverse.find? (fun v => key v = k) with
      | none => exact absurd (decide_eq_true hk) (List.find?_eq_none.mp hfind v (List.mem_reverse.mpr hv))
      | some w => rfl
  | remove o ks =>
      have hmem : k ∈ ks := h
      rw [apply, apply, lookup_deleteAll, lookup_deleteAll, if_pos hmem, if_pos hmem]

theorem lookup_apply_congr {s s' : KeyedStore key} (h : ∀ k, s.lookup k = s'.lookup k) (c : Change ο κ ν) (k : κ) :
    (c.apply s).lookup k = (c.apply s').lookup k := by
  by_cases hmem : k ∈ c.keys key
  · exact lookup_apply_of_mem s s' hmem
  · rw [lookup_apply_of_notMem s hmem, lookup_apply_of_notMem s' hmem, h]

end Change

/-- Every change uses keys of its owner, and no two owners have a key in common. -/
structure Private (key : ν → κ) (owns : ο → κ → Prop) (cs : List (Change ο κ ν)) : Prop where
  keys : ∀ c ∈ cs, ∀ k ∈ c.keys key, owns c.owner k
  apart : ∀ c ∈ cs, ∀ o k, owns c.owner k → owns o k → c.owner = o

/-- An owner always uses the same keys, each for one value. -/
structure Steady (key : ν → κ) (cs : List (Change ο κ ν)) : Prop where
  nodup : ∀ o vs, .put o vs ∈ cs → (vs.map key).Nodup
  covers : ∀ o vs, .put o vs ∈ cs → ∀ c ∈ cs, c.owner = o → vs.map key ⊆ c.keys key

variable {owns : ο → κ → Prop} {cs : List (Change ο κ ν)} {c : Change ο κ ν}

theorem Private.of_append (h : Private key owns (cs ++ [c])) : Private key owns cs :=
  ⟨fun c' hc' => h.keys c' (List.mem_append_left _ hc'), fun c' hc' => h.apart c' (List.mem_append_left _ hc')⟩

theorem Steady.of_append (h : Steady key (cs ++ [c])) : Steady key cs where
  nodup o vs hput := h.nodup o vs (List.mem_append_left _ hput)
  covers o vs hput c' hc' := h.covers o vs (List.mem_append_left _ hput) c' (List.mem_append_left _ hc')

section Run
variable [DecidableEq κ]

def run (s : KeyedStore key) (cs : List (Change ο κ ν)) : KeyedStore key := cs.foldl Change.apply s

theorem run_append (s : KeyedStore key) : run s (cs ++ [c]) = c.apply (run s cs) := by
  rw [run, List.foldl_append]
  rfl

theorem put_of_lookup_run {k : κ} {v : ν} (h : (run (.empty : KeyedStore key) cs).lookup k = some v) :
    ∃ o vs, .put o vs ∈ cs ∧ v ∈ vs := by
  induction cs using List.reverseRecOn with
  | nil => simp [run] at h
  | append_singleton cs c ih =>
      rw [run_append] at h
      have hbefore (hl : (run (.empty : KeyedStore key) cs).lookup k = some v) :
          ∃ o vs, .put o vs ∈ cs ++ [c] ∧ v ∈ vs := by
        obtain ⟨o, vs, hput, hv⟩ := ih hl
        exact ⟨o, vs, List.mem_append_left _ hput, hv⟩
      by_cases hmem : k ∈ c.keys key
      · cases c with
        | put o vs =>
            obtain ⟨w, hw, -, hl⟩ := lookup_upsertAll_of_mem (run .empty cs) hmem
            rw [Option.some.inj (h.symm.trans hl)]
            exact ⟨o, vs, List.mem_append_right _ List.mem_cons_self, hw⟩
        | remove o ks =>
            rw [Change.apply, lookup_deleteAll, if_pos (show k ∈ ks from hmem)] at h
            cases h
      · exact hbefore ((Change.lookup_apply_of_notMem _ hmem).symm.trans h)

theorem lookup_run_owner [DecidableEq ο] (h : Private key owns cs) (s : KeyedStore key) {o : ο} {k : κ}
    (hk : owns o k) : (run s cs).lookup k = (run s (cs.filter (fun c => c.owner = o))).lookup k := by
  induction cs using List.reverseRecOn with
  | nil => rfl
  | append_singleton cs c ih =>
      have hbefore := ih h.of_append
      have hlast : c ∈ cs ++ [c] := List.mem_append_right _ List.mem_cons_self
      rw [run_append, List.filter_append, List.filter_singleton]
      by_cases howner : c.owner = o
      · rw [decide_eq_true howner, cond_true, run_append]
        by_cases hmem : k ∈ c.keys key
        · exact Change.lookup_apply_of_mem _ _ hmem
        · rw [Change.lookup_apply_of_notMem _ hmem, Change.lookup_apply_of_notMem _ hmem, hbefore]
      · have hmem : k ∉ c.keys key := fun hmem => howner (h.apart c hlast o k (h.keys c hlast k hmem) hk)
        rw [decide_eq_false howner, cond_false, List.append_nil, Change.lookup_apply_of_notMem _ hmem, hbefore]

end Run

section Latest
variable [DecidableEq ο]

/-- The owners whose last change put something, each with what it put. -/
abbrev Live (ο ν : Type) [DecidableEq ο] := KeyedStore (Prod.fst : ο × List ν → ο)

def observe (live : Live ο ν) : Change ο κ ν → Live ο ν
  | .put o vs => live.upsert (o, vs)
  | .remove o _ => live.delete o

def latest (cs : List (Change ο κ ν)) : Live ο ν := cs.foldl observe .empty

theorem latest_append : latest (cs ++ [c]) = observe (latest cs) c := by
  rw [latest, List.foldl_append]
  rfl

theorem lookup_latest_ne {o : ο} (h : o ≠ c.owner) : (latest (cs ++ [c])).lookup o = (latest cs).lookup o := by
  rw [latest_append]
  cases c with
  | put o' vs => exact (lookup_upsert _ _ o).trans (if_neg (Ne.symm h))
  | remove o' ks => exact (lookup_delete _ o' o).trans (if_neg h)

theorem latest_owner {vs : List ν} (h : (latest (cs ++ [c])).lookup c.owner = some (c.owner, vs)) :
    c = .put c.owner vs := by
  rw [latest_append] at h
  cases c with
  | put o vs' =>
      rw [observe, lookup_upsert, Change.owner, if_pos rfl] at h
      cases h
      rfl
  | remove o ks =>
      rw [observe, lookup_delete, Change.owner, if_pos rfl] at h
      cases h

theorem put_of_latest {o : ο} {vs : List ν} (h : (latest cs).lookup o = some (o, vs)) : .put o vs ∈ cs := by
  induction cs using List.reverseRecOn with
  | nil =>
      rw [latest, List.foldl_nil, lookup_empty] at h
      cases h
  | append_singleton cs c ih =>
      by_cases ho : o = c.owner
      · subst ho
        rw [← latest_owner h]
        exact List.mem_append_right _ List.mem_cons_self
      · rw [lookup_latest_ne ho] at h
        exact List.mem_append_left _ (ih h)

/-- The value was put by the last change of its owner. -/
def Standing (cs : List (Change ο κ ν)) (v : ν) : Prop := ∃ o vs, (latest cs).lookup o = some (o, vs) ∧ v ∈ vs

theorem Private.owns_of_latest (h : Private key owns cs) {o : ο} {vs : List ν} {v : ν}
    (hl : (latest cs).lookup o = some (o, vs)) (hv : v ∈ vs) : owns o (key v) :=
  h.keys _ (put_of_latest hl) _ (List.mem_map_of_mem hv)

theorem standing_append_of_notMem (hs : Steady key (cs ++ [c])) {v : ν} (h : key v ∉ c.keys key) :
    Standing (cs ++ [c]) v ↔ Standing cs v := by
  constructor
  · rintro ⟨o, vs, hl, hv⟩
    by_cases ho : o = c.owner
    · subst ho
      rw [latest_owner hl] at h
      exact absurd (List.mem_map_of_mem hv) h
    · rw [lookup_latest_ne ho] at hl
      exact ⟨o, vs, hl, hv⟩
  · rintro ⟨o, vs, hl, hv⟩
    have hne : o ≠ c.owner := by
      rintro rfl
      have hput := List.mem_append_left [c] (put_of_latest hl)
      exact h (hs.covers _ vs hput c (List.mem_append_right _ List.mem_cons_self) rfl (List.mem_map_of_mem hv))
    exact ⟨o, vs, (lookup_latest_ne hne).trans hl, hv⟩

theorem standing_append_of_mem (hp : Private key owns (cs ++ [c])) {v : ν} (h : key v ∈ c.keys key) :
    Standing (cs ++ [c]) v ↔ ∃ vs, c = .put c.owner vs ∧ v ∈ vs := by
  have hlast : c ∈ cs ++ [c] := List.mem_append_right _ List.mem_cons_self
  constructor
  · rintro ⟨o, vs, hl, hv⟩
    obtain rfl : c.owner = o := hp.apart c hlast o _ (hp.keys c hlast _ h) (hp.owns_of_latest hl hv)
    exact ⟨vs, latest_owner hl, hv⟩
  · rintro ⟨vs, hc, hv⟩
    refine ⟨c.owner, vs, ?_, hv⟩
    rw [latest_append, hc]
    exact (lookup_upsert _ _ _).trans (if_pos rfl)

variable [DecidableEq κ]

theorem exists_of_latest (hp : Private key owns cs) {o : ο} {vs : List ν} (hl : (latest cs).lookup o = some (o, vs))
    {k : κ} (hk : k ∈ vs.map key) :
    ∃ v ∈ vs, key v = k ∧ (run (.empty : KeyedStore key) cs).lookup k = some v := by
  induction cs using List.reverseRecOn with
  | nil =>
      rw [latest, List.foldl_nil, lookup_empty] at hl
      cases hl
  | append_singleton cs c ih =>
      rw [run_append]
      by_cases ho : o = c.owner
      · subst ho
        rw [latest_owner hl]
        exact lookup_upsertAll_of_mem _ hk
      · obtain ⟨w, hw, rfl⟩ := List.mem_map.mp hk
        have hlast : c ∈ cs ++ [c] := List.mem_append_right _ List.mem_cons_self
        have howns := hp.owns_of_latest hl hw
        have hmem : key w ∉ c.keys key := fun hmem => ho (hp.apart c hlast o _ (hp.keys c hlast _ hmem) howns).symm
        rw [lookup_latest_ne ho] at hl
        rw [Change.lookup_apply_of_notMem _ hmem]
        exact ih hp.of_append hl

theorem lookup_run_iff (hp : Private key owns cs) (hs : Steady key cs) (v : ν) :
    (run (.empty : KeyedStore key) cs).lookup (key v) = some v ↔ Standing cs v := by
  induction cs using List.reverseRecOn with
  | nil =>
      refine iff_of_false (by simp [run]) ?_
      rintro ⟨o, vs, hl, -⟩
      simp [latest] at hl
  | append_singleton cs c ih =>
      rw [run_append]
      by_cases hmem : key v ∈ c.keys key
      · rw [standing_append_of_mem hp hmem]
        cases c with
        | put o vs =>
            have hnodup := hs.nodup o vs (List.mem_append_right _ List.mem_cons_self)
            constructor
            · intro hl
              obtain ⟨w, hw, hkey, hlw⟩ := lookup_upsertAll_of_mem (run .empty cs) hmem
              rw [Option.some.inj (hl.symm.trans hlw)]
              exact ⟨vs, rfl, hw⟩
            · rintro ⟨vs', hc, hv⟩
              cases hc
              exact lookup_upsertAll_of_nodup _ hnodup hv
        | remove o ks =>
            have hmem : key v ∈ ks := hmem
            refine iff_of_false ?_ ?_
            · rw [Change.apply, lookup_deleteAll, if_pos hmem]
              exact (Option.some_ne_none v).symm
            · rintro ⟨vs, hc, -⟩
              cases hc
      · rw [Change.lookup_apply_of_notMem _ hmem, standing_append_of_notMem hs hmem]
        exact ih hp.of_append hs.of_append

theorem values_run_perm (hp : Private key owns cs) (hs : Steady key cs) :
    (run (.empty : KeyedStore key) cs).values.Perm ((latest cs).values.flatMap Prod.snd) := by
  have hput {e : ο × List ν} (he : e ∈ (latest cs).values) : .put e.1 e.2 ∈ cs := put_of_latest (mem_values.mp he)
  have howns {e : ο × List ν} (he : e ∈ (latest cs).values) {v : ν} (hv : v ∈ e.2) : owns e.1 (key v) :=
    hp.owns_of_latest (mem_values.mp he) hv
  have hnodup : ((latest cs).values.flatMap Prod.snd).Nodup := by
    refine List.nodup_flatMap.mpr ⟨fun e he => (hs.nodup e.1 e.2 (hput he)).of_map key, ?_⟩
    refine (List.pairwise_map.mp (latest cs).nodup_map_key).imp_of_mem ?_
    intro e e' he he' hne v hv hv'
    exact hne (hp.apart _ (hput he) e'.1 (key v) (howns he hv) (howns he' hv'))
  rw [List.perm_ext_iff_of_nodup (nodup_values _) hnodup]
  intro v
  rw [mem_values, lookup_run_iff hp hs, List.mem_flatMap]
  constructor
  · rintro ⟨o, vs, hl, hv⟩
    exact ⟨(o, vs), mem_values.mpr hl, hv⟩
  · rintro ⟨e, he, hv⟩
    exact ⟨e.1, e.2, mem_values.mp he, hv⟩

end Latest

end Nightjar.Lib.KeyedStore
