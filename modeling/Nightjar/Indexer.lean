import Nightjar.Util
import Nightjar.Lib.KeyedStore

namespace Nightjar

open Lib

/-- `indexer.Indexer`: the constraints, filed by UID only. -/
structure Indexer where
  byUID : KeyedStore Constraint.uid

inductive EventType where
  | upsert
  | delete
deriving DecidableEq, Repr

structure IndexEvent where
  type : EventType
  constraint : Constraint

inductive Mutation where
  | upsert (c : Constraint)
  | delete (uid : UID)
  | deleteBySource (gvr : GVR)

def matchesNamespace (c : Constraint) (ns : String) : Bool :=
  decide (c.ns = "") || decide (c.ns = ns) || decide (ns ∈ c.affectedNamespaces)

namespace Indexer

def new : Indexer := ⟨.empty⟩

def all (idx : Indexer) : List Constraint := idx.byUID.values

def byNamespace (idx : Indexer) (ns : String) : List Constraint := idx.all.filter (matchesNamespace · ns)

def byLabels [LabelSelectors] (idx : Indexer) (ns : String) (workloadLabels : List (String × String)) :
    List Constraint :=
  idx.all.filter (fun c => matchesNamespace c ns && Util.matchesLabelSelector c.workloadSelector workloadLabels)

def bySourceGVR (idx : Indexer) (gvr : GVR) : List Constraint := idx.all.filter (fun c => decide (c.source = gvr))

/-- `Upsert`, with the events handed to the change callback. -/
def upsert (idx : Indexer) (c : Constraint) : Indexer × List IndexEvent :=
  (⟨idx.byUID.upsert c⟩, [⟨.upsert, c⟩])

def delete (idx : Indexer) (uid : UID) : Indexer × List IndexEvent :=
  match idx.byUID.lookup uid with
  | none => (idx, [])
  | some c => (⟨idx.byUID.delete uid⟩, [⟨.delete, c⟩])

def deleteBySource (idx : Indexer) (gvr : GVR) : Indexer × List IndexEvent :=
  let deleted := idx.bySourceGVR gvr
  (⟨idx.byUID.deleteAll (deleted.map Constraint.uid)⟩, deleted.map (⟨.delete, ·⟩))

def apply (idx : Indexer) : Mutation → Indexer × List IndexEvent
  | .upsert c => idx.upsert c
  | .delete uid => idx.delete uid
  | .deleteBySource gvr => idx.deleteBySource gvr

def applyAll (idx : Indexer) (ms : List Mutation) : Indexer := ms.foldl (fun idx m => (idx.apply m).1) idx

@[simp] theorem all_new : new.all = [] := rfl

theorem mem_all {idx : Indexer} {c : Constraint} : c ∈ idx.all ↔ idx.byUID.lookup c.uid = some c :=
  KeyedStore.mem_values

theorem nodup_all (idx : Indexer) : idx.all.Nodup := idx.byUID.nodup_values

theorem nodup_byNamespace (idx : Indexer) (ns : String) : (idx.byNamespace ns).Nodup :=
  idx.nodup_all.filter _

theorem nodup_bySourceGVR (idx : Indexer) (gvr : GVR) : (idx.bySourceGVR gvr).Nodup :=
  idx.nodup_all.filter _

theorem mem_byNamespace {idx : Indexer} {ns : String} {c : Constraint} :
    c ∈ idx.byNamespace ns ↔ c ∈ idx.all ∧ matchesNamespace c ns = true := by
  simp [byNamespace]

theorem byLabels_eq [LabelSelectors] (idx : Indexer) (ns : String) (workloadLabels : List (String × String)) :
    idx.byLabels ns workloadLabels =
      (idx.byNamespace ns).filter (fun c => Util.matchesLabelSelector c.workloadSelector workloadLabels) := by
  rw [byLabels, byNamespace, List.filter_filter]
  exact List.filter_congr fun c _ => Bool.and_comm ..

/-- The view of a namespace has changed when a constraint that matches it has
appeared or disappeared. -/
theorem byNamespace_perm_iff {idx idx' : Indexer} {ns : String} :
    (idx.byNamespace ns).Perm (idx'.byNamespace ns) ↔
      ∀ c, matchesNamespace c ns = true → (c ∈ idx.all ↔ c ∈ idx'.all) := by
  rw [List.perm_ext_iff_of_nodup (idx.nodup_byNamespace ns) (idx'.nodup_byNamespace ns)]
  simp only [mem_byNamespace]
  exact forall_congr' fun c => and_congr_left_iff

@[simp] theorem applyAll_nil (idx : Indexer) : idx.applyAll [] = idx := rfl

@[simp] theorem applyAll_cons (idx : Indexer) (m : Mutation) (ms : List Mutation) :
    idx.applyAll (m :: ms) = (idx.apply m).1.applyAll ms := rfl

theorem applyAll_concat (idx : Indexer) (ms : List Mutation) (m : Mutation) :
    idx.applyAll (ms ++ [m]) = ((idx.applyAll ms).apply m).1 := by
  rw [applyAll, List.foldl_append]
  rfl

theorem byUID_delete (idx : Indexer) (uid : UID) (k : UID) :
    (idx.delete uid).1.byUID.lookup k = if k = uid then none else idx.byUID.lookup k := by
  rw [delete]
  split
  · rename_i h
    split
    · rename_i hk
      rw [hk, h]
    · rfl
  · exact idx.byUID.lookup_delete uid k

theorem mem_bySourceGVR {idx : Indexer} {gvr : GVR} {c : Constraint} :
    c ∈ idx.bySourceGVR gvr ↔ c ∈ idx.all ∧ c.source = gvr := by
  simp [bySourceGVR]

theorem lookup_deleteBySource (idx : Indexer) (gvr : GVR) (k : UID) :
    (idx.deleteBySource gvr).1.byUID.lookup k =
      if k ∈ (idx.bySourceGVR gvr).map Constraint.uid then none else idx.byUID.lookup k :=
  idx.byUID.lookup_deleteAll _ k

theorem filter_deleteBySource (idx : Indexer) (gvr : GVR) (k : UID) :
    (idx.deleteBySource gvr).1.byUID.lookup k = (idx.byUID.lookup k).filter (fun c => !decide (c.source = gvr)) := by
  rw [lookup_deleteBySource]
  cases hl : idx.byUID.lookup k with
  | none => simp
  | some c =>
      have hk := KeyedStore.key_of_lookup hl
      have hdeleted : k ∈ (idx.bySourceGVR gvr).map Constraint.uid ↔ c.source = gvr := by
        simp only [List.mem_map, mem_bySourceGVR, mem_all]
        constructor
        · rintro ⟨c', ⟨hl', hs⟩, rfl⟩
          cases hl.symm.trans hl'
          exact hs
        · exact fun hs => ⟨c, ⟨hk ▸ hl, hs⟩, hk⟩
      by_cases hs : c.source = gvr <;> simp [hdeleted, hs, Option.filter_some]

theorem mem_all_deleteBySource {idx : Indexer} {gvr : GVR} {c : Constraint} :
    c ∈ (idx.deleteBySource gvr).1.all ↔ c ∈ idx.all ∧ c.source ≠ gvr := by
  rw [mem_all, filter_deleteBySource, Option.filter_eq_some_iff, mem_all]
  simp

/-- The only constraint a mutation adds is the one it upserts. -/
theorem mem_all_of_mem_apply {idx : Indexer} {m : Mutation} {c : Constraint} (h : c ∈ (idx.apply m).1.all) :
    c ∈ idx.all ∨ m = .upsert c := by
  cases m with
  | upsert d =>
      rw [mem_all, apply, upsert, KeyedStore.lookup_upsert] at h
      split at h
      · cases h
        exact .inr rfl
      · exact .inl (mem_all.mpr h)
  | delete uid =>
      rw [mem_all, apply, byUID_delete] at h
      split at h
      · cases h
      · exact .inl (mem_all.mpr h)
  | deleteBySource gvr => exact .inl (mem_all_deleteBySource.mp h).1

theorem applyAll_upsert (idx : Indexer) (cs : List Constraint) :
    (idx.applyAll (cs.map .upsert)).byUID = idx.byUID.upsertAll cs := by
  induction cs generalizing idx with
  | nil => rfl
  | cons c cs ih => exact ih (idx.upsert c).1

theorem lookup_applyAll_delete (idx : Indexer) (uids : List UID) (k : UID) :
    (idx.applyAll (uids.map .delete)).byUID.lookup k = if k ∈ uids then none else idx.byUID.lookup k := by
  induction uids generalizing idx with
  | nil => simp
  | cons uid uids ih =>
      rw [List.map_cons, applyAll_cons, ih, apply, byUID_delete]
      by_cases hk : k = uid <;> by_cases hm : k ∈ uids <;> simp [hk, hm]

end Indexer

end Nightjar
