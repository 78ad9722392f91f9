import Nightjar.Discovery.Mirror
import Nightjar.Discovery.SyntheticUIDs
import Nightjar.Lib.OwnedKeys

namespace Nightjar.Discovery

open Adapters Lib Lib.Strings Apimachinery KeyedStore

/-- An event of the informer of a GVR, and the engine as its handler finds it. -/
structure Arrival (α : Type) where
  engine : Engine α
  order : engine.Order
  gvr : GVR
  event : InformerEvent

namespace Arrival

section Cluster

variable {α : Type} [Apimachinery]

def uid (a : Arrival α) : UID := getUID a.event.object

/-- The objects whose last event was not a deletion, with that event. -/
def observe (live : KeyedStore (uid : Arrival α → UID)) (a : Arrival α) : KeyedStore (uid : Arrival α → UID) :=
  match a.event with
  | .added _ | .updated _ => live.upsert a
  | .deleted _ | .tombstone _ => live.delete a.uid

def live (hs : List (Arrival α)) : KeyedStore (uid : Arrival α → UID) := hs.foldl observe .empty

variable [Unicode] [SlottedAdapter α]

def mutations (a : Arrival α) : List Mutation :=
  match a.event with
  | .added obj => a.engine.handleAdd a.order a.gvr (.unstructured obj)
  | .updated obj => a.engine.handleUpdate a.order a.gvr (.unstructured obj)
  | .deleted obj => a.engine.handleDelete a.order a.gvr (.unstructured obj)
  | .tombstone obj => a.engine.handleDelete a.order a.gvr (.deletedFinalStateUnknown (.unstructured obj))

def follow (idx : Indexer) (hs : List (Arrival α)) : Indexer := hs.foldl (fun idx a => idx.applyAll a.mutations) idx

def constraints (a : Arrival α) : List Constraint := a.engine.parsed a.order a.gvr a.event.object

def slots (a : Arrival α) : List Slot := (a.engine.route a.order a.gvr).slots a.event.object

def removed (a : Arrival α) : List UID :=
  ((a.engine.route a.order a.gvr).removedSlots a.event.object).map (Slot.uid a.uid)

/-- The event as a change of what its object owns in the index. -/
def change (a : Arrival α) : Change UID UID Constraint :=
  match a.event with
  | .added _ | .updated _ => .put a.uid a.constraints
  | .deleted _ | .tombstone _ => .remove a.uid a.removed

theorem owner_change (a : Arrival α) : a.change.owner = a.uid := by
  rw [change]
  split <;> rfl

theorem uid_constraints (a : Arrival α) : a.constraints.map Constraint.uid = a.slots.map (Slot.uid a.uid) :=
  a.engine.uid_parsed a.order a.gvr a.event.object

theorem originatesFrom_constraints (a : Arrival α) : ∀ c ∈ a.constraints, originatesFrom a.uid c = true :=
  a.engine.originatesFrom_parsed a.order a.gvr a.event.object

/-- The keys that belong to an object: its UID with a suffix. -/
def Owns (u k : UID) : Prop := Correlator.isUUID u = true ∧ ∃ s : Slot, k = s.uid u

omit [Apimachinery] [Unicode] in
theorem Owns.unique {u v k : UID} (hu : Owns u k) (hv : Owns v k) : u = v := by
  obtain ⟨huuid, s, hs⟩ := hu
  obtain ⟨hvuid, t, ht⟩ := hv
  by_contra hne
  exact slot_uid_ne huuid hvuid hne s t (hs.symm.trans ht)

theorem owns_keys {a : Arrival α} (huuid : Correlator.isUUID a.uid = true) {k : UID}
    (hk : k ∈ a.change.keys Constraint.uid) : Owns a.uid k := by
  have hput (h : k ∈ a.constraints.map Constraint.uid) : Owns a.uid k := by
    rw [uid_constraints] at h
    obtain ⟨s, -, rfl⟩ := List.mem_map.mp h
    exact ⟨huuid, s, rfl⟩
  have hremove (h : k ∈ a.removed) : Owns a.uid k := by
    obtain ⟨s, -, rfl⟩ := List.mem_map.mp h
    exact ⟨huuid, s, rfl⟩
  rw [change] at hk
  split at hk
  · exact hput hk
  · exact hput hk
  · exact hremove hk
  · exact hremove hk

theorem lookup_mutations {a : Arrival α} (hw : a.gvr ∈ a.engine.watchedGVRs) (idx : Indexer) (k : UID) :
    (idx.applyAll a.mutations).byUID.lookup k = (a.change.apply idx.byUID).lookup k := by
  have hput (obj : Unstructured) (hobj : obj = a.event.object) :
      (idx.applyAll (a.engine.handleAdd a.order a.gvr (.unstructured obj))).byUID.lookup k =
        (idx.byUID.upsertAll a.constraints).lookup k := by
    rw [Engine.handleAdd_watched _ _ _ _ hw, Indexer.applyAll_upsert, hobj]
    rfl
  have hremove (obj : Unstructured) (hobj : obj = a.event.object) :
      (idx.applyAll (a.engine.deleteObject a.order a.gvr obj)).byUID.lookup k =
        (idx.byUID.deleteAll a.removed).lookup k := by
    rw [Engine.deleteObject_eq, Indexer.lookup_applyAll_delete, lookup_deleteAll, hobj]
    rfl
  rw [mutations, change]
  split
  · exact hput _ (by rw [‹a.event = _›]; rfl)
  · exact hput _ (by rw [‹a.event = _›]; rfl)
  · exact hremove _ (by rw [‹a.event = _›]; rfl)
  · exact hremove _ (by rw [‹a.event = _›]; rfl)

theorem lookup_follow {hs : List (Arrival α)} (hw : ∀ a ∈ hs, a.gvr ∈ a.engine.watchedGVRs) (k : UID) :
    (follow .new hs).byUID.lookup k = (run (.empty : KeyedStore Constraint.uid) (hs.map change)).lookup k := by
  induction hs using List.reverseRecOn generalizing k with
  | nil => rfl
  | append_singleton hs a ih =>
      have hbefore := ih fun a ha => hw a (List.mem_append_left _ ha)
      rw [follow, List.foldl_append, List.map_append, List.map_singleton, run_append]
      exact (lookup_mutations (hw a (List.mem_append_right _ List.mem_cons_self)) _ k).trans
        (Change.lookup_apply_congr hbefore _ k)

theorem private_changes {hs : List (Arrival α)} (huuid : ∀ a ∈ hs, Correlator.isUUID a.uid = true) :
    Private Constraint.uid Owns (hs.map change) where
  keys c hc k hk := by
    obtain ⟨a, ha, rfl⟩ := List.mem_map.mp hc
    rw [owner_change]
    exact owns_keys (huuid a ha) hk
  apart _ _ _ _ hk hk' := hk.unique hk'

/-- Every version of an object fills the same places, each with one constraint. -/
structure SameSlots (hs : List (Arrival α)) : Prop where
  nodup : ∀ a ∈ hs, a.slots.Nodup
  same : ∀ a ∈ hs, ∀ a' ∈ hs, a.uid = a'.uid → a.slots ⊆ a'.slots

theorem constraints_of_put {a : Arrival α} {o : UID} {vs : List Constraint} (h : a.change = .put o vs) :
    vs = a.constraints ∧ o = a.uid := by
  rw [change] at h
  split at h <;> cases h <;> exact ⟨rfl, rfl⟩

theorem steady_changes {hs : List (Arrival α)} (h : SameSlots hs) : Steady Constraint.uid (hs.map change) where
  nodup o vs hput := by
    obtain ⟨a, ha, hchange⟩ := List.mem_map.mp hput
    rw [(constraints_of_put hchange).1, uid_constraints]
    exact (h.nodup a ha).map (Slot.uid_injective _)
  covers o vs hput c hc howner := by
    obtain ⟨a, ha, hchange⟩ := List.mem_map.mp hput
    obtain ⟨a', ha', rfl⟩ := List.mem_map.mp hc
    obtain ⟨rfl, rfl⟩ := constraints_of_put hchange
    rw [owner_change] at howner
    have hslots : a.slots ⊆ a'.slots := h.same a ha a' ha' howner.symm
    have hkeys : a.slots.map (Slot.uid a'.uid) ⊆ a'.constraints.map Constraint.uid := by
      rw [uid_constraints]
      exact List.map_subset _ hslots
    have hremoved : a.slots ⊆ (a'.engine.route a'.order a'.gvr).removedSlots a'.event.object := by
      intro s hs
      have hne : (a'.engine.route a'.order a'.gvr).slots a'.event.object ≠ [] := List.ne_nil_of_mem (hslots hs)
      rw [Route.removedSlots, if_neg hne]
      exact hslots hs
    rw [uid_constraints, ← howner, change]
    split
    · exact hkeys
    · exact hkeys
    · exact List.map_subset _ hremoved
    · exact List.map_subset _ hremoved

theorem lookup_latest (hs : List (Arrival α)) (u : UID) :
    (latest (hs.map change)).lookup u = ((live hs).lookup u).map (fun a => (a.uid, a.constraints)) := by
  induction hs using List.reverseRecOn with
  | nil => rfl
  | append_singleton hs a ih =>
      rw [List.map_append, List.map_singleton, latest_append, live, List.foldl_append, ← live]
      change _ = ((observe (live hs) a).lookup u).map _
      rw [change, observe]
      split
      all_goals simp only [KeyedStore.observe, lookup_upsert, lookup_delete, ih]
      all_goals split <;> rfl

theorem arrival_of_mem {hs : List (Arrival α)} (hw : ∀ a ∈ hs, a.gvr ∈ a.engine.watchedGVRs) {c : Constraint}
    (hc : c ∈ (follow .new hs).all) : ∃ a ∈ hs, c ∈ a.constraints := by
  rw [Indexer.mem_all, lookup_follow hw] at hc
  obtain ⟨o, vs, hput, hmem⟩ := put_of_lookup_run hc
  obtain ⟨a, ha, hchange⟩ := List.mem_map.mp hput
  exact ⟨a, ha, (constraints_of_put hchange).1 ▸ hmem⟩

theorem owns_of_origin {a : Arrival α} (huuid : Correlator.isUUID a.uid = true) {c : Constraint}
    (hc : c ∈ a.constraints) {u : UID} (horigin : originatesFrom u c = true) : Owns u c.uid := by
  have hu : a.uid = u := by
    have hself := originatesFrom_constraints a c hc
    rw [originatesFrom] at hself horigin
    cases hraw : c.rawObject with
    | none => simp [hraw] at hself
    | some obj =>
        simp only [hraw, decide_eq_true_eq] at hself horigin
        exact hself.symm.trans horigin
  have hkey := List.mem_map_of_mem (f := Constraint.uid) hc
  rw [uid_constraints] at hkey
  obtain ⟨s, -, hs⟩ := List.mem_map.mp hkey
  exact ⟨hu ▸ huuid, s, by rw [← hs, hu]⟩

/-- What the index holds of an object is what it would hold if there were no other object: the events
of the others do not matter, whatever GVRs they are of and whichever adapters parse them. -/
theorem objects_isolated {hs : List (Arrival α)} (hw : ∀ a ∈ hs, a.gvr ∈ a.engine.watchedGVRs)
    (huuid : ∀ a ∈ hs, Correlator.isUUID a.uid = true) (u : UID) :
    ((follow .new hs).all.filter (originatesFrom u)).Perm (follow .new (hs.filter (fun a => a.uid = u))).all := by
  have hsame {c : Constraint} (hc : Owns u c.uid) :
      c ∈ (follow .new hs).all ↔ c ∈ (follow .new (hs.filter (fun a => a.uid = u))).all := by
    have howner : (hs.map change).filter (fun c => c.owner = u) = (hs.filter (fun a => a.uid = u)).map change := by
      rw [List.filter_map]
      exact congrArg _ (List.filter_congr fun a _ => by rw [Function.comp_apply, owner_change])
    rw [Indexer.mem_all, Indexer.mem_all, lookup_follow hw, lookup_follow fun a ha => hw a (List.mem_of_mem_filter ha),
      lookup_run_owner (private_changes huuid) _ hc, howner]
  rw [List.perm_ext_iff_of_nodup ((Indexer.nodup_all _).filter _) (Indexer.nodup_all _)]
  intro c
  rw [List.mem_filter]
  constructor
  · rintro ⟨hc, horigin⟩
    obtain ⟨a, ha, hparsed⟩ := arrival_of_mem hw hc
    exact (hsame (owns_of_origin (huuid a ha) hparsed horigin)).mp hc
  · intro hc
    obtain ⟨a, ha, hparsed⟩ := arrival_of_mem (fun a ha => hw a (List.mem_of_mem_filter ha)) hc
    have hau : a.uid = u := by simpa using List.of_mem_filter ha
    have horigin := hau ▸ originatesFrom_constraints a c hparsed
    exact ⟨(hsame (owns_of_origin (huuid a (List.mem_of_mem_filter ha)) hparsed horigin)).mpr hc, horigin⟩

theorem exists_of_live {hs : List (Arrival α)} (hw : ∀ a ∈ hs, a.gvr ∈ a.engine.watchedGVRs)
    (huuid : ∀ a ∈ hs, Correlator.isUUID a.uid = true) {u : UID} {a : Arrival α} (hlive : (live hs).lookup u = some a)
    {k : UID} (hk : k ∈ a.constraints.map Constraint.uid) :
    ∃ c ∈ a.constraints, c.uid = k ∧ c ∈ (follow .new hs).all := by
  obtain rfl : a.uid = u := key_of_lookup hlive
  have hlatest := lookup_latest hs a.uid
  rw [hlive, Option.map_some] at hlatest
  obtain ⟨c, hc, rfl, hlookup⟩ := exists_of_latest (private_changes huuid) hlatest hk
  refine ⟨c, hc, rfl, ?_⟩
  rw [Indexer.mem_all, lookup_follow hw]
  exact hlookup

theorem index_mirrors_cluster {hs : List (Arrival α)} (hw : ∀ a ∈ hs, a.gvr ∈ a.engine.watchedGVRs)
    (huuid : ∀ a ∈ hs, Correlator.isUUID a.uid = true) (hslots : SameSlots hs) :
    (follow .new hs).all.Perm ((live hs).values.flatMap constraints) := by
  have hstore : (follow .new hs).all.Perm ((run .empty (hs.map change) : KeyedStore Constraint.uid).values) :=
    (values_perm_map id fun k => by rw [lookup_follow hw, Option.map_id_fun, id]).trans (.of_eq (List.map_id _))
  have hlive := values_perm_map _ (lookup_latest hs)
  refine hstore.trans ((values_run_perm (private_changes huuid) (steady_changes hslots)).trans ?_)
  exact (hlive.flatMap_right _).trans (.of_eq (List.flatMap_map _ _ _))

end Cluster

section Samples
attribute [local instance] Apimachinery.model asciiTables

def of (g : GVR) (event : InformerEvent) : Arrival Builtin := ⟨watching g, default, g, event⟩

def limitRange (first : Obj) : Unstructured :=
  uidObject (getUID twoLimits.object) [("limits", .slice [.map first, .map []])]

def mixedHistory : List (Arrival Builtin) :=
  [of LimitRange.gvr (.added (limitRange [])), of unknownPolicy.gvr (.added unknownPolicy.object),
    of LimitRange.gvr (.updated (limitRange [("type", .str "Pod")])),
    of unknownPolicy.gvr (.tombstone unknownPolicy.object)]

theorem watched_mixedHistory : ∀ a ∈ mixedHistory, a.gvr ∈ a.engine.watchedGVRs := by
  simp [mixedHistory, of, mem_watching]

theorem isUUID_mixedHistory : ∀ a ∈ mixedHistory, Correlator.isUUID a.uid = true := by
  simp only [mixedHistory, List.forall_mem_cons]
  exact ⟨by decide, by decide, by decide, by decide, by simp⟩

theorem slots_mixedHistory : ∀ a ∈ mixedHistory,
    a.slots = if a.uid = getUID twoLimits.object then [.entry 0, .entry 1] else [.whole] := by
  simp only [mixedHistory, List.forall_mem_cons]
  exact ⟨rfl, by decide, rfl, by decide, by simp⟩

theorem sameSlots_mixedHistory : SameSlots mixedHistory where
  nodup a ha := by
    rw [slots_mixedHistory a ha]
    split <;> decide
  same a ha a' ha' hu := by
    rw [slots_mixedHistory a ha, slots_mixedHistory a' ha', hu]
    exact fun _ => id

theorem objects_isolated_mixedHistory :
    (mixedHistory.filter (fun a => a.uid = getUID unknownPolicy.object)).length = 2 ∧
      ((follow .new mixedHistory).all.filter (originatesFrom (getUID unknownPolicy.object))).Perm
        (follow .new (mixedHistory.filter (fun a => a.uid = getUID unknownPolicy.object))).all :=
  ⟨by decide, objects_isolated watched_mixedHistory isUUID_mixedHistory _⟩

end Samples

end Arrival

end Nightjar.Discovery
