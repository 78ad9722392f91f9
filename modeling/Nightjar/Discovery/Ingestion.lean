import Nightjar.Discovery.Routing

namespace Nightjar.Discovery

open Adapters Lib Lib.Strings Apimachinery

section Deliveries
variable [Apimachinery]

/-- The constraint was derived from a version of the object with UID `u`. -/
def originatesFrom (u : UID) (c : Constraint) : Bool :=
  match c.rawObject with
  | some obj => decide (getUID obj = u)
  | none => false

variable [Unicode] {α : Type} [SlottedAdapter α]

namespace Engine

/-- The constraints an object adds when it is delivered; none if it is rejected. -/
def parsed (e : Engine α) (order : e.Order) (g : GVR) (obj : Unstructured) : List Constraint :=
  match e.parseObject order g obj with
  | .ok constraints => constraints
  | .error _ => []

variable (e : Engine α) (order : e.Order) (g : GVR) (obj : Unstructured)

theorem handleAdd_watched (hw : g ∈ e.watchedGVRs) :
    e.handleAdd order g (.unstructured obj) = (e.parsed order g obj).map .upsert := by
  simp only [handleAdd, parsed, hw, not_true_eq_false, if_false]
  cases e.parseObject order g obj <;> rfl

theorem handleAdd_unwatched (hw : g ∉ e.watchedGVRs) (obj : EventObj) : e.handleAdd order g obj = [] := by
  simp [handleAdd, hw]

theorem uid_parsed : (e.parsed order g obj).map Constraint.uid =
    ((e.route order g).slots obj).map (Slot.uid (getUID obj)) := by
  have hfiled := (e.route order g).filedIn_parse g obj
  rw [parsed, parseObject]
  split
  · rename_i cs hcs
    rw [hcs] at hfiled
    exact hfiled.1
  · rename_i err herr
    rw [herr] at hfiled
    rw [show (e.route order g).slots obj = [] from hfiled]
    rfl

theorem originatesFrom_parsed : ∀ c ∈ e.parsed order g obj, originatesFrom (getUID obj) c = true := by
  have hfiled := (e.route order g).filedIn_parse g obj
  rw [parsed, parseObject]
  intro c hc
  split at hc
  · rename_i cs hcs
    rw [hcs] at hfiled
    simp [originatesFrom, hfiled.2 c hc]
  · cases hc

theorem subperm_handleAdd_iff (hw : g ∈ e.watchedGVRs) (idx : Indexer) :
    (e.parsed order g obj).Subperm (idx.applyAll (e.handleAdd order g (.unstructured obj))).all ↔
      ((e.route order g).slots obj).Nodup := by
  rw [handleAdd_watched e order g obj hw, Indexer.all, Indexer.applyAll_upsert,
    KeyedStore.subperm_values_upsertAll, uid_parsed, List.nodup_map_iff (Slot.uid_injective _)]

end Engine

structure Delivery (e : Engine α) (u : UID) where
  order : e.Order
  version : Unstructured
  uid_eq : getUID version = u

structure History (e : Engine α) (u : UID) where
  first : Delivery e u
  updates : List (Delivery e u)

variable {e : Engine α} {u : UID}

namespace Delivery

def constraints (d : Delivery e u) (g : GVR) : List Constraint := e.parsed d.order g d.version

def slots (d : Delivery e u) (g : GVR) : List Slot := (e.route d.order g).slots d.version

theorem uid_constraints (d : Delivery e u) (g : GVR) :
    (d.constraints g).map Constraint.uid = (d.slots g).map (Slot.uid u) := by
  rw [constraints, Engine.uid_parsed, d.uid_eq, slots]

theorem originatesFrom_constraints (d : Delivery e u) (g : GVR) :
    ∀ c ∈ d.constraints g, originatesFrom u c = true := by
  intro c hc
  rw [← d.uid_eq]
  exact e.originatesFrom_parsed d.order g d.version c hc

end Delivery

namespace History

def deliveries (h : History e u) : List (Delivery e u) := h.first :: h.updates

def replay (h : History e u) (g : GVR) (idx : Indexer) : Indexer :=
  h.updates.foldl (fun idx d => idx.applyAll (e.handleUpdate d.order g (.unstructured d.version)))
    (idx.applyAll (e.handleAdd h.first.order g (.unstructured h.first.version)))

def constraints (h : History e u) (g : GVR) : List Constraint := h.deliveries.flatMap (·.constraints g)

theorem originatesFrom_constraints (h : History e u) (g : GVR) :
    ∀ c ∈ h.constraints g, originatesFrom u c = true := by
  intro c hc
  obtain ⟨d, _, hd⟩ := List.mem_flatMap.mp hc
  exact d.originatesFrom_constraints g c hd

theorem foldl_handleUpdate (hw : g ∈ e.watchedGVRs) (ds : List (Delivery e u)) (idx : Indexer) :
    (ds.foldl (fun idx d => idx.applyAll (e.handleUpdate d.order g (.unstructured d.version))) idx).byUID =
      idx.byUID.upsertAll (ds.flatMap (·.constraints g)) := by
  induction ds generalizing idx with
  | nil => rfl
  | cons d ds ih =>
      rw [List.foldl_cons, ih, Engine.handleUpdate, Engine.handleAdd_watched e d.order g d.version hw,
        Indexer.applyAll_upsert, List.flatMap_cons, KeyedStore.upsertAll_append]
      rfl

theorem byUID_replay (h : History e u) {g : GVR} (hw : g ∈ e.watchedGVRs) (idx : Indexer) :
    (h.replay g idx).byUID = idx.byUID.upsertAll (h.constraints g) := by
  rw [replay, foldl_handleUpdate hw, Engine.handleAdd_watched e h.first.order g h.first.version hw,
    Indexer.applyAll_upsert, ← KeyedStore.upsertAll_append]
  rfl

theorem uid_constraints_mem_iff (h : History e u) (g : GVR) (places : List Slot) :
    (∀ c ∈ h.constraints g, c.uid ∈ places.map (Slot.uid u)) ↔ ∀ d ∈ h.deliveries, d.slots g ⊆ places := by
  have hd (d : Delivery e u) :
      (∀ c ∈ d.constraints g, c.uid ∈ places.map (Slot.uid u)) ↔ d.slots g ⊆ places := by
    rw [← List.forall_mem_map (P := fun k => k ∈ places.map (Slot.uid u)), d.uid_constraints]
    simp only [List.forall_mem_map, List.mem_map_of_injective (Slot.uid_injective u)]
    exact Iff.rfl
  simp only [constraints, List.forall_mem_flatMap, hd]

theorem update_perm_iff (h : History e u) (last : Delivery e u) {g : GVR} (hw : g ∈ e.watchedGVRs)
    (idx : Indexer) (hidx : ∀ c ∈ idx.all, originatesFrom u c = false) :
    (((h.replay g idx).applyAll
        (e.handleUpdate last.order g (.unstructured last.version))).all.filter (originatesFrom u)).Perm
      (last.constraints g) ↔
    (last.slots g).Nodup ∧ ∀ d ∈ h.deliveries, d.slots g ⊆ last.slots g := by
  rw [Engine.handleUpdate, Engine.handleAdd_watched e last.order g last.version hw, Indexer.all,
    Indexer.applyAll_upsert, byUID_replay h hw]
  have hstore := idx.byUID.filter_values_perm_iff hidx (h.originatesFrom_constraints g)
    (last.originatesFrom_constraints g)
  rw [last.uid_constraints, List.nodup_map_iff (Slot.uid_injective u), h.uid_constraints_mem_iff] at hstore
  exact hstore

def Upserted (h : History e u) (g : GVR) (c : Constraint) : Prop :=
  ∃ d ∈ h.deliveries, .upsert c ∈ e.handleAdd d.order g (.unstructured d.version)

theorem upserted_iff (h : History e u) {g : GVR} (hw : g ∈ e.watchedGVRs) (c : Constraint) :
    h.Upserted g c ↔ c ∈ h.constraints g := by
  simp [Upserted, constraints, Delivery.constraints, Engine.handleAdd_watched e _ g _ hw]

def last (h : History e u) : Delivery e u := h.updates.getLast?.getD h.first

end History

/-- The places whose UIDs `handleDelete` removes; if the version fills none, the object's own. -/
def Route.removedSlots (r : Route α) (obj : Unstructured) : List Slot :=
  if r.slots obj = [] then [.whole] else r.slots obj

theorem Engine.deleteObject_eq (e : Engine α) (order : e.Order) (g : GVR) (obj : Unstructured) :
    e.deleteObject order g obj =
      (((e.route order g).removedSlots obj).map (Slot.uid (getUID obj))).map .delete := by
  have huid := e.uid_parsed order g obj
  unfold parsed at huid
  rw [deleteObject, Route.removedSlots]
  cases hp : e.parseObject order g obj with
  | error err =>
      rw [hp, List.map_nil] at huid
      simp [List.map_eq_nil_iff.mp huid.symm]
  | ok cs =>
      rw [hp] at huid
      cases cs with
      | nil => simp [List.map_eq_nil_iff.mp huid.symm]
      | cons c cs =>
          have hne : (e.route order g).slots obj ≠ [] := by
            intro h
            rw [h] at huid
            cases huid
          rw [if_neg hne, ← huid, List.map_map]
          rfl

inductive Deletion (h : History e u) where
  | last
  | tombstone (d : Delivery e u) (hd : d ∈ h.deliveries)

namespace Deletion

variable {h : History e u}

def delivery : Deletion h → Delivery e u
  | last => h.last
  | tombstone d _ => d

def event : Deletion h → EventObj
  | last => .unstructured h.last.version
  | tombstone d _ => .deletedFinalStateUnknown (.unstructured d.version)

theorem handleDelete_event (del : Deletion h) (order : e.Order) (g : GVR) :
    e.handleDelete order g del.event =
      (((e.route order g).removedSlots del.delivery.version).map (Slot.uid u)).map .delete := by
  have hdel := e.deleteObject_eq order g del.delivery.version
  rw [del.delivery.uid_eq] at hdel
  cases del with
  | last => exact hdel
  | tombstone d hd => exact hdel

end Deletion

theorem History.delete_clean_iff (h : History e u) {g : GVR} (hw : g ∈ e.watchedGVRs) (idx : Indexer)
    (del : Deletion h) (order : e.Order) :
    (∀ c, h.Upserted g c → c ∉ ((h.replay g idx).applyAll (e.handleDelete order g del.event)).all) ↔
      ∀ d ∈ h.deliveries, d.slots g ⊆ (e.route order g).removedSlots del.delivery.version := by
  have hstore := idx.byUID.deleteAll_upsertAll_clean_iff (h.constraints g)
    (((e.route order g).removedSlots del.delivery.version).map (Slot.uid u))
  rw [h.uid_constraints_mem_iff] at hstore
  simp only [h.upserted_iff hw, Deletion.handleDelete_event]
  rw [← hstore]
  apply forall₂_congr
  intro c hc
  rw [Indexer.mem_all, KeyedStore.mem_values, Indexer.lookup_applyAll_delete, byUID_replay h hw,
    KeyedStore.lookup_deleteAll]

end Deliveries

def Route.Distinct [Apimachinery] (r : Route Builtin) (obj : Unstructured) : Prop :=
  match r with
  | adapter b => b.Distinct obj
  | _ => True

theorem Route.slots_nodup_iff [Apimachinery] [Unicode] (r : Route Builtin) (obj : Unstructured) :
    (r.slots obj).Nodup ↔ r.Distinct obj := by
  cases r with
  | adapter b => exact b.slots_nodup_iff obj
  | generic | genericWith => exact iff_of_true (List.nodup_singleton _) trivial

theorem Engine.parsed_of_ok [Apimachinery] [Unicode] {e : Engine Builtin} {order : e.Order} {g : GVR}
    {obj : Unstructured} {cs : List Constraint} (hcs : e.parseObject order g obj = .ok cs) :
    e.parsed order g obj = cs := by
  rw [parsed, hcs]

theorem Engine.parseObject_ok [Apimachinery] [Unicode] {e : Engine Builtin} {order : e.Order} {g : GVR}
    {obj : Unstructured} (hslots : (e.route order g).slots obj ≠ []) :
    ∃ cs, e.parseObject order g obj = .ok cs := by
  have hfiled := (e.route order g).filedIn_parse g obj
  cases hp : e.parseObject order g obj with
  | ok cs => exact ⟨cs, rfl⟩
  | error err =>
      rw [parseObject] at hp
      rw [hp] at hfiled
      exact absurd hfiled hslots

/-- The index holds every constraint of a parsed object exactly when a network
policy does not restrict both directions, or a Cilium policy several sections. -/
theorem handleAdd_holds_all_iff [Apimachinery] [Unicode] (e : Engine Builtin) (order : e.Order) (g : GVR)
    (hw : g ∈ e.watchedGVRs) (obj : Unstructured) (cs : List Constraint) (hcs : e.parseObject order g obj = .ok cs)
    (idx : Indexer) :
    cs.Subperm (idx.applyAll (e.handleAdd order g (.unstructured obj))).all ∧ (cs.map Constraint.uid).Nodup ↔
      (e.route order g).Distinct obj := by
  have hsub := e.subperm_handleAdd_iff order g obj hw idx
  have huid := e.uid_parsed order g obj
  rw [Engine.parsed_of_ok hcs] at hsub huid
  rw [hsub, huid, List.nodup_map_iff (Slot.uid_injective _), and_self, Route.slots_nodup_iff]

section BothDirections
attribute [local instance] Apimachinery.model asciiTables

def sampleObject (spec : Obj) : Unstructured :=
  ⟨[("metadata", .map [("name", .str "sample"), ("namespace", .str "team"), ("uid", .str "u")]),
    ("spec", .map spec)]⟩

def watching (g : GVR) : Engine Builtin := { controllerEngine with watchedGVRs := {g} }

theorem mem_watching (g : GVR) : g ∈ (watching g).watchedGVRs := Finset.mem_singleton_self g

def bothDirections : Unstructured := sampleObject [("policyTypes", .slice [.str "Ingress", .str "Egress"])]

theorem slots_bothDirections :
    ((watching NetworkPolicy.gvr).route default NetworkPolicy.gvr).slots bothDirections = [.whole, .whole] := rfl

theorem handleAdd_holds_all_iff_bothDirections :
    ∃ cs, (watching NetworkPolicy.gvr).parseObject default NetworkPolicy.gvr bothDirections = .ok cs ∧
      (cs.Subperm (Indexer.new.applyAll ((watching NetworkPolicy.gvr).handleAdd default NetworkPolicy.gvr
          (.unstructured bothDirections))).all ∧ (cs.map Constraint.uid).Nodup ↔
        ((watching NetworkPolicy.gvr).route default NetworkPolicy.gvr).Distinct bothDirections) := by
  obtain ⟨cs, hcs⟩ := Engine.parseObject_ok (by rw [slots_bothDirections]; simp)
  exact ⟨cs, hcs, handleAdd_holds_all_iff _ default _ (mem_watching _) bothDirections cs hcs .new⟩

/-- The ingress constraint of the policy is overwritten by its egress constraint. -/
theorem handleAdd_loses_direction :
    NetworkPolicy.gvr ∈ (watching NetworkPolicy.gvr).watchedGVRs ∧
    ∃ cs, (watching NetworkPolicy.gvr).parseObject default NetworkPolicy.gvr bothDirections = .ok cs ∧
      ¬ cs.Subperm (Indexer.new.applyAll ((watching NetworkPolicy.gvr).handleAdd default NetworkPolicy.gvr
          (.unstructured bothDirections))).all := by
  obtain ⟨cs, hcs⟩ := Engine.parseObject_ok (by rw [slots_bothDirections]; simp)
  refine ⟨mem_watching _, cs, hcs, ?_⟩
  rw [← Engine.parsed_of_ok hcs, Engine.subperm_handleAdd_iff _ _ _ _ (mem_watching _), slots_bothDirections]
  decide

end BothDirections

/-- After an update the index holds exactly the constraints of the new version
when they are distinct and every place filled before is filled again. -/
theorem handleUpdate_exact_iff [Apimachinery] [Unicode] {e : Engine Builtin} {g : GVR}
    (hw : g ∈ e.watchedGVRs) {u : UID} (idx : Indexer) (hidx : ∀ c ∈ idx.all, originatesFrom u c = false)
    (h : History e u) (last : Delivery e u) (cs : List Constraint)
    (hcs : e.parseObject last.order g last.version = .ok cs) :
    (((h.replay g idx).applyAll
        (e.handleUpdate last.order g (.unstructured last.version))).all.filter (originatesFrom u)).Perm cs ↔
    (e.route last.order g).Distinct last.version ∧ ∀ d ∈ h.deliveries, d.slots g ⊆ last.slots g := by
  have hperm := h.update_perm_iff last hw idx hidx
  rw [Delivery.constraints, Engine.parsed_of_ok hcs] at hperm
  rw [hperm, Delivery.slots, Route.slots_nodup_iff]

section EmptiedQuota
attribute [local instance] Apimachinery.model asciiTables

def filledQuota : Delivery (watching ResourceQuota.gvr) "u" :=
  ⟨default, sampleObject [("hard", .map [("pods", .str "5")])], rfl⟩

def emptiedQuota : Delivery (watching ResourceQuota.gvr) "u" := ⟨default, sampleObject [("hard", .map [])], rfl⟩

theorem slots_filledQuota : filledQuota.slots ResourceQuota.gvr = [.whole] := rfl

theorem slots_emptiedQuota : emptiedQuota.slots ResourceQuota.gvr = [] := rfl

theorem parse_emptiedQuota : (watching ResourceQuota.gvr).parseObject emptiedQuota.order ResourceQuota.gvr
    emptiedQuota.version = .ok [] := rfl

theorem handleUpdate_exact_iff_emptiedQuota :
    ((((History.mk filledQuota []).replay ResourceQuota.gvr .new).applyAll
        ((watching ResourceQuota.gvr).handleUpdate emptiedQuota.order ResourceQuota.gvr
          (.unstructured emptiedQuota.version))).all.filter (originatesFrom "u")).Perm [] ↔
    ((watching ResourceQuota.gvr).route emptiedQuota.order ResourceQuota.gvr).Distinct emptiedQuota.version ∧
      ∀ d ∈ (History.mk filledQuota []).deliveries, d.slots ResourceQuota.gvr ⊆ emptiedQuota.slots ResourceQuota.gvr :=
  handleUpdate_exact_iff (mem_watching _) .new (by simp) ⟨filledQuota, []⟩ emptiedQuota [] parse_emptiedQuota

/-- The constraint of the quota stays in the index after its limits are removed. -/
theorem handleUpdate_keeps_emptied_quota :
    ResourceQuota.gvr ∈ (watching ResourceQuota.gvr).watchedGVRs ∧
    (watching ResourceQuota.gvr).parseObject emptiedQuota.order ResourceQuota.gvr emptiedQuota.version = .ok [] ∧
    ¬ ((((History.mk filledQuota []).replay ResourceQuota.gvr .new).applyAll
        ((watching ResourceQuota.gvr).handleUpdate emptiedQuota.order ResourceQuota.gvr
          (.unstructured emptiedQuota.version))).all.filter (originatesFrom "u")).Perm [] := by
  refine ⟨mem_watching _, parse_emptiedQuota, ?_⟩
  have hiff := (History.mk filledQuota []).update_perm_iff emptiedQuota (mem_watching _) .new (by simp)
  rw [Delivery.constraints, Engine.parsed_of_ok parse_emptiedQuota] at hiff
  rw [hiff]
  rintro ⟨_, hcover⟩
  have hsub := hcover filledQuota List.mem_cons_self
  rw [slots_filledQuota, slots_emptiedQuota] at hsub
  exact absurd (hsub List.mem_cons_self) List.not_mem_nil

end EmptiedQuota

/-- A deletion leaves nothing of the object behind when every place that some
version filled is filled by the version it reports. -/
theorem handleDelete_complete_iff [Apimachinery] [Unicode] {e : Engine Builtin} {g : GVR} {u : UID}
    (idx : Indexer) (h : History e u) (del : Deletion h) (order : e.Order) :
    (∀ c, h.Upserted g c → c ∉ ((h.replay g idx).applyAll (e.handleDelete order g del.event)).all) ↔
    (g ∈ e.watchedGVRs →
      ∀ d ∈ h.deliveries, d.slots g ⊆ (e.route order g).removedSlots del.delivery.version) := by
  by_cases hw : g ∈ e.watchedGVRs
  · rw [h.delete_clean_iff hw, forall_prop_of_true hw]
  · refine iff_of_true ?_ (fun hg => absurd hg hw)
    rintro c ⟨d, _, hd⟩
    rw [Engine.handleAdd_unwatched _ _ _ hw] at hd
    cases hd

section RemovedRule
attribute [local instance] Apimachinery.model asciiTables

def policyWithRules (n : Nat) : Delivery (watching Kyverno.gvrClusterPolicy) "u" :=
  ⟨default, sampleObject [("rules", .slice (.replicate n (.map [("name", .str "rule")])))], rfl⟩

def removedRule : History (watching Kyverno.gvrClusterPolicy) "u" := ⟨policyWithRules 2, [policyWithRules 1]⟩

/-- The constraint of the second rule stays in the index after the policy is deleted. -/
theorem handleDelete_keeps_removed_rule :
    ¬ ∀ c, removedRule.Upserted Kyverno.gvrClusterPolicy c →
      c ∉ ((removedRule.replay Kyverno.gvrClusterPolicy .new).applyAll
        ((watching Kyverno.gvrClusterPolicy).handleDelete default Kyverno.gvrClusterPolicy
          (Deletion.last : Deletion removedRule).event)).all := by
  rw [removedRule.delete_clean_iff (mem_watching _)]
  intro hcover
  have hsub := hcover (policyWithRules 2) List.mem_cons_self
  have hslots : (policyWithRules 2).slots Kyverno.gvrClusterPolicy = [.rule 0, .rule 1] := rfl
  have hremoved : ((watching Kyverno.gvrClusterPolicy).route default Kyverno.gvrClusterPolicy).removedSlots
      (Deletion.last : Deletion removedRule).delivery.version = [.rule 0] := rfl
  rw [hslots, hremoved] at hsub
  exact absurd hsub (by decide)

end RemovedRule

end Nightjar.Discovery
