import Nightjar.Discovery.ProfileSettings
import Nightjar.Discovery.Scope

namespace Nightjar.Discovery

open Lib Adapters Lib.Strings Apimachinery

def ServedAs [Apimachinery] (gvr : GVR) (obj : Unstructured) : Prop :=
  groupVersionKind obj = ⟨gvr.group, gvr.version, getKind obj⟩

def SourceMatches [Unicode] (gvr : GVR) (kind : String) : Builtin → Prop
  | .networkPolicy => gvr = NetworkPolicy.gvr
  | .cilium => gvr = if kind = "CiliumClusterwideNetworkPolicy" then Cilium.gvrCCNP else Cilium.gvrCNP
  | .resourceQuota => gvr = ResourceQuota.gvr
  | .limitRange => gvr = LimitRange.gvr
  | .webhookConfig => gvr =
      if kind = "ValidatingWebhookConfiguration" then WebhookConfig.validatingGVR else WebhookConfig.mutatingGVR
  | .gatekeeper => gvr.resource = toLower kind ++ "s"
  | .kyverno => gvr = if kind = "ClusterPolicy" then Kyverno.gvrClusterPolicy else Kyverno.gvrPolicy
  | .generic => gvr.resource = Generic.guessResource kind

section Deliveries
variable [Apimachinery] [Unicode]

omit [Apimachinery] [Unicode] in
theorem gvr_mk_eq_iff {gvr : GVR} {resource : String} :
    ⟨gvr.group, gvr.version, resource⟩ = gvr ↔ gvr.resource = resource := by
  cases gvr
  simp [eq_comm]

theorem sourceOf_eq_iff {gvr : GVR} {obj : Unstructured} (hobj : ServedAs gvr obj) (b : Builtin) :
    b.sourceOf obj = gvr ↔ SourceMatches gvr (getKind obj) b := by
  rw [ServedAs] at hobj
  cases b with
  | networkPolicy | resourceQuota | limitRange => exact eq_comm
  | cilium =>
      simp only [Builtin.sourceOf, SourceMatches, Cilium.sourceOf, Cilium.isClusterWide, hobj, decide_eq_true_eq]
      exact eq_comm
  | webhookConfig =>
      simp only [Builtin.sourceOf, SourceMatches, WebhookConfig.sourceOf, WebhookConfig.isValidating,
        decide_eq_true_eq]
      exact eq_comm
  | kyverno => exact eq_comm
  | gatekeeper =>
      rw [Builtin.sourceOf, SourceMatches, Gatekeeper.gvrFromObject, hobj]
      exact gvr_mk_eq_iff
  | generic =>
      rw [Builtin.sourceOf, SourceMatches, hobj]
      exact gvr_mk_eq_iff

/-- An object that an informer delivers to the engine. -/
structure Ingestion where
  engine : Engine Builtin
  order : engine.Order
  gvr : GVR
  obj : Unstructured
  servedAs : ServedAs gvr obj

namespace Ingestion

def constraints (i : Ingestion) : List Constraint := i.engine.parsed i.order i.gvr i.obj

/-- No adapter is found for the object, so that the generic one is handed the GVR, or the
adapter finds nothing in it, or it arrives at the GVR by itself. -/
def SourceKept (i : Ingestion) : Prop :=
  ∀ b, i.engine.selected (i.engine.profileFor i.order i.gvr) i.gvr = some b →
    b.slots i.obj = [] ∨ SourceMatches i.gvr (getKind i.obj) b

theorem constraints_eq_nil_iff {i : Ingestion} {b : Builtin}
    (h : i.engine.selected (i.engine.profileFor i.order i.gvr) i.gvr = some b) :
    i.constraints = [] ↔ b.slots i.obj = [] := by
  have huid := i.engine.uid_parsed i.order i.gvr i.obj
  rw [Engine.route_of_selected h] at huid
  rw [constraints, ← List.map_eq_nil_iff (f := Constraint.uid), huid, List.map_eq_nil_iff]
  rfl

theorem source_of_unselected {i : Ingestion}
    (h : i.engine.selected (i.engine.profileFor i.order i.gvr) i.gvr = none) :
    ∀ c ∈ i.constraints, c.source = i.gvr := by
  intro c hc
  rw [constraints, Engine.parsed, Engine.parseObject, Engine.route] at hc
  rw [Engine.selected] at h
  rw [h] at hc
  cases hps : i.engine.profileFor i.order i.gvr with
  | none =>
      rw [hps] at hc
      rw [List.mem_singleton.mp hc]
      rfl
  | some ps =>
      rw [hps] at hc
      simp only [Route.parse, Generic.parseWithConfig_eq, List.mem_singleton] at hc
      rw [hc]
      rfl

theorem source_eq_iff (i : Ingestion) : (∀ c ∈ i.constraints, c.source = i.gvr) ↔ i.SourceKept := by
  rw [SourceKept]
  cases hsel : i.engine.selected (i.engine.profileFor i.order i.gvr) i.gvr with
  | none => exact iff_of_true (source_of_unselected hsel) nofun
  | some b =>
      have hsource : ∀ c ∈ i.constraints, c.source = b.sourceOf i.obj :=
        (Engine.parsed_of_selected hsel i.obj).1
      constructor
      · intro hall b' hb'
        cases hb'
        rw [← constraints_eq_nil_iff hsel, ← sourceOf_eq_iff i.servedAs, or_iff_not_imp_left]
        intro hne
        obtain ⟨c, hc⟩ := List.exists_mem_of_ne_nil _ hne
        rw [← hsource c hc, hall c hc]
      · intro hkept c hc
        rcases hkept b rfl with hnil | hmatch
        · rw [(constraints_eq_nil_iff hsel).mpr hnil] at hc
          cases hc
        · rw [hsource c hc, (sourceOf_eq_iff i.servedAs b).mpr hmatch]

def ingest (is : List Ingestion) : Indexer :=
  is.foldl (fun idx i => idx.applyAll (i.engine.handleAdd i.order i.gvr (.unstructured i.obj))) .new

theorem mem_applyAll_handleAdd {i : Ingestion} {idx : Indexer} {c : Constraint}
    (h : c ∈ (idx.applyAll (i.engine.handleAdd i.order i.gvr (.unstructured i.obj))).all) :
    c ∈ idx.all ∨ c ∈ i.constraints := by
  by_cases hw : i.gvr ∈ i.engine.watchedGVRs
  · rw [Engine.handleAdd_watched _ _ _ _ hw, Indexer.mem_all, Indexer.applyAll_upsert,
      KeyedStore.lookup_upsertAll] at h
    rcases Option.or_eq_some_iff.mp h with hfound | ⟨-, hold⟩
    · exact .inr (List.mem_reverse.mp (List.mem_of_find?_eq_some hfound))
    · exact .inl (Indexer.mem_all.mpr hold)
  · rw [Engine.handleAdd_unwatched _ _ _ hw] at h
    exact .inl h

theorem exists_of_mem_ingest {is : List Ingestion} {c : Constraint} (h : c ∈ (ingest is).all) :
    ∃ i ∈ is, c ∈ i.constraints := by
  induction is using List.reverseRecOn with
  | nil => cases h
  | append_singleton is i ih =>
      rw [ingest, List.foldl_append] at h
      rcases mem_applyAll_handleAdd h with h | h
      · obtain ⟨j, hj, hc⟩ := ih h
        exact ⟨j, List.mem_append_left _ hj, hc⟩
      · exact ⟨i, List.mem_append_right _ (List.mem_singleton_self i), h⟩

/-- The constraints carry the watched GVR exactly when it is kept, and the cleanup for a
GVR then removes the constraints that were ingested through it and no others. -/
theorem sources_match_iff :
    (∀ i : Ingestion, (∀ c ∈ i.constraints, c.source = i.gvr) ↔ i.SourceKept) ∧
    ∀ is : List Ingestion, (∀ i ∈ is, i.SourceKept) → ∀ gvr, ∀ c ∈ (ingest is).all,
      c ∉ ((ingest is).deleteBySource gvr).1.all ↔ ∃ i ∈ is, i.gvr = gvr ∧ c ∈ i.constraints := by
  refine ⟨source_eq_iff, fun is hkept gvr c hc => ?_⟩
  have hremoved : c ∉ ((ingest is).deleteBySource gvr).1.all ↔ c.source = gvr := by
    rw [Indexer.mem_all_deleteBySource]
    simp [hc]
  have hsource {i : Ingestion} (hi : i ∈ is) (hci : c ∈ i.constraints) : c.source = i.gvr :=
    i.source_eq_iff.mpr (hkept i hi) c hci
  rw [hremoved]
  constructor
  · intro hg
    obtain ⟨i, hi, hci⟩ := exists_of_mem_ingest hc
    exact ⟨i, hi, (hsource hi hci).symm.trans hg, hci⟩
  · rintro ⟨i, hi, rfl, hci⟩
    exact hsource hi hci

end Ingestion

end Deliveries

section Sample
attribute [local instance] Apimachinery.model asciiTables

def labelsIngestion : Ingestion := ⟨watching requiredLabelsGVR, default, requiredLabelsGVR, requiredLabels, rfl⟩

def policyIngestion : Ingestion :=
  ⟨watching Kyverno.gvrClusterPolicy, default, Kyverno.gvrClusterPolicy, teamPolicy, rfl⟩

theorem requiredLabels_left_behind :
    labelsIngestion.constraints.map Constraint.source = [{ requiredLabelsGVR with resource := "k8srequiredlabelss" }] ∧
      (Ingestion.ingest [labelsIngestion]).all.length = 1 ∧
      ((Ingestion.ingest [labelsIngestion]).deleteBySource requiredLabelsGVR).1.all.length = 1 := by
  decide +kernel

theorem sources_match_teamPolicy :
    policyIngestion.SourceKept ∧ policyIngestion.constraints.length = 1 ∧
      ∀ c ∈ policyIngestion.constraints, c.source = Kyverno.gvrClusterPolicy := by
  have hkept : policyIngestion.SourceKept := by
    intro b hb
    have hselected : policyIngestion.engine.selected
        (policyIngestion.engine.profileFor policyIngestion.order policyIngestion.gvr) policyIngestion.gvr =
        some .kyverno := rfl
    cases hselected.symm.trans hb
    exact .inr rfl
  exact ⟨hkept, by decide +kernel, (Ingestion.sources_match_iff.1 policyIngestion).mpr hkept⟩

end Sample

end Nightjar.Discovery
