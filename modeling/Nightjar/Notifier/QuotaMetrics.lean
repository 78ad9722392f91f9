import Nightjar.Adapters.ResourceQuota
import Nightjar.Notifier.EventBuilder
import Nightjar.Notifier.ReportStatus
import Nightjar.Mcp.Handlers

namespace Nightjar.Notifier.QuotaMetrics

open Lib Lib.Strings Apimachinery Util Adapters

/-- The resource entries in the details of a constraint, in either of the two Go types
that can hold them. -/
def resourceEntries (c : Constraint) : List (String × Obj) :=
  match c.details.lookup "resources" with
  | some (.mapOfMaps resources) => resources
  | some (.map resources) => resources.filterMap (fun e => (asMap e.2).map (fun info => (e.1, info)))
  | _ => []

/-- The metric has the values of the entry. -/
structure Shows (m : MetricDataPoint) (info : Obj) : Prop where
  hard : ∀ s, info.lookup "hard" = some (.str s) → m.hard = s
  used : ∀ s, info.lookup "used" = some (.str s) → m.used = s
  percent : ∀ n, info.lookup "percent" = some (.int n) → m.percentUsed = Float64.ofInt n

def ShowsAll (metrics : List (String × MetricDataPoint)) (c : Constraint) : Prop :=
  ∀ e ∈ resourceEntries c, ∃ m, metrics.lookup e.1 = some m ∧ Shows m e.2

def ReachesConsumers (c : Constraint) : Prop :=
  ShowsAll (EventBuilder.extractMetrics c) c ∧ ShowsAll (ReportStatus.extractResourceMetrics c) c ∧
    ShowsAll (Mcp.extractMetrics c) c

theorem metricsWith_mapOfMaps {c : Constraint} {resources : List (String × Obj)}
    (h : c.details.lookup "resources" = some (.mapOfMaps resources)) (guessUnit : String → String) :
    EventBuilder.metricsWith guessUnit c = [] := by
  rw [EventBuilder.metricsWith, h]

theorem reachesConsumers_iff {c : Constraint} {resources : List (String × Obj)}
    (h : c.details.lookup "resources" = some (.mapOfMaps resources)) : ReachesConsumers c ↔ resources = [] := by
  have hentries : resourceEntries c = resources := by rw [resourceEntries, h]
  constructor
  · rintro ⟨hevent, -, -⟩
    rw [List.eq_nil_iff_forall_not_mem]
    intro e he
    rw [← hentries] at he
    obtain ⟨m, hm, -⟩ := hevent e he
    rw [EventBuilder.extractMetrics, metricsWith_mapOfMaps h] at hm
    cases hm
  · rintro rfl
    refine ⟨?_, ?_, ?_⟩ <;>
      · intro e he
        rw [hentries] at he
        cases he

section Parse
variable [Apimachinery]

def hardLimits (obj : Unstructured) : Obj :=
  (safeNestedMap ((safeNestedMap obj.object ["spec"]).getD []) ["hard"]).getD []

/-- No hard limit of the quota is a text that `resource.ParseQuantity` accepts. -/
def NoQuantity (obj : Unstructured) : Prop :=
  ∀ name text, (hardLimits obj).lookup name = some (.str text) → ∃ err, parseQuantity text = .error err

theorem resourceInfos_eq_nil {hard : Obj} {used : Option Obj} :
    ResourceQuota.resourceInfos hard used = [] ↔
      ∀ name text, hard.lookup name = some (.str text) → ∃ err, parseQuantity text = .error err := by
  rw [List.eq_nil_iff_forall_not_mem]
  constructor
  · intro h name text hl
    cases hq : parseQuantity text with
    | error err => exact ⟨err, rfl⟩
    | ok hardQty => exact absurd (ResourceQuota.mem_resourceInfos.mpr ⟨text, hardQty, hl, hq, rfl⟩) (h _)
  · rintro h ⟨name, info⟩ hmem
    obtain ⟨text, hardQty, hl, hq, -⟩ := ResourceQuota.mem_resourceInfos.mp hmem
    obtain ⟨err, herr⟩ := h name text hl
    rw [hq] at herr
    cases herr

theorem parse_details {obj : Unstructured} {cs : List Constraint} (h : ResourceQuota.parse obj = .ok cs)
    {c : Constraint} (hc : c ∈ cs) :
    ∃ used, c.details = [("resources", .mapOfMaps
      ((ResourceQuota.resourceInfos (hardLimits obj) used).map (fun info => (info.1, info.2.1))))] := by
  unfold ResourceQuota.parse at h
  split at h
  · cases h
  · rename_i spec hspec
    dsimp only at h
    split at h
    · cases h
      cases hc
    · cases h
      obtain rfl := List.mem_singleton.mp hc
      rw [hardLimits, hspec]
      exact ⟨_, rfl⟩

theorem quota_metrics_reach_iff {obj : Unstructured} {cs : List Constraint} (h : ResourceQuota.parse obj = .ok cs)
    {c : Constraint} (hc : c ∈ cs) : ReachesConsumers c ↔ NoQuantity obj := by
  obtain ⟨used, hd⟩ := parse_details h hc
  rw [reachesConsumers_iff (by rw [hd]; rfl), List.map_eq_nil_iff, resourceInfos_eq_nil]
  rfl

end Parse

section Samples
attribute [local instance] Apimachinery.model

def podsQuota : Unstructured :=
  ⟨[("metadata", .map [("name", .str "compute"), ("namespace", .str "team"), ("uid", .str "u")]),
    ("spec", .map [("hard", .map [("pods", .str "10")])]), ("status", .map [("used", .map [("pods", .str "9")])])]⟩

def podsConstraint : Constraint where
  uid := "u"
  source := ResourceQuota.gvr
  name := "compute"
  ns := "team"
  affectedNamespaces := ["team"]
  constraintType := .resourceLimit
  effect := "limit"
  severity := .critical
  summary := "Pods: 9/10 (90%)"
  remediationHint := "Request quota increase or reduce resource usage"
  details := [("resources", .mapOfMaps [("pods", [("hard", .str "10"), ("used", .str "9"), ("percent", .int 90)])])]
  rawObject := some podsQuota

theorem parse_podsQuota : ResourceQuota.parse podsQuota = .ok [podsConstraint] := by with_unfolding_all rfl

theorem quota_metrics_lost :
    ResourceQuota.parse podsQuota = .ok [podsConstraint] ∧
      resourceEntries podsConstraint = [("pods", [("hard", .str "10"), ("used", .str "9"), ("percent", .int 90)])] ∧
      EventBuilder.extractMetrics podsConstraint = [] ∧ ReportStatus.extractResourceMetrics podsConstraint = [] ∧
      Mcp.extractMetrics podsConstraint = [] :=
  ⟨parse_podsQuota, rfl, rfl, rfl, rfl⟩

theorem quota_metrics_reach_iff_pods : ReachesConsumers podsConstraint ↔ NoQuantity podsQuota :=
  quota_metrics_reach_iff parse_podsQuota List.mem_cons_self

end Samples

end Nightjar.Notifier.QuotaMetrics
