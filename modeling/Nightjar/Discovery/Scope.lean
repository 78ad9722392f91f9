import Nightjar.Discovery.Ingestion

namespace Nightjar.Discovery

open Adapters Lib Lib.Strings Apimachinery Util

/-- The constraint is cluster-scoped: the index returns it for every namespace, and the namespaces that
the policy lists stand in the constraint. -/
structure ClusterScoped (idx : Indexer) (c : Constraint) (namespaces : List String) : Prop where
  ns : c.ns = ""
  affected : c.affectedNamespaces = namespaces
  everywhere : ∀ ns, c ∈ idx.byNamespace ns

theorem clusterScoped_of_mem {idx : Indexer} {c : Constraint} {namespaces : List String} (hc : c ∈ idx.all)
    (hns : c.ns = "") (haffected : c.affectedNamespaces = namespaces) : ClusterScoped idx c namespaces := by
  refine ⟨hns, haffected, fun ns => Indexer.mem_byNamespace.mpr ⟨hc, ?_⟩⟩
  simp [matchesNamespace, hns]

theorem lookup_excluded (action : String) (targets : List ResourceTarget) (affected : List String)
    {excluded : List String} (h : excluded ≠ []) (parameters : Obj) :
    (Gatekeeper.buildDetails action targets affected excluded parameters).lookup "excludedNamespaces" =
      some (.strings excluded) := by
  have htargets : List.lookup "excludedNamespaces"
      (if targets = [] then [] else [("resourceTargets", Any.targets targets)]) = none := by
    split <;> rfl
  have haffected : List.lookup "excludedNamespaces"
      (if affected = [] then [] else [("affectedNamespaces", Any.strings affected)]) = none := by
    split <;> rfl
  rw [Gatekeeper.buildDetails, if_neg h]
  simp only [List.lookup_append, htargets, haffected]
  rfl

section Ingested
variable [Apimachinery] [Unicode] {e : Engine Builtin} {order : e.Order} {g : GVR} {obj : Unstructured}

theorem mem_all_handleAdd (hw : g ∈ e.watchedGVRs) (hd : (e.route order g).Distinct obj) {c : Constraint}
    (hc : c ∈ e.parsed order g obj) (idx : Indexer) :
    c ∈ (idx.applyAll (e.handleAdd order g (.unstructured obj))).all := by
  have hsub := (e.subperm_handleAdd_iff order g obj hw idx).mpr ((Route.slots_nodup_iff _ obj).mpr hd)
  exact hsub.subset hc

theorem gatekeeper_clusterScoped (hw : g ∈ e.watchedGVRs) (hr : e.route order g = .adapter .gatekeeper) {spec : Obj}
    (hspec : safeNestedMap obj.object ["spec"] = some spec) {namespaces excluded : List String}
    (hmatch : Gatekeeper.extractNamespaces (safeNestedMap spec ["match"]) = (namespaces, excluded)) (idx : Indexer) :
    ∃ c, e.parseObject order g obj = .ok [c] ∧
      ClusterScoped (idx.applyAll (e.handleAdd order g (.unstructured obj))) c namespaces ∧
      (excluded ≠ [] → c.details.lookup "excludedNamespaces" = some (.strings excluded)) := by
  obtain ⟨c, hparse, hns, haffected, hexcluded⟩ : ∃ c, Gatekeeper.parse obj = .ok [c] ∧ c.ns = "" ∧
      c.affectedNamespaces = namespaces ∧
      (excluded ≠ [] → c.details.lookup "excludedNamespaces" = some (.strings excluded)) := by
    rw [Gatekeeper.parse, hspec]
    simp only [hmatch]
    exact ⟨_, rfl, rfl, rfl, fun h => lookup_excluded _ _ _ h _⟩
  have hobj : e.parseObject order g obj = .ok [c] := by
    rw [Engine.parseObject, hr]
    exact hparse
  refine ⟨c, hobj, clusterScoped_of_mem (mem_all_handleAdd hw ?_ ?_ idx) hns haffected, hexcluded⟩
  · rw [hr]
    trivial
  · rw [Engine.parsed_of_ok hobj]
    exact List.mem_cons_self

theorem kyverno_ruleConstraint (hkind : getKind obj = "ClusterPolicy") (hcluster : getNamespace obj = "")
    (action : String) (rule : Obj) (i : Nat) :
    ∃ c, Kyverno.ruleConstraint obj action (.map rule, i) = some c ∧
      c.uid = getUID obj ++ "-rule-" ++ toString i ∧ c.ns = "" ∧
      c.affectedNamespaces = (Kyverno.extractMatchInfo (safeNestedMap rule ["match"])).namespaces := by
  rw [Kyverno.ruleConstraint]
  simp only [asMap, Kyverno.parseRule, hkind, hcluster]
  exact ⟨_, rfl, rfl, rfl, rfl⟩

theorem kyverno_parse_rule {spec : Obj} (hspec : safeNestedMap obj.object ["spec"] = some spec) {rules : List Any}
    (hrules : safeNestedSlice spec ["rules"] = some rules) {i : Nat} {entry : Any} (hrule : rules[i]? = some entry)
    {c : Constraint} (hc : Kyverno.ruleConstraint obj (Kyverno.globalActionOf spec) (entry, i) = some c) :
    ∃ cs, Kyverno.parse obj = .ok cs ∧ c ∈ cs := by
  have hmem : c ∈ rules.zipIdx.filterMap (Kyverno.ruleConstraint obj (Kyverno.globalActionOf spec)) :=
    List.mem_filterMap.mpr ⟨(entry, i), List.mem_zipIdx_iff_getElem?.mpr hrule, hc⟩
  have hlen : rules.length ≠ 0 := by
    intro h0
    rw [List.length_eq_zero_iff.mp h0] at hrule
    cases hrule
  refine ⟨_, ?_, hmem⟩
  rw [Kyverno.parse, hspec]
  simp only [hrules, Option.getD_some]
  rw [if_neg hlen, if_neg]
  exact List.length_pos_iff_exists_mem.mpr ⟨c, hmem⟩ |>.ne'

theorem kyverno_clusterScoped (hw : g ∈ e.watchedGVRs) (hr : e.route order g = .adapter .kyverno)
    (hkind : getKind obj = "ClusterPolicy") (hcluster : getNamespace obj = "") {spec : Obj}
    (hspec : safeNestedMap obj.object ["spec"] = some spec) {rules : List Any}
    (hrules : safeNestedSlice spec ["rules"] = some rules) {i : Nat} {rule : Obj}
    (hrule : rules[i]? = some (.map rule)) (idx : Indexer) :
    ∃ c ∈ e.parsed order g obj, c.uid = getUID obj ++ "-rule-" ++ toString i ∧
      ClusterScoped (idx.applyAll (e.handleAdd order g (.unstructured obj))) c
        (Kyverno.extractMatchInfo (safeNestedMap rule ["match"])).namespaces := by
  obtain ⟨c, hc, huid, hns, haffected⟩ := kyverno_ruleConstraint hkind hcluster (Kyverno.globalActionOf spec) rule i
  obtain ⟨cs, hparse, hmem⟩ := kyverno_parse_rule hspec hrules hrule hc
  have hobj : e.parseObject order g obj = .ok cs := by
    rw [Engine.parseObject, hr]
    exact hparse
  have hparsed : c ∈ e.parsed order g obj := by
    rw [Engine.parsed_of_ok hobj]
    exact hmem
  refine ⟨c, hparsed, huid, clusterScoped_of_mem (mem_all_handleAdd hw ?_ hparsed idx) hns haffected⟩
  rw [hr]
  trivial

/-- The constraint of a Gatekeeper object, and that of a rule of a ClusterPolicy, is returned for every
namespace. The namespaces that the match block lists, for the rule the union over its clauses, are its
affected ones, and those that it excludes stand in its details. -/
theorem scoped_policies_everywhere (hw : g ∈ e.watchedGVRs) {spec : Obj}
    (hspec : safeNestedMap obj.object ["spec"] = some spec) (idx : Indexer) :
    (∀ namespaces excluded, e.route order g = .adapter .gatekeeper →
      Gatekeeper.extractNamespaces (safeNestedMap spec ["match"]) = (namespaces, excluded) →
      ∃ c, e.parseObject order g obj = .ok [c] ∧
        ClusterScoped (idx.applyAll (e.handleAdd order g (.unstructured obj))) c namespaces ∧
        (excluded ≠ [] → c.details.lookup "excludedNamespaces" = some (.strings excluded))) ∧
    (∀ (rules : List Any) (i : Nat) (rule : Obj) (namespaces : List String), e.route order g = .adapter .kyverno →
      getKind obj = "ClusterPolicy" → getNamespace obj = "" → safeNestedSlice spec ["rules"] = some rules →
        rules[i]? = some (Any.map rule) →
      (Kyverno.extractMatchInfo (safeNestedMap rule ["match"])).namespaces = namespaces →
      ∃ c ∈ e.parsed order g obj, c.uid = getUID obj ++ "-rule-" ++ toString i ∧
        ClusterScoped (idx.applyAll (e.handleAdd order g (.unstructured obj))) c namespaces) := by
  constructor
  · intro namespaces excluded hr hmatch
    exact gatekeeper_clusterScoped hw hr hspec hmatch idx
  · rintro rules i rule namespaces hr hkind hcluster hrules hrule rfl
    exact kyverno_clusterScoped hw hr hkind hcluster hspec hrules hrule idx

end Ingested

section Samples
attribute [local instance] Apimachinery.model asciiTables

def requiredLabelsGVR : GVR := ⟨"constraints.gatekeeper.sh", "v1beta1", "k8srequiredlabels"⟩

def requiredLabelsSpec : Obj :=
  [("match", .map [("namespaces", .slice [.str "team", .str "web"]), ("excludedNamespaces", .slice [.str "web"])])]

def requiredLabels : Unstructured :=
  ⟨[("apiVersion", .str "constraints.gatekeeper.sh/v1beta1"), ("kind", .str "K8sRequiredLabels"),
    ("metadata", .map [("name", .str "owner"), ("uid", .str "u")]), ("spec", .map requiredLabelsSpec)]⟩

def teamRule : Obj :=
  [("name", .str "tag"), ("validate", .map []),
    ("match", .map [("any", .slice [.map [("resources", .map [("kinds", .slice [.str "Pod"]),
      ("namespaces", .slice [.str "team"])])]])])]

def teamPolicySpec : Obj := [("rules", .slice [.map teamRule])]

def teamPolicy : Unstructured :=
  ⟨[("apiVersion", .str "kyverno.io/v1"), ("kind", .str "ClusterPolicy"),
    ("metadata", .map [("name", .str "tags"), ("uid", .str "k")]), ("spec", .map teamPolicySpec)]⟩

theorem route_requiredLabels :
    (watching requiredLabelsGVR).route default requiredLabelsGVR = .adapter .gatekeeper := rfl

theorem route_teamPolicy :
    (watching Kyverno.gvrClusterPolicy).route default Kyverno.gvrClusterPolicy = .adapter .kyverno := rfl

theorem scope_ignored :
    (∃ c, (watching requiredLabelsGVR).parseObject default requiredLabelsGVR requiredLabels = .ok [c] ∧
      Gatekeeper.extractNamespaces (safeNestedMap requiredLabelsSpec ["match"]) = (["team", "web"], ["web"]) ∧
      ∀ ns ∈ ["payments", "web"], c ∈ (Indexer.new.applyAll ((watching requiredLabelsGVR).handleAdd default
        requiredLabelsGVR (.unstructured requiredLabels))).byNamespace ns) ∧
    (∃ c ∈ (watching Kyverno.gvrClusterPolicy).parsed default Kyverno.gvrClusterPolicy teamPolicy,
      (Kyverno.extractMatchInfo (safeNestedMap teamRule ["match"])).namespaces = ["team"] ∧
      c ∈ (Indexer.new.applyAll ((watching Kyverno.gvrClusterPolicy).handleAdd default
        Kyverno.gvrClusterPolicy (.unstructured teamPolicy))).byNamespace "payments") := by
  constructor
  · have hspec : safeNestedMap requiredLabels.object ["spec"] = some requiredLabelsSpec := rfl
    have hmatch : Gatekeeper.extractNamespaces (safeNestedMap requiredLabelsSpec ["match"]) =
        (["team", "web"], ["web"]) := rfl
    obtain ⟨c, hparse, hscoped, -⟩ :=
      gatekeeper_clusterScoped (mem_watching requiredLabelsGVR) route_requiredLabels hspec hmatch .new
    exact ⟨c, hparse, hmatch, fun ns _ => hscoped.everywhere ns⟩
  · have hspec : safeNestedMap teamPolicy.object ["spec"] = some teamPolicySpec := rfl
    have hrules : safeNestedSlice teamPolicySpec ["rules"] = some [.map teamRule] := rfl
    have hrule : [Any.map teamRule][0]? = some (.map teamRule) := rfl
    obtain ⟨c, hparsed, -, hscoped⟩ := kyverno_clusterScoped (mem_watching Kyverno.gvrClusterPolicy) route_teamPolicy
      rfl rfl hspec hrules hrule .new
    exact ⟨c, hparsed, rfl, hscoped.everywhere "payments"⟩

theorem scoped_policies_everywhere_samples :
    (∃ c, (watching requiredLabelsGVR).parseObject default requiredLabelsGVR requiredLabels = .ok [c] ∧
      ClusterScoped (Indexer.new.applyAll ((watching requiredLabelsGVR).handleAdd default requiredLabelsGVR
        (.unstructured requiredLabels))) c ["team", "web"] ∧
      c.details.lookup "excludedNamespaces" = some (.strings ["web"])) ∧
    (∃ c ∈ (watching Kyverno.gvrClusterPolicy).parsed default Kyverno.gvrClusterPolicy teamPolicy,
      c.uid = "k-rule-0" ∧ ClusterScoped (Indexer.new.applyAll ((watching Kyverno.gvrClusterPolicy).handleAdd default
        Kyverno.gvrClusterPolicy (.unstructured teamPolicy))) c ["team"]) := by
  constructor
  · have hspec : safeNestedMap requiredLabels.object ["spec"] = some requiredLabelsSpec := rfl
    obtain ⟨c, hparse, hscoped, hexcluded⟩ := (scoped_policies_everywhere (mem_watching requiredLabelsGVR) hspec .new).1
      ["team", "web"] ["web"] route_requiredLabels rfl
    exact ⟨c, hparse, hscoped, hexcluded (List.cons_ne_nil _ _)⟩
  · have hspec : safeNestedMap teamPolicy.object ["spec"] = some teamPolicySpec := rfl
    exact (scoped_policies_everywhere (mem_watching Kyverno.gvrClusterPolicy) hspec .new).2 [.map teamRule] 0
      teamRule ["team"] route_teamPolicy rfl rfl rfl rfl rfl

end Samples

end Nightjar.Discovery
