import Nightjar.Util
import Nightjar.Requirements.Evaluator

namespace Nightjar.Requirements

open Lib Lib.Strings Apimachinery

/-- `types.RequirementEvalContext`: what a rule may ask about the cluster. -/
structure EvalContext where
  getNamespace : String → Except String Unstructured
  listByGVR : GVR → String → Except String (List Unstructured)
  findMatchingResources : GVR → String → List (String × String) → Except String (List Unstructured)

/-- The fields that the rules set in the same way, for the constraint of a missing resource. -/
def missingConstraint (uid name ns : String) (severity : Severity) (summary : String) (details : Obj)
    (tags : List String) : Constraint where
  uid := uid
  source := ⟨"", "", ""⟩
  name := name
  ns := ns
  affectedNamespaces := [ns]
  constraintType := .missing
  effect := "missing"
  severity := severity
  summary := summary
  details := details
  tags := tags

/-- Ask for a list; its error is the rule's, and nothing is missing when it holds what is looked for. -/
def unlessFound (answer : Except String (List Unstructured)) (found : List Unstructured → Bool)
    (otherwise : RuleAnswer) : RuleAnswer :=
  answer.bind (fun list => if found list then .ok [] else otherwise)

def serviceMonitorGVR : GVR := ⟨"monitoring.coreos.com", "v1", "servicemonitors"⟩

def podMonitorGVR : GVR := ⟨"monitoring.coreos.com", "v1", "podmonitors"⟩

def virtualServiceGVR : GVR := ⟨"networking.istio.io", "v1", "virtualservices"⟩

def destinationRuleGVR : GVR := ⟨"networking.istio.io", "v1", "destinationrules"⟩

def peerAuthenticationGVR : GVR := ⟨"security.istio.io", "v1", "peerauthentications"⟩

def clusterIssuerGVR : GVR := ⟨"cert-manager.io", "v1", "clusterissuers"⟩

def issuerGVR : GVR := ⟨"cert-manager.io", "v1", "issuers"⟩

/-- `unstructured.GetLabels`, which reads like `GetAnnotations`: no labels when one of them is no string. -/
def getLabels (u : Unstructured) : List (String × String) :=
  (((field u.object ["metadata", "labels"]).bind asMap).bind stringBindings).getD []

section Rules
variable [Apimachinery]

def portIsMetrics (port : Any) : Bool :=
  (asMap port).any (fun p => decide (Util.safeStringFromMap p "name" ∈ ["metrics", "http-metrics"]))

def hasMetricsPort (workload : Unstructured) : Bool :=
  let containers := (Util.safeNestedSlice workload.object ["spec", "template", "spec", "containers"]).or
    (Util.safeNestedSlice workload.object ["spec", "containers"])
  (containers.getD []).any (fun c => (asMap c).any (fun c : Obj =>
    ((Util.safeNestedSlice c ["ports"]).getD []).any portIsMetrics))

def podTemplateLabels (workload : Unstructured) : List (String × String) :=
  (bindings ((Util.safeNestedMap workload.object ["spec", "template", "metadata", "labels"]).getD [])).filterMap
    (fun b => (asString b.2).map (b.1, ·))

def prometheusMonitorRule (eval : EvalContext) (workload : Unstructured) : RuleAnswer :=
  let name := getName workload
  let ns := getNamespace workload
  let podLabels := if podTemplateLabels workload = [] then getLabels workload else podTemplateLabels workload
  if !hasMetricsPort workload then .ok []
  else if ns = "" then .ok []
  else if podLabels = [] then .ok []
  else
    unlessFound (eval.findMatchingResources serviceMonitorGVR ns podLabels) (fun smList => !smList.isEmpty) <|
    unlessFound (eval.findMatchingResources podMonitorGVR ns podLabels) (fun pmList => !pmList.isEmpty) <|
    .ok [missingConstraint ("missing:prometheus-monitor:" ++ ns ++ "/" ++ name) ("missing-prometheus-monitor-" ++ name)
      ns .warning "Workload exposes a metrics port but has no ServiceMonitor or PodMonitor"
      [("expectedKind", .str "ServiceMonitor"), ("expectedAPIVersion", .str "monitoring.coreos.com/v1"),
        ("reason",
          .str "Workload has a port named metrics or http-metrics but no Prometheus monitor targets it")]
      ["prometheus", "monitoring", "missing-resource"]]

omit [Apimachinery] in
def hostMatchesWorkload (host workloadName ns : String) : Bool :=
  if host = "" then false
  else decide (trimSpace host = workloadName) || decide (trimSpace host = workloadName ++ "." ++ ns) ||
    decide (trimSpace host = workloadName ++ "." ++ ns ++ ".svc.cluster.local")

/-- The loops over the routes of one type, which are the same for all three types. -/
def routesToHost (vs : Unstructured) (workloadName ns routeType : String) : Bool :=
  ((Util.safeNestedSlice vs.object ["spec", routeType]).getD []).any (fun entry =>
    (asMap entry).any (fun entry : Obj => ((Util.safeNestedSlice entry ["route"]).getD []).any (fun route =>
      (asMap route).any (fun route : Obj =>
        hostMatchesWorkload (Util.safeNestedString route ["destination", "host"]) workloadName ns))))

def vsRoutesToHost (vs : Unstructured) (workloadName ns : String) : Bool :=
  routesToHost vs workloadName ns "http" || ["tcp", "tls"].any (routesToHost vs workloadName ns)

def vsMatchesWorkload (vsList : List Unstructured) (workloadName ns : String) : Bool :=
  vsList.any (fun vs => vsRoutesToHost vs workloadName ns)

def drMatchesWorkload (drList : List Unstructured) (workloadName ns : String) : Bool :=
  drList.any (fun dr => hostMatchesWorkload (Util.safeNestedString dr.object ["spec", "host"]) workloadName ns)

def istioRoutingRule (eval : EvalContext) (workload : Unstructured) : RuleAnswer :=
  let name := getName workload
  let ns := getNamespace workload
  if (getAnnotations workload).lookup "sidecar.istio.io/status" = none then .ok []
  else if ns = "" then .ok []
  else
    unlessFound (eval.listByGVR virtualServiceGVR ns) (fun vsList => vsMatchesWorkload vsList name ns) <|
    unlessFound (eval.listByGVR destinationRuleGVR ns) (fun drList => drMatchesWorkload drList name ns) <|
    .ok [missingConstraint ("missing:istio-routing:" ++ ns ++ "/" ++ name) ("missing-istio-routing-" ++ name)
      ns .warning "Workload has Istio sidecar but no VirtualService or DestinationRule"
      [("expectedKind", .str "VirtualService"), ("expectedAPIVersion", .str "networking.istio.io/v1"),
        ("reason", .str "Workload has sidecar.istio.io/status annotation but no routing rules")]
      ["istio", "routing", "missing-resource"]]

def hasMeshWidePA (paList : List Unstructured) : Bool :=
  paList.any (fun pa => ((Util.safeNestedMap pa.object ["spec", "selector"]).getD []).isEmpty ||
    (Util.safeNestedMap pa.object ["spec", "selector", "matchLabels"]).any List.isEmpty)

def meshWideFound (eval : EvalContext) (ns : String) : Bool :=
  decide (ns ≠ "istio-system") &&
    match eval.listByGVR peerAuthenticationGVR "istio-system" with
    | .error _ => false
    | .ok meshPAList => hasMeshWidePA meshPAList

def istioMTLSRule (eval : EvalContext) (workload : Unstructured) : RuleAnswer :=
  let ns := getNamespace workload
  if ns = "" then .ok []
  else
    (eval.getNamespace ns).bind (fun nsObj =>
      if (getLabels nsObj).lookup "istio-injection" ≠ some "enabled" then .ok []
      else
        unlessFound (eval.listByGVR peerAuthenticationGVR ns) (fun paList => !paList.isEmpty) <|
        if meshWideFound eval ns then .ok []
        else .ok [missingConstraint ("missing:istio-mtls:" ++ ns ++ "/" ++ getName workload)
          ("missing-peer-authentication-" ++ ns) ns .warning
          "Namespace has Istio injection enabled but no PeerAuthentication policy"
          [("expectedKind", .str "PeerAuthentication"), ("expectedAPIVersion", .str "security.istio.io/v1"),
            ("reason",
              .str "Namespace has istio-injection=enabled label but no mTLS policy; using mesh-wide defaults")]
          ["istio", "mtls", "security", "missing-resource"]])

def issuerExists (eval : EvalContext) (gvr : GVR) (ns issuerName : String) : Except String Bool :=
  (eval.listByGVR gvr ns).map (fun list => list.any (fun obj => decide (getName obj = issuerName)))

omit [Apimachinery] in
def makeCertConstraint [Unicode] (workloadName namespaceName issuerKind issuerName : String) : Constraint :=
  let ns := if namespaceName = "" then "cluster" else namespaceName
  missingConstraint
    ("missing:cert-issuer:" ++ ns ++ "/" ++ workloadName ++ ":" ++ toLower issuerKind ++ "/" ++ issuerName)
    ("missing-" ++ toLower issuerKind ++ "-" ++ issuerName) namespaceName .critical
    (issuerKind ++ " " ++ issuerName ++ " referenced by workload does not exist")
    [("expectedKind", .str issuerKind), ("expectedAPIVersion", .str "cert-manager.io/v1"),
      ("reason", .str
        ("Workload annotation references " ++ issuerKind ++ " " ++ issuerName ++ " which does not exist")),
      ("issuerName", .str issuerName)]
    ["cert-manager", "tls", "missing-resource"]

def requireIssuer [Unicode] (eval : EvalContext) (gvr : GVR) (listNs : String) (workload : Unstructured)
    (issuerKind issuerName : String) : RuleAnswer :=
  (issuerExists eval gvr listNs issuerName).bind (fun found =>
    if !found then .ok [makeCertConstraint (getName workload) (getNamespace workload) issuerKind issuerName]
    else .ok [])

def certIssuerRule [Unicode] (eval : EvalContext) (workload : Unstructured) : RuleAnswer :=
  let named (key : String) : Option String := ((getAnnotations workload).lookup key).filter (fun v => decide (v ≠ ""))
  let ns := getNamespace workload
  match named "cert-manager.io/cluster-issuer", named "cert-manager.io/issuer-name" with
  | some clusterIssuerName, _ => requireIssuer eval clusterIssuerGVR "" workload "ClusterIssuer" clusterIssuerName
  | none, some issuerName =>
      if ns = "" then .ok [] else requireIssuer eval issuerGVR ns workload "Issuer" issuerName
  | none, none => .ok []

/-- The rules that the controller registers. -/
inductive Rule where
  | prometheusMonitor
  | istioRouting
  | istioMTLS
  | certIssuer
deriving DecidableEq, Repr

namespace Rule

def all : List Rule := [prometheusMonitor, istioRouting, istioMTLS, certIssuer]

def name : Rule → String
  | prometheusMonitor => "prometheus-monitor"
  | istioRouting => "istio-routing"
  | istioMTLS => "istio-mtls"
  | certIssuer => "cert-issuer"

def evaluate [Unicode] : Rule → EvalContext → Unstructured → RuleAnswer
  | prometheusMonitor => prometheusMonitorRule
  | istioRouting => istioRoutingRule
  | istioMTLS => istioMTLSRule
  | certIssuer => certIssuerRule

end Rule

def ListGrows (answer answer' : Except String (List Unstructured)) : Prop :=
  ∃ list list', answer = .ok list ∧ answer' = .ok list' ∧ list ⊆ list'

/-- No question meets an error in either context, the namespace objects are the same, and
every list of the second holds every object of the first. -/
structure EvalContext.Grows (eval eval' : EvalContext) : Prop where
  getNamespace : ∀ ns, ∃ nsObj, eval.getNamespace ns = .ok nsObj ∧ eval'.getNamespace ns = .ok nsObj
  listByGVR : ∀ gvr ns, ListGrows (eval.listByGVR gvr ns) (eval'.listByGVR gvr ns)
  findMatchingResources : ∀ gvr ns labels,
    ListGrows (eval.findMatchingResources gvr ns labels) (eval'.findMatchingResources gvr ns labels)

def Persists (found : List Unstructured → Bool) : Prop :=
  ∀ ⦃list list'⦄, list ⊆ list' → found list = true → found list' = true

omit [Apimachinery] in
theorem persists_any (p : Unstructured → Bool) : Persists (fun list => list.any p) := by
  intro list list' hsub hany
  obtain ⟨obj, hobj, hp⟩ := List.any_eq_true.mp hany
  exact List.any_eq_true.mpr ⟨obj, hsub hobj, hp⟩

omit [Apimachinery] in
theorem persists_nonempty : Persists (fun list => !list.isEmpty) := by
  intro list list' hsub hne
  obtain ⟨obj, hobj⟩ := List.exists_mem_of_ne_nil list (by simpa using hne)
  simpa using List.ne_nil_of_mem (hsub hobj)

omit [Apimachinery] in
theorem unlessFound_monotone {answer answer' : Except String (List Unstructured)} {found : List Unstructured → Bool}
    {otherwise otherwise' : RuleAnswer} (hgrows : ListGrows answer answer') (hfound : Persists found)
    (hotherwise : otherwise = .ok [] → otherwise' = .ok []) (h : unlessFound answer found otherwise = .ok []) :
    unlessFound answer' found otherwise' = .ok [] := by
  obtain ⟨list, list', rfl, rfl, hsub⟩ := hgrows
  change (if found list then _ else _) = _ at h
  change (if found list' then _ else _) = _
  split at h
  · exact if_pos (hfound hsub ‹_›)
  · split
    · rfl
    · exact hotherwise h

omit [Apimachinery] in
theorem guard_monotone {p : Prop} [Decidable p] {rest rest' : RuleAnswer} (hrest : rest = .ok [] → rest' = .ok [])
    (h : (if p then .ok [] else rest) = .ok []) : (if p then .ok [] else rest') = .ok [] := by
  split
  · rfl
  · rw [if_neg ‹_›] at h
    exact hrest h

section Monotone
variable {eval eval' : EvalContext} (hgrows : eval.Grows eval')

include hgrows

theorem prometheusMonitorRule_monotone (workload : Unstructured) (h : prometheusMonitorRule eval workload = .ok []) :
    prometheusMonitorRule eval' workload = .ok [] := by
  rw [prometheusMonitorRule] at h ⊢
  refine guard_monotone (guard_monotone (guard_monotone (fun h => ?_))) h
  refine unlessFound_monotone (hgrows.findMatchingResources ..) persists_nonempty (fun h => ?_) h
  exact unlessFound_monotone (hgrows.findMatchingResources ..) persists_nonempty id h

theorem istioRoutingRule_monotone (workload : Unstructured) (h : istioRoutingRule eval workload = .ok []) :
    istioRoutingRule eval' workload = .ok [] := by
  rw [istioRoutingRule] at h ⊢
  refine guard_monotone (guard_monotone (fun h => ?_)) h
  refine unlessFound_monotone (hgrows.listByGVR ..) (persists_any _) (fun h => ?_) h
  exact unlessFound_monotone (hgrows.listByGVR ..) (persists_any _) id h

theorem meshWideFound_monotone {ns : String} (h : meshWideFound eval ns = true) : meshWideFound eval' ns = true := by
  obtain ⟨list, list', heval, heval', hsub⟩ := hgrows.listByGVR peerAuthenticationGVR "istio-system"
  rw [meshWideFound, heval, Bool.and_eq_true] at h
  rw [meshWideFound, heval', Bool.and_eq_true]
  exact ⟨h.1, persists_any _ hsub h.2⟩

theorem istioMTLSRule_monotone (workload : Unstructured) (h : istioMTLSRule eval workload = .ok []) :
    istioMTLSRule eval' workload = .ok [] := by
  rw [istioMTLSRule] at h ⊢
  obtain ⟨nsObj, heval, heval'⟩ := hgrows.getNamespace (getNamespace workload)
  rw [heval] at h
  rw [heval']
  refine guard_monotone (guard_monotone (fun h => ?_)) h
  refine unlessFound_monotone (hgrows.listByGVR ..) persists_nonempty (fun h => ?_) h
  split at h
  · exact if_pos (meshWideFound_monotone hgrows ‹_›)
  · cases h

theorem requireIssuer_monotone [Unicode] {gvr : GVR} {listNs issuerKind issuerName : String} {workload : Unstructured}
    (h : requireIssuer eval gvr listNs workload issuerKind issuerName = .ok []) :
    requireIssuer eval' gvr listNs workload issuerKind issuerName = .ok [] := by
  obtain ⟨list, list', heval, heval', hsub⟩ := hgrows.listByGVR gvr listNs
  rw [requireIssuer, issuerExists, heval] at h
  rw [requireIssuer, issuerExists, heval']
  change (if _ then _ else _) = _ at h
  change (if _ then _ else _) = _
  split at h
  · cases h
  · rename_i hfound
    rw [Bool.not_eq_true, Bool.not_eq_false'] at hfound
    rw [if_neg]
    simpa using persists_any _ hsub hfound

theorem certIssuerRule_monotone [Unicode] (workload : Unstructured) (h : certIssuerRule eval workload = .ok []) :
    certIssuerRule eval' workload = .ok [] := by
  rw [certIssuerRule] at h ⊢
  split
  · rename_i hnamed
    rw [hnamed] at h
    exact requireIssuer_monotone hgrows h
  · rename_i hcluster hissuer
    rw [hcluster, hissuer] at h
    exact guard_monotone (requireIssuer_monotone hgrows) h
  · rfl

end Monotone

/-- Objects added to the cluster never make one of the rules report something missing. -/
theorem rules_monotone [Unicode] {eval eval' : EvalContext} (hgrows : eval.Grows eval') (rule : Rule)
    (workload : Unstructured) (h : rule.evaluate eval workload = .ok []) : rule.evaluate eval' workload = .ok [] := by
  cases rule with
  | prometheusMonitor => exact prometheusMonitorRule_monotone hgrows workload h
  | istioRouting => exact istioRoutingRule_monotone hgrows workload h
  | istioMTLS => exact istioMTLSRule_monotone hgrows workload h
  | certIssuer => exact certIssuerRule_monotone hgrows workload h

/-- The dynamic client, as far as the rules use it. A list with no namespace is over the whole cluster. -/
structure DynamicClient where
  getNamespace : String → Except String Unstructured
  list : GVR → String → Except String (List Unstructured)

section DynamicEvalContext
variable [Unicode] [LabelSelectors]

omit [Unicode] in
/-- A resource without a selector targets no particular workload. -/
def selects (labels : List (String × String)) (obj : Unstructured) : Bool :=
  (Util.safeNestedLabelSelector obj.object ["spec", "selector"]).any
    (fun selector => Util.matchesLabelSelector (some selector) labels)

namespace DynamicClient

omit [Apimachinery] [LabelSelectors] in
def listByGVR (client : DynamicClient) (gvr : GVR) (ns : String) : Except String (List Unstructured) :=
  (client.list gvr ns).mapError (fun err => "list " ++ gvr.resource ++ " in " ++ quote ns ++ ": " ++ err)

def findMatchingResources (client : DynamicClient) (gvr : GVR) (ns : String) (labels : List (String × String)) :
    Except String (List Unstructured) :=
  (client.listByGVR gvr ns).map (List.filter (selects labels))

omit [Apimachinery] [LabelSelectors] in
theorem listByGVR_grows {client client' : DynamicClient} {gvr : GVR} {ns : String}
    (hlists : ListGrows (client.list gvr ns) (client'.list gvr ns)) :
    ListGrows (client.listByGVR gvr ns) (client'.listByGVR gvr ns) := by
  obtain ⟨list, list', hclient, hclient', hsub⟩ := hlists
  rw [listByGVR, hclient, listByGVR, hclient']
  exact ⟨list, list', rfl, rfl, hsub⟩

theorem findMatchingResources_grows {client client' : DynamicClient} {gvr : GVR} {ns : String}
    (hlists : ListGrows (client.list gvr ns) (client'.list gvr ns)) (labels : List (String × String)) :
    ListGrows (client.findMatchingResources gvr ns labels) (client'.findMatchingResources gvr ns labels) := by
  obtain ⟨list, list', hclient, hclient', hsub⟩ := listByGVR_grows hlists
  rw [findMatchingResources, hclient, findMatchingResources, hclient']
  exact ⟨_, _, rfl, rfl, List.filter_subset _ hsub⟩

end DynamicClient

def dynamicEvalContext (client : DynamicClient) : EvalContext where
  getNamespace name := (client.getNamespace name).mapError (fun err => "get namespace " ++ quote name ++ ": " ++ err)
  listByGVR := client.listByGVR
  findMatchingResources := client.findMatchingResources

theorem dynamicEvalContext_grows {client client' : DynamicClient}
    (hnamespaces : ∀ ns, ∃ nsObj, client.getNamespace ns = .ok nsObj ∧ client'.getNamespace ns = .ok nsObj)
    (hlists : ∀ gvr ns, ListGrows (client.list gvr ns) (client'.list gvr ns)) :
    (dynamicEvalContext client).Grows (dynamicEvalContext client') where
  getNamespace ns := by
    obtain ⟨nsObj, hclient, hclient'⟩ := hnamespaces ns
    simp only [dynamicEvalContext, hclient, hclient']
    exact ⟨nsObj, rfl, rfl⟩
  listByGVR gvr ns := DynamicClient.listByGVR_grows (hlists gvr ns)
  findMatchingResources gvr ns := DynamicClient.findMatchingResources_grows (hlists gvr ns)

end DynamicEvalContext

end Rules

section Samples
attribute [local instance] Apimachinery.model asciiTables LabelSelectors.model

def metricsApp : Unstructured :=
  ⟨[("metadata", .map [("name", .str "my-app"), ("namespace", .str "team")]),
    ("spec", .map [("template", .map [
      ("metadata", .map [("labels", .map [("app", .str "my-app")])]),
      ("spec", .map [("containers", .slice [.map [("ports", .slice [.map [("name", .str "metrics")]])]])])])])]⟩

def monitorOf (app : String) : Unstructured :=
  ⟨[("metadata", .map [("name", .str app)]),
    ("spec", .map [("selector", .map [("matchLabels", .map [("app", .str app)])])])]⟩

def monitored (apps : List String) : DynamicClient where
  getNamespace name := .ok ⟨[("metadata", .map [("name", .str name)])]⟩
  list gvr _ := .ok (if gvr = serviceMonitorGVR then apps.map monitorOf else [])

theorem monitored_grows {apps apps' : List String} (hsub : apps ⊆ apps') :
    (dynamicEvalContext (monitored apps)).Grows (dynamicEvalContext (monitored apps')) := by
  refine dynamicEvalContext_grows (fun ns => ⟨_, rfl, rfl⟩) (fun gvr ns => ⟨_, _, rfl, rfl, ?_⟩)
  split
  · exact List.map_subset monitorOf hsub
  · exact List.Subset.refl _

theorem rules_monotone_monitored :
    Rule.prometheusMonitor.evaluate (dynamicEvalContext (monitored ["my-app"])) metricsApp = .ok [] ∧
    Rule.prometheusMonitor.evaluate (dynamicEvalContext (monitored ["other", "my-app"])) metricsApp = .ok [] := by
  have hpresent : Rule.prometheusMonitor.evaluate (dynamicEvalContext (monitored ["my-app"])) metricsApp = .ok [] := by
    rfl
  exact ⟨hpresent, rules_monotone (monitored_grows (by simp)) .prometheusMonitor metricsApp hpresent⟩

example : (Rule.prometheusMonitor.evaluate (dynamicEvalContext (monitored ["other"])) metricsApp).toOption.map
    (List.map Constraint.uid) = some ["missing:prometheus-monitor:team/my-app"] := by decide +kernel

end Samples

end Nightjar.Requirements
