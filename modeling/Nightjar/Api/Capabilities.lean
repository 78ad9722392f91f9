import Nightjar.Discovery.ClusterMirror
import Nightjar.Adapters.Settings
import Nightjar.Mcp.Resources

namespace Nightjar.Api

open Lib Lib.Strings Adapters Discovery Mcp

structure AdapterInfo where
  name : String
  enabled : Bool
  watchedResources : List String
  constraintCount : Nat := 0
  errorCount : Nat := 0
  reason : String := ""
deriving DecidableEq, Repr

structure HubbleStatus where
  enabled : Bool
  connected : Bool
  address : String
deriving DecidableEq, Repr

structure MCPStatus where
  enabled : Bool
  transport : String
  port : Nat
deriving DecidableEq, Repr

structure CapabilitiesResponse where
  version : String
  adapters : List AdapterInfo
  constraintTypes : Table String Nat
  totalConstraints : Nat
  namespaceCount : Nat
  watchedResources : Nat
  hubbleStatus : Option HubbleStatus
  mcpStatus : Option MCPStatus
  lastScanTime : String
  upSince : String

/-- The handler; times are in the format of the response, and the last scan has none until
`SetLastScanTime` is called. -/
structure CapabilitiesHandler where
  adapters : List AdapterInfo
  hubbleStatus : Option HubbleStatus := none
  mcpStatus : Option MCPStatus := none
  startTime : String
  lastScanTime : Option String := none
deriving DecidableEq, Repr

def resourceToAdapterName (resource : String) : String :=
  match resource with
  | "networkpolicies" => "networkpolicy"
  | "resourcequotas" => "resourcequota"
  | "limitranges" => "limitrange"
  | "validatingwebhookconfigurations" | "mutatingwebhookconfigurations" => "webhookconfig"
  | "ciliumnetworkpolicies" | "ciliumclusterwidenetworkpolicies" => "cilium"
  | "constrainttemplates" | "constraints" => "gatekeeper"
  | "clusterpolicies" | "policies" => "kyverno"
  | _ => "generic"

def defaultAdapters : List AdapterInfo :=
  [{ name := "networkpolicy", enabled := true, watchedResources := ["networkpolicies"] },
    { name := "resourcequota", enabled := true, watchedResources := ["resourcequotas"] },
    { name := "limitrange", enabled := true, watchedResources := ["limitranges"] },
    { name := "webhookconfig", enabled := true,
      watchedResources := ["validatingwebhookconfigurations", "mutatingwebhookconfigurations"] },
    { name := "generic", enabled := true, watchedResources := [] }]

def adapterCounts (allConstraints : List Constraint) : Table String Nat :=
  Table.tally (allConstraints.map (fun c => resourceToAdapterName c.source.resource))

def CapabilitiesHandler.buildResponse (h : CapabilitiesHandler) (now : String) (allConstraints : List Constraint) :
    CapabilitiesResponse where
  version := "1"
  adapters := h.adapters.map (fun a =>
    { a with constraintCount := ((adapterCounts allConstraints).lookup a.name).getD 0 })
  constraintTypes := typeCount allConstraints
  totalConstraints := allConstraints.length
  namespaceCount := (nsSet allConstraints).size
  watchedResources := (h.adapters.map (fun a => a.watchedResources.length)).sum
  hubbleStatus := h.hubbleStatus
  mcpStatus := h.mcpStatus
  lastScanTime := h.lastScanTime.getD now
  upSince := h.startTime

/-- The HTTP API, the MCP resources and the list of namespaces count the same, in whatever orders the
index enumerates its constraints for them: as many constraints as it holds, as many namespaces as are
listed, and of each type as many as there are, with no type of which there is none. -/
theorem endpoint_counts_agree (h : CapabilitiesHandler) (now : String) (idx : Indexer)
    {cs mcs hcs lcs : List Constraint} (hapi : cs.Perm idx.all) (hmcp : mcs.Perm idx.all) (hhealth : hcs.Perm idx.all)
    (hlist : lcs.Perm idx.all) :
    let api := h.buildResponse now cs
    let mcp := handleCapabilitiesResource now mcs
    let health := (handleHealthResource now hcs).indexer
    (api.totalConstraints = idx.all.length ∧ mcp.totalConstraints = idx.all.length ∧
        health.totalConstraints = idx.all.length) ∧
      (api.namespaceCount = (handleListNamespaces lcs).length ∧
        mcp.namespaceCount = (handleListNamespaces lcs).length ∧
        health.namespacesWithConstraints = (handleListNamespaces lcs).length) ∧
      (∀ t, api.constraintTypes.lookup t = mcp.constraintTypes.lookup t ∧
        (api.constraintTypes.lookup t).getD 0 = idx.all.countP (fun c => c.constraintType.text = t) ∧
        api.constraintTypes.lookup t ≠ some 0) ∧
      (Table.collect api.constraintTypes (fun _ n => [n])).sum = api.totalConstraints := by
  have hcount (t : String) : (cs.map (fun c => c.constraintType.text)).count t =
      idx.all.countP (fun c => c.constraintType.text = t) := by
    rw [ListNamespaces.count_map, hapi.countP_eq]
  refine ⟨⟨hapi.length_eq, hmcp.length_eq, hhealth.length_eq⟩, ⟨?_, ?_, ?_⟩, fun t => ⟨?_, ?_, ?_⟩, ?_⟩
  · exact size_nsSet (hapi.trans hlist.symm)
  · exact size_nsSet (hmcp.trans hlist.symm)
  · exact size_nsSet (hhealth.trans hlist.symm)
  · exact typeCount_perm (hapi.trans hmcp.symm) t
  · exact (Table.getD_lookup_tally _ t).trans (hcount t)
  · intro hzero
    have hlookup := Table.lookup_tally (cs.map (fun c => c.constraintType.text)) t
    rw [show (Table.tally _).lookup t = some 0 from hzero] at hlookup
    split at hlookup
    · rename_i hmem
      exact absurd (Option.some.inj hlookup).symm (List.count_pos_iff.mpr hmem).ne'
    · cases hlookup
  · exact (Table.sum_tally _).trans (List.length_map _)

section Attribution

variable [Apimachinery] [Unicode]

/-- The name under which the constraints of the object are counted. Those of Gatekeeper and of the generic
adapter go by the resource: for Gatekeeper the plural of the kind, and for an object that no adapter is
registered for the resource that the engine watches. -/
def countedUnder (a : Arrival Builtin) : String :=
  match a.engine.route a.order a.gvr with
  | .adapter .gatekeeper => resourceToAdapterName (Gatekeeper.gvrFromObject a.event.object).resource
  | .adapter .generic => resourceToAdapterName (Builtin.generic.sourceOf a.event.object).resource
  | .adapter b => b.name
  | .generic | .genericWith _ => resourceToAdapterName a.gvr.resource

theorem resourceToAdapterName_sourceOf {b : Builtin} (hgatekeeper : b ≠ .gatekeeper) (hgeneric : b ≠ .generic)
    (obj : Unstructured) : resourceToAdapterName (b.sourceOf obj).resource = b.name := by
  cases b with
  | networkPolicy | resourceQuota | limitRange => rfl
  | cilium =>
      simp only [Builtin.sourceOf, Cilium.sourceOf]
      split <;> rfl
  | webhookConfig =>
      simp only [Builtin.sourceOf, WebhookConfig.sourceOf]
      split <;> rfl
  | kyverno =>
      simp only [Builtin.sourceOf, Kyverno.sourceOf]
      split <;> rfl
  | gatekeeper => exact absurd rfl hgatekeeper
  | generic => exact absurd rfl hgeneric

theorem resourceToAdapterName_of_mem {a : Arrival Builtin} {c : Constraint} (hc : c ∈ a.constraints) :
    resourceToAdapterName c.source.resource = countedUnder a := by
  rw [Arrival.constraints, Engine.parsed, Engine.parseObject] at hc
  rw [countedUnder]
  cases hroute : a.engine.route a.order a.gvr with
  | adapter b =>
      have hsource : c.source = b.sourceOf a.event.object := by
        have hsets := b.sets_parse a.event.object
        rw [hroute, show (Route.adapter b).parse a.gvr a.event.object = b.parse a.event.object from rfl] at hc
        cases hparse : b.parse a.event.object with
        | error err => simp [hparse] at hc
        | ok cs =>
            rw [hparse] at hsets
            simp only [hparse] at hc
            exact hsets.1 c hc
      rw [hsource]
      cases b with
      | gatekeeper | generic => rfl
      | _ => exact resourceToAdapterName_sourceOf Builtin.noConfusion Builtin.noConfusion _
  | generic =>
      rw [hroute] at hc
      rw [List.mem_singleton.mp hc]
      rfl
  | genericWith cfg =>
      simp only [hroute, Route.parse, Generic.parseWithConfig_eq, List.mem_singleton] at hc
      rw [hc]
      rfl

omit [Apimachinery] [Unicode] in
theorem resourceToAdapterName_mem (resource : String) : resourceToAdapterName resource ∈
    defaultAdapters.map AdapterInfo.name ++ ["cilium", "gatekeeper", "kyverno"] := by
  unfold resourceToAdapterName
  split <;> decide

theorem countedUnder_mem (a : Arrival Builtin) : countedUnder a ∈
    defaultAdapters.map AdapterInfo.name ++ ["cilium", "gatekeeper", "kyverno"] := by
  rw [countedUnder]
  split
  · exact resourceToAdapterName_mem _
  · exact resourceToAdapterName_mem _
  · rename_i b _ _ _
    cases b <;> decide
  · exact resourceToAdapterName_mem _
  · exact resourceToAdapterName_mem _

theorem countP_constraints (objects : List (Arrival Builtin)) (q : String → Bool) :
    (objects.flatMap Arrival.constraints).countP (fun c => q (resourceToAdapterName c.source.resource)) =
      ((objects.filter (fun a => q (countedUnder a))).flatMap Arrival.constraints).length := by
  induction objects with
  | nil => rfl
  | cons a objects ih =>
      have hhead : a.constraints.countP (fun c => q (resourceToAdapterName c.source.resource)) =
          if q (countedUnder a) then a.constraints.length else 0 := by
        split
        · rename_i hq
          exact List.countP_eq_length.mpr fun c hc => by rw [resourceToAdapterName_of_mem hc, hq]
        · rename_i hq
          exact List.countP_eq_zero.mpr fun c hc => by rw [resourceToAdapterName_of_mem hc]; exact hq
      rw [List.flatMap_cons, List.countP_append, hhead, ih, List.filter_cons]
      split <;> simp

omit [Apimachinery] [Unicode] in
theorem constraintCount_eq {h : CapabilitiesHandler} {now : String} {cs : List Constraint} {a : AdapterInfo}
    (ha : a ∈ (h.buildResponse now cs).adapters) :
    a.constraintCount = cs.countP (fun c => resourceToAdapterName c.source.resource = a.name) := by
  obtain ⟨a, -, rfl⟩ := List.mem_map.mp ha
  exact (Table.getD_lookup_tally _ _).trans (ListNamespaces.count_map _ _ _)

/-- The counts of the default adapters are the numbers of constraints that the engine made of the live
objects that are counted under their names. What is counted under Cilium, Gatekeeper or Kyverno is in the
total, and under no adapter. -/
theorem adapter_counts (h : CapabilitiesHandler) (hdefault : h.adapters = defaultAdapters) (now : String)
    {hs : List (Arrival Builtin)} (hwatched : ∀ a ∈ hs, a.gvr ∈ a.engine.watchedGVRs)
    (huuid : ∀ a ∈ hs, Correlator.isUUID a.uid = true) (hslots : Arrival.SameSlots hs) {cs : List Constraint}
    (hcs : cs.Perm (Arrival.follow .new hs).all) :
    (∀ info ∈ (h.buildResponse now cs).adapters, info.constraintCount =
        (((Arrival.live hs).values.filter (fun a => countedUnder a = info.name)).flatMap Arrival.constraints).length) ∧
      ((h.buildResponse now cs).adapters.map AdapterInfo.constraintCount).sum +
          (((Arrival.live hs).values.filter (fun a => countedUnder a ∈ ["cilium", "gatekeeper", "kyverno"])).flatMap
            Arrival.constraints).length =
        (h.buildResponse now cs).totalConstraints := by
  have hperm := hcs.trans (Arrival.index_mirrors_cluster hwatched huuid hslots)
  constructor
  · intro info hinfo
    rw [constraintCount_eq hinfo, hperm.countP_eq]
    exact countP_constraints _ (fun name => decide (name = info.name))
  · have hnames : (defaultAdapters.map AdapterInfo.name).Nodup := by decide
    have hsum := sum_count_add hnames (cs.map (fun c => resourceToAdapterName c.source.resource))
    have hlisted : (h.buildResponse now cs).adapters.map AdapterInfo.constraintCount =
        (defaultAdapters.map AdapterInfo.name).map
          (fun n => (cs.map (fun c => resourceToAdapterName c.source.resource)).count n) := by
      rw [List.map_map, ← hdefault]
      refine List.map_map.trans (List.map_congr_left fun a _ => ?_)
      exact Table.getD_lookup_tally _ _
    have hunlisted (a : Arrival Builtin) : countedUnder a ∈ ["cilium", "gatekeeper", "kyverno"] ↔
        countedUnder a ∉ defaultAdapters.map AdapterInfo.name := by
      have hmem := countedUnder_mem a
      generalize countedUnder a = name at hmem
      revert name
      decide
    have hrest := countP_constraints (Arrival.live hs).values
      (fun name => decide (name ∉ defaultAdapters.map AdapterInfo.name))
    rw [← hperm.countP_eq] at hrest
    rw [List.countP_map, List.length_map] at hsum
    simp only [hunlisted]
    rw [hlisted, ← hrest]
    exact hsum

end Attribution

section Samples

attribute [local instance] Apimachinery.model asciiTables

theorem endpoint_counts_agree_quota :
    (quotaIndex ["team", "other"]).all.reverse.Perm (quotaIndex ["team", "other"]).all ∧
      (handleCapabilitiesResource "now" (quotaIndex ["team", "other"]).all).namespaceCount =
        (handleListNamespaces (quotaIndex ["team", "other"]).all.reverse).length :=
  have hreverse := List.reverse_perm (quotaIndex ["team", "other"]).all
  ⟨hreverse, (endpoint_counts_agree { adapters := defaultAdapters, startTime := "" } "now" _ hreverse (.refl _)
    hreverse hreverse).2.1.2.1⟩

def clusterObject (uid apiVersion kind : String) (spec : Obj) : Unstructured :=
  ⟨[("apiVersion", .str apiVersion), ("kind", .str kind),
    ("metadata", .map [("name", .str "sample"), ("uid", .str uid), ("namespace", .str "team")]), ("spec", .map spec)]⟩

def policies : List (Arrival Builtin) :=
  [.of NetworkPolicy.gvr (.added (clusterObject "0c6e8f5a-93d1-4b7e-a2f4-5d8b1e7c3a90" "networking.k8s.io/v1"
      "NetworkPolicy" [])),
    .of ⟨"crd.projectcalico.org", "v1", "networkpolicies"⟩ (.added (clusterObject
      "1d7f9a6b-a4e2-4c8f-b3a5-6e9c2f8d4ba1" "crd.projectcalico.org/v1" "NetworkPolicy" [])),
    .of ⟨"constraints.gatekeeper.sh", "v1beta1", "k8srequiredlabels"⟩ (.added (clusterObject
      "2e8aab7c-b5f3-4d9a-84b6-7fad3a9e5cb2" "constraints.gatekeeper.sh/v1beta1" "K8sRequiredLabels" [])),
    .of Kyverno.gvrPolicy (.added (clusterObject "3f9bbc8d-c6a4-4eab-95c7-8abe4baf6dc3" "kyverno.io/v1" "Policy"
      [("rules", .slice [.map [("name", .str "tag")]])]))]

theorem sameSlots_policies : Arrival.SameSlots policies := by
  constructor
  · decide +kernel
  · have hsame : ∀ a ∈ policies, ∀ a' ∈ policies, a.uid = a'.uid → a.slots = a'.slots := by decide +kernel
    intro a ha a' ha' huid
    rw [hsame a ha a' ha' huid]
    exact fun _ => id

theorem adapter_counts_policies :
    policies.map countedUnder = ["networkpolicy", "networkpolicy", "generic", "kyverno"] ∧
      (((CapabilitiesHandler.mk defaultAdapters none none "" none).buildResponse "now"
        (Arrival.follow .new policies).all).adapters.map AdapterInfo.constraintCount).sum = 3 := by
  have hwatched : ∀ a ∈ policies, a.gvr ∈ a.engine.watchedGVRs := by decide +kernel
  have huuid : ∀ a ∈ policies, Correlator.isUUID a.uid = true := by decide +kernel
  have hsum := (adapter_counts ⟨defaultAdapters, none, none, "", none⟩ rfl "now" hwatched huuid sameSlots_policies
    (.refl _)).2
  have hothers : (((Arrival.live policies).values.filter (fun a => countedUnder a ∈
      ["cilium", "gatekeeper", "kyverno"])).flatMap Arrival.constraints).length = 1 := by decide +kernel
  have htotal : (Arrival.follow .new policies).all.length = 4 := by decide +kernel
  rw [hothers] at hsum
  exact ⟨by decide +kernel, Nat.succ.inj (hsum.trans htotal)⟩

end Samples

end Nightjar.Api
